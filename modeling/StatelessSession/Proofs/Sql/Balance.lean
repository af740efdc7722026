import StatelessSession.Error
import StatelessSession.Proofs.Sql.Names

/-!
# Balanced text is cut exactly

The splitter of column structures goes through a text once, with a depth, the quote that is open and
a mark for a backslash. What it accepts can be said without any of these: leave out the quotations,
and then count parentheses. Only a text that is nested 2 ^ 31 deep is beyond what it can count.

* `Levels`, `Sheltered` -- counts of parentheses; **`Balanced`**, **`IsItem`**.
* `Place.Fits` -- what may follow where the splitter stands; `fits_go` -- one step.
* **`fits_iff`** -- the splitter accepts what fits.
* `balanced_iff`, `isItem_iff`, `ofStructure_eq_ok_iff` -- texts, items and columns.
* **`cutExactly`** -- a text is cut if and only if it is balanced, in one way only, and loses
  nothing.

NOT here: the grammar of well nested text (`Nesting`), and what a column is cut into (`Names`).
-/

namespace StatelessSession.Sql.Column

variable {c q : Char} {d : Nat} {depth : Int32} {free : Bool} {s t : List Char}
  {xs : List (List Char)} {place next : Place}

/-! ## 1. Counts -/

/-- **All parentheses are closed** after `t`, if `d` are open before it, and up to no point are more
    closed than open. -/
structure Levels (d : Nat) (t : List Char) : Prop where
  upTo : ∀ u, u <+: t → u.count ')' ≤ d + u.count '('
  whole : t.count ')' = d + t.count '('

/-- At every comma of `t` a parenthesis is open, if `d` are open before `t`. -/
def Sheltered (d : Nat) (t : List Char) : Prop :=
  ∀ u, u ++ [','] <+: t → u.count ')' < d + u.count '('

/-- **A balanced text**: every quotation is closed, and outside of them every prefix has at least as
    many opening parentheses as closing ones, and the whole as many. -/
def Balanced (s : List Char) : Prop := ∃ t, Unquoted s t ∧ Levels 0 t

/-- **A balanced text without a comma** outside quotations and parentheses. -/
def IsItem (s : List Char) : Prop := ∃ t, Unquoted s t ∧ Levels 0 t ∧ Sheltered 0 t

theorem forall_prefix_cons {P : List Char → Prop} :
    (∀ u, u <+: c :: t → P u) ↔ P [] ∧ ∀ u, u <+: t → P (c :: u) := by
  constructor
  · intro h
    exact ⟨h [] List.nil_prefix, fun u hu => h (c :: u) ((List.cons_prefix_cons).2 ⟨rfl, hu⟩)⟩
  · intro ⟨hnil, hcons⟩ u hu
    rcases List.prefix_cons_iff.1 hu with rfl | ⟨v, rfl, hv⟩
    · exact hnil
    · exact hcons v hv

theorem levels_cons :
    Levels d (c :: t) ↔ (∀ u, u <+: t → (c :: u).count ')' ≤ d + (c :: u).count '(') ∧
      (c :: t).count ')' = d + (c :: t).count '(' := by
  constructor
  · intro h
    exact ⟨(forall_prefix_cons.1 h.upTo).2, h.whole⟩
  · intro ⟨hfirst, hwhole⟩
    exact ⟨forall_prefix_cons.2 ⟨Nat.zero_le _, hfirst⟩, hwhole⟩

theorem sheltered_cons :
    Sheltered d (c :: t) ↔ (c = ',' → 0 < d) ∧
      ∀ u, u ++ [','] <+: t → (c :: u).count ')' < d + (c :: u).count '(' := by
  constructor
  · intro h
    refine ⟨fun hc => ?_, fun u hu => h (c :: u) (List.cons_prefix_cons.2 ⟨rfl, hu⟩)⟩
    exact h [] (List.cons_prefix_cons.2 ⟨hc.symm, List.nil_prefix⟩)
  · intro ⟨hfirst, hrest⟩ u hu
    cases u with
    | nil => exact hfirst (List.cons_prefix_cons.1 hu).1.symm
    | cons x u =>
      obtain ⟨hx, hv⟩ := List.cons_prefix_cons.1 (show x :: (u ++ [',']) <+: c :: t from hu)
      exact hx ▸ hrest u hv

theorem count_cons_open (u : List Char) :
    ('(' :: u).count ')' = u.count ')' ∧ ('(' :: u).count '(' = u.count '(' + 1 :=
  ⟨List.count_cons_of_ne (by decide), List.count_cons_self⟩

theorem count_cons_close (u : List Char) :
    (')' :: u).count ')' = u.count ')' + 1 ∧ (')' :: u).count '(' = u.count '(' :=
  ⟨List.count_cons_self, List.count_cons_of_ne (by decide)⟩

theorem count_cons_plain (ho : c ≠ '(') (hc : c ≠ ')') (u : List Char) :
    (c :: u).count ')' = u.count ')' ∧ (c :: u).count '(' = u.count '(' :=
  ⟨List.count_cons_of_ne hc, List.count_cons_of_ne ho⟩

/-- An opening parenthesis adds one to those that are open. -/
theorem levels_open : Levels d ('(' :: t) ↔ Levels (d + 1) t := by
  simp only [levels_cons, count_cons_open, ← Nat.add_assoc, Nat.add_right_comm d _ 1]
  exact ⟨fun h => ⟨h.1, h.2⟩, fun h => ⟨h.upTo, h.whole⟩⟩

theorem sheltered_open : Sheltered d ('(' :: t) ↔ Sheltered (d + 1) t := by
  simp only [sheltered_cons, count_cons_open, ← Nat.add_assoc, Nat.add_right_comm d _ 1]
  exact ⟨fun h => h.2, fun h => ⟨fun e => absurd e (by decide), h⟩⟩

/-- A closing one takes one from them. -/
theorem levels_close : Levels (d + 1) (')' :: t) ↔ Levels d t := by
  simp only [levels_cons, count_cons_close, Nat.add_right_comm d 1, Nat.add_le_add_iff_right,
    Nat.add_right_cancel_iff]
  exact ⟨fun h => ⟨h.1, h.2⟩, fun h => ⟨h.upTo, h.whole⟩⟩

theorem sheltered_close : Sheltered (d + 1) (')' :: t) ↔ Sheltered d t := by
  simp only [sheltered_cons, count_cons_close, Nat.add_right_comm d 1, Nat.add_lt_add_iff_right]
  exact ⟨fun h => h.2, fun h => ⟨fun e => absurd e (by decide), h⟩⟩

theorem not_levels_close : ¬ Levels 0 (')' :: t) := fun h => by
  have hone := h.upTo [')'] (List.cons_prefix_cons.2 ⟨rfl, List.nil_prefix⟩)
  exact absurd hone (by decide)

theorem levels_plain (ho : c ≠ '(') (hc : c ≠ ')') : Levels d (c :: t) ↔ Levels d t := by
  simp only [levels_cons, count_cons_plain ho hc]
  exact ⟨fun h => ⟨h.1, h.2⟩, fun h => ⟨h.upTo, h.whole⟩⟩

theorem sheltered_plain (ho : c ≠ '(') (hc : c ≠ ')') :
    Sheltered d (c :: t) ↔ (c = ',' → 0 < d) ∧ Sheltered d t := by
  simp only [sheltered_cons, count_cons_plain ho hc]
  rfl

theorem levels_nil : Levels d [] ↔ d = 0 := by
  constructor
  · intro h
    exact h.whole.symm
  · intro hd
    subst hd
    exact ⟨fun u hu => List.prefix_nil.1 hu ▸ Nat.le_refl 0, rfl⟩

theorem sheltered_nil : Sheltered d [] := fun u hu => by
  exact absurd (List.prefix_nil.1 hu) (List.append_ne_nil_of_right_ne_nil u (List.cons_ne_nil _ _))

theorem unquoted_plain (hq : isQuote c = false) :
    Unquoted (c :: s) t ↔ ∃ u, t = c :: u ∧ Unquoted s u := by
  constructor
  · intro h
    cases h with
    | plain _ h => exact ⟨_, rfl, h⟩
    | quotation hq' _ _ => exact Bool.noConfusion (hq.symm.trans hq')
  · intro ⟨u, ht, h⟩
    subst ht
    exact .plain hq h

theorem unquoted_quote (hq : isQuote q = true) :
    Unquoted (q :: s) t ↔ ∃ b v, s = b ++ q :: v ∧ Quotation q b ∧ Unquoted v t := by
  constructor
  · intro h
    cases h with
    | plain hq' _ => exact Bool.noConfusion (hq.symm.trans hq')
    | quotation _ hb h => exact ⟨_, _, rfl, hb, h⟩
  · intro ⟨b, v, hs, hb, h⟩
    subst hs
    exact .quotation hq hb h

/-! ## 2. What may follow -/

/-- What may follow outside quotations where `d` parentheses are open; `free` if commas may stand
    outside parentheses. -/
def FitsAt (free : Bool) (d : Nat) (s : List Char) : Prop :=
  ∃ t, Unquoted s t ∧ Levels d t ∧ (free = false → Sheltered d t)

/-- **What may follow where the splitter stands.** -/
def Place.Fits (free : Bool) : Place → List Char → Prop
  | .plain d, s => FitsAt free d.toNatClampNeg s
  | .inQuotes d q, s => ∃ b v, s = b ++ q :: v ∧ Quotation q b ∧ FitsAt free d.toNatClampNeg v
  | .afterBackslash d q, s =>
    ∃ c b v, s = c :: (b ++ q :: v) ∧ Quotation q b ∧ FitsAt free d.toNatClampNeg v

theorem fitsAt_cons (hq : isQuote c = false) :
    FitsAt free d (c :: s) ↔
      ∃ t, Unquoted s t ∧ Levels d (c :: t) ∧ (free = false → Sheltered d (c :: t)) := by
  simp only [FitsAt, unquoted_plain hq]
  constructor
  · intro ⟨t, ⟨u, ht, hu⟩, h⟩
    subst ht
    exact ⟨u, hu, h⟩
  · exact fun ⟨u, hu, h⟩ => ⟨c :: u, ⟨u, rfl, hu⟩, h⟩

theorem fitsAt_quote (hq : isQuote q = true) :
    FitsAt free depth.toNatClampNeg (q :: s) ↔ (Place.inQuotes depth q).Fits free s := by
  simp only [FitsAt, unquoted_quote hq, Place.Fits]
  constructor
  · exact fun ⟨t, ⟨b, v, hs, hb, hv⟩, h⟩ => ⟨b, v, hs, hb, t, hv, h⟩
  · exact fun ⟨b, v, hs, hb, t, hv, h⟩ => ⟨t, ⟨b, v, hs, hb, hv⟩, h⟩

theorem fitsAt_open : FitsAt free d ('(' :: s) ↔ FitsAt free (d + 1) s := by
  rw [fitsAt_cons rfl]
  simp only [levels_open, sheltered_open]
  rfl

theorem fitsAt_close : FitsAt free (d + 1) (')' :: s) ↔ FitsAt free d s := by
  rw [fitsAt_cons rfl]
  simp only [levels_close, sheltered_close]
  rfl

theorem not_fitsAt_close : ¬ FitsAt free 0 (')' :: s) := by
  rw [fitsAt_cons rfl]
  exact fun ⟨t, _, hlevels, _⟩ => not_levels_close hlevels

theorem fitsAt_plain (hq : isQuote c = false) (ho : c ≠ '(') (hc : c ≠ ')')
    (hcut : ¬ (c = ',' ∧ d = 0)) : FitsAt free d (c :: s) ↔ FitsAt free d s := by
  have hopen : c = ',' → 0 < d := fun e => Nat.pos_of_ne_zero fun hd => hcut ⟨e, hd⟩
  rw [fitsAt_cons hq]
  simp only [levels_plain ho hc, sheltered_plain ho hc, and_iff_right hopen]
  rfl

/-- A comma outside parentheses is for those who are free to have one. -/
theorem fitsAt_comma : FitsAt free 0 (',' :: s) ↔ free = true ∧ FitsAt free 0 s := by
  have ho : ',' ≠ '(' := by decide
  have hc : ',' ≠ ')' := by decide
  rw [fitsAt_cons rfl]
  simp only [levels_plain ho hc, sheltered_plain ho hc]
  constructor
  · intro ⟨t, ht, hlevels, hcommas⟩
    have hfree : free = true := by
      cases free with
      | true => rfl
      | false => exact absurd ((hcommas rfl).1 trivial) (Nat.lt_irrefl 0)
    exact ⟨hfree, t, ht, hlevels, fun hf => (hcommas hf).2⟩
  · intro ⟨hfree, t, ht, hlevels, _⟩
    exact ⟨t, ht, hlevels, fun hf => Bool.noConfusion (hfree.symm.trans hf)⟩

theorem fitsAt_nil : FitsAt free d [] ↔ d = 0 := by
  constructor
  · intro ⟨t, ht, hlevels, _⟩
    cases ht
    exact levels_nil.1 hlevels
  · exact fun hd => ⟨[], .nil, levels_nil.2 hd, fun _ => sheltered_nil⟩

/-- At the end everything has to be closed. -/
theorem fits_nil (hs : place.Shallow []) : place.Fits free [] ↔ place = .plain 0 := by
  cases place with
  | plain d =>
    rw [Place.Fits, fitsAt_nil, toNatClampNeg_eq_zero hs.1]
    exact ⟨fun hd => by rw [hd], fun h => Place.plain.inj h⟩
  | inQuotes d q =>
    refine iff_of_false (fun ⟨b, v, hs, _⟩ => ?_) Place.noConfusion
    exact List.append_ne_nil_of_right_ne_nil b (List.cons_ne_nil q v) hs.symm
  | afterBackslash d q =>
    exact iff_of_false (fun ⟨c, b, v, hs, _⟩ => List.cons_ne_nil _ _ hs.symm) Place.noConfusion

/-! ## 3. One step -/

/-- Inside quotes. -/
theorem fits_inQuotes (hq : isQuote q = true) (hm : (Place.inQuotes depth q).move c = .go next) :
    (Place.inQuotes depth q).Fits free (c :: s) ↔ next.Fits free s := by
  cases move_iff.1 hm with
  | backslash =>
    -- a backslash does not close
    constructor
    · rintro ⟨b, v, hs, hb, hv⟩
      cases hb with
      | nil => exact absurd (List.cons.inj hs).1.symm (ne_backslash_of_isQuote hq)
      | escaped e hb => exact ⟨e, _, v, (List.cons.inj hs).2, hb, hv⟩
      | plain _ hback _ => exact absurd (List.cons.inj hs).1.symm hback
    · rintro ⟨e, b, v, hs, hb, hv⟩
      subst hs
      exact ⟨'\\' :: e :: b, v, rfl, .escaped e hb, hv⟩
  | endQuote _ hback =>
    -- the quote closes, as it is not part of a quotation
    constructor
    · rintro ⟨b, v, hs, hb, hv⟩
      cases hb with
      | nil => rwa [(List.cons.inj hs).2]
      | escaped e hb => exact absurd (List.cons.inj hs).1 hback
      | plain hne _ _ => exact absurd (List.cons.inj hs).1.symm hne
    · exact fun hv => ⟨[], s, rfl, .nil, hv⟩
  | quoted _ hne hback =>
    constructor
    · rintro ⟨b, v, hs, hb, hv⟩
      cases hb with
      | nil => exact absurd (List.cons.inj hs).1 hne
      | escaped e hb => exact absurd (List.cons.inj hs).1 hback
      | plain _ _ hb => exact ⟨_, v, (List.cons.inj hs).2, hb, hv⟩
    · rintro ⟨b, v, hs, hb, hv⟩
      subst hs
      exact ⟨c :: b, v, rfl, .plain hne hback hb, hv⟩

/-- Outside quotes. -/
theorem fits_plain (hs : (Place.plain depth).Shallow (c :: s))
    (hm : (Place.plain depth).move c = .go next) :
    (Place.plain depth).Fits free (c :: s) ↔ next.Fits free s := by
  unfold Place.Fits
  cases move_iff.1 hm with
  | startQuote _ hq => exact fitsAt_quote hq
  | openParen =>
    dsimp only
    rw [(toNatClampNeg_add_one hs.1 hs.2.afterOpen.lt).2]
    exact fitsAt_open
  | closeParen hd =>
    dsimp only
    rw [(toNatClampNeg_sub_one hs.1 hd).2]
    exact fitsAt_close
  | plain hq ho hc hcut =>
    refine fitsAt_plain hq ho hc fun h => hcut ⟨h.1, (toNatClampNeg_eq_zero hs.1).1 h.2⟩

/-- **One step of the splitter**: what may follow the character is what may follow there. -/
theorem fits_go (hp : place.Proper) (hs : place.Shallow (c :: s)) (hm : place.move c = .go next) :
    place.Fits free (c :: s) ↔ next.Fits free s := by
  cases place with
  | plain d => exact fits_plain hs hm
  | inQuotes d q => exact fits_inQuotes hp hm
  | afterBackslash d q =>
    cases hm
    constructor
    · intro ⟨e, b, v, hs, hb, hv⟩
      exact ⟨b, v, (List.cons.inj hs).2, hb, hv⟩
    · intro ⟨b, v, hs, hb, hv⟩
      subst hs
      exact ⟨c, b, v, rfl, hb, hv⟩

theorem eq_of_move_refuse (hs : place.Shallow (c :: s)) (hm : place.move c = .refuse) :
    place = .plain 0 ∧ c = ')' := by
  cases move_iff.1 hm with
  | overclose hd => exact ⟨congrArg _ (eq_zero_of_sub_one_lt hs.1 hd), rfl⟩

/-! ## 4. The whole text -/

/-- **The splitter accepts what fits.** Where commas must not stand outside parentheses it cuts
    nothing. -/
theorem fits_iff (hp : place.Proper) (hs : place.Shallow s) :
    place.Fits free s ↔ ∃ p, itemsFrom place s = .ok p ∧ (free = false → p.2 = []) := by
  fun_induction itemsFrom place s with
  | case1 => exact iff_of_true ((fits_nil hs).2 rfl) ⟨_, rfl, fun _ => rfl⟩
  | case2 place hne =>
    refine iff_of_false (fun h => hne ((fits_nil hs).1 h)) ?_
    rintro ⟨p, hread, -⟩
    cases hread
  | case3 place c r next hm ih =>
    rw [fits_go hp hs hm, ih (proper_of_move hm hp) (shallow_of_move hm hs)]
    constructor
    · rintro ⟨p, hread, hcuts⟩
      exact ⟨prependChar c p, map_eq_ok_iff.2 ⟨p, hread, rfl⟩, hcuts⟩
    · rintro ⟨p, hread, hcuts⟩
      obtain ⟨p', hread', he⟩ := map_eq_ok_iff.1 hread
      subst he
      exact ⟨p', hread', hcuts⟩
  | case4 place c r hm ih =>
    obtain ⟨hplace, hc⟩ := eq_of_move_cut hm
    subst hplace hc
    have hstep : (Place.plain 0).Fits free (',' :: r) ↔
        free = true ∧ (Place.plain 0).Fits free r := fitsAt_comma
    have hrest := hs.2.afterPlain rfl (by decide) (by decide)
    rw [hstep, ih trivial ⟨hs.1, hrest⟩]
    constructor
    · rintro ⟨hfree, p, hread, _⟩
      exact ⟨cutBefore p, map_eq_ok_iff.2 ⟨p, hread, rfl⟩,
        fun hf => Bool.noConfusion (hfree.symm.trans hf)⟩
    · rintro ⟨p, hread, hcuts⟩
      obtain ⟨p', hread', he⟩ := map_eq_ok_iff.1 hread
      subst he
      have hfree : free = true := by
        cases free with
        | true => rfl
        | false => cases hcuts rfl
      exact ⟨hfree, p', hread', fun hf => Bool.noConfusion (hfree.symm.trans hf)⟩
  | case5 place c r hm =>
    obtain ⟨hplace, hc⟩ := eq_of_move_refuse hs hm
    subst hplace hc
    refine iff_of_false not_fitsAt_close ?_
    rintro ⟨p, hread, -⟩
    cases hread

theorem proper_start : (Place.plain 0).Proper := trivial

/-- A shallow text is cut if and only if it is balanced. -/
theorem balanced_iff (hs : Shallow s) : Balanced s ↔ ∃ xs, items s = .ok xs := by
  have hfits : Balanced s ↔ (Place.plain 0).Fits true s := by
    constructor
    · exact fun ⟨t, ht, hlevels⟩ => ⟨t, ht, hlevels, fun hf => Bool.noConfusion hf⟩
    · exact fun ⟨t, ht, hlevels, _⟩ => ⟨t, ht, hlevels⟩
  rw [hfits, fits_iff proper_start hs.atStart]
  constructor
  · intro ⟨p, hread, _⟩
    exact ⟨p.1 :: p.2, map_eq_ok_iff.2 ⟨p, hread, rfl⟩⟩
  · intro ⟨xs, hxs⟩
    obtain ⟨p, hread, -⟩ := map_eq_ok_iff.1 hxs
    exact ⟨p, hread, fun hf => Bool.noConfusion hf⟩

/-- A shallow text is balanced with no comma outside, if and only if the splitter passes it. -/
theorem isItem_iff (hs : Shallow s) : IsItem s ↔ Passed s := by
  have hfits : IsItem s ↔ (Place.plain 0).Fits false s := by
    constructor
    · exact fun ⟨t, ht, hlevels, hcommas⟩ => ⟨t, ht, hlevels, fun _ => hcommas⟩
    · exact fun ⟨t, ht, hlevels, hcommas⟩ => ⟨t, ht, hlevels, hcommas rfl⟩
  rw [hfits, fits_iff proper_start hs.atStart]
  constructor
  · intro ⟨p, hread, hcuts⟩
    obtain ⟨x, ys⟩ := p
    cases hcuts rfl
    -- what is read as the only item is the whole text
    obtain ⟨hpassed, -, hjoin⟩ := through_of_itemsFrom hread
    rw [List.intercalate_singleton] at hjoin
    subst hjoin
    exact hpassed
  · exact fun hpassed => ⟨(s, []), itemsFrom_last hpassed, fun _ => rfl⟩

/-! ## 5. Columns -/

theorem ofItem_of_blank {x : List Char} (hx : x.all Text.isBlank = true) :
    ofItem x = .error .emptyColumn := by
  have htrim : Text.trim x = [] := by
    rw [Text.trim, (Text.trimStart_eq_nil_iff x).2 hx, Text.trimEnd_nil]
  rw [ofItem, htrim, ofTrimmed]

theorem ofItems_eq_ok_iff {cols : List Column} :
    ofItems xs = .ok cols ↔ List.Forall₂ (fun x col => ofItem x = .ok col) xs cols := by
  induction xs generalizing cols with
  | nil =>
    rw [List.forall₂_nil_left_iff, ofItems]
    exact ⟨fun h => (Except.ok.inj h).symm, fun h => by rw [h]⟩
  | cons x xs ih =>
    rw [ofItems, List.forall₂_cons_left_iff]
    cases hx : ofItem x with
    | error f =>
      refine iff_of_false (fun h => by cases h) ?_
      rintro ⟨col, cols', h, -⟩
      cases h
    | ok col =>
      dsimp only
      rw [map_eq_ok_iff]
      constructor
      · rintro ⟨cols', hcols, he⟩
        exact ⟨col, cols', rfl, ih.1 hcols, he.symm⟩
      · rintro ⟨col', cols', hcol, hcols, he⟩
        cases hcol
        exact ⟨cols', ih.2 hcols, he.symm⟩

/-- **A structure declares one column for each item**, in order. -/
theorem ofStructure_eq_ok_iff {cols : List Column} :
    ofStructure s = .ok cols ↔
      ∃ xs, items s = .ok xs ∧ List.Forall₂ (fun x col => ofItem x = .ok col) xs cols := by
  rw [ofStructure]
  cases hxs : items s with
  | error e =>
    refine iff_of_false (fun h => ?_) ?_
    · cases e with
      | overclosed => cases h
      | unclosed => cases h
    · rintro ⟨xs, h, -⟩
      cases h
  | ok xs =>
    have hself : (∃ ys, (Except.ok xs : Except Imbalance _) = .ok ys ∧
        List.Forall₂ (fun x col => ofItem x = .ok col) ys cols) ↔ ofItems xs = .ok cols := by
      rw [ofItems_eq_ok_iff]
      constructor
      · rintro ⟨ys, he, h⟩
        cases he
        exact h
      · exact fun h => ⟨xs, rfl, h⟩
    rw [hself]
    dsimp only
    split
    · -- if all items are blank, the first of them is no column
      rename_i hblank
      refine iff_of_false (fun h => by cases h) fun h => ?_
      obtain ⟨x, ys, rfl⟩ := List.exists_cons_of_ne_nil (items_eq_ok_iff.1 hxs).1
      have hx := ofItem_of_blank (List.all_eq_true.1 hblank x List.mem_cons_self)
      rw [ofItems, hx] at h
      cases h
    · exact Iff.rfl

/-- **The text `s` is these items**, with commas between them. -/
structure JoinedFrom (Item : List Char → Prop) (s : List Char) (xs : List (List Char)) : Prop where
  nonempty : xs ≠ []
  items : ∀ x ∈ xs, Item x
  joined : List.intercalate [','] xs = s

/-- **How a text is cut** into such items. -/
structure CutInto (Item : List Char → Prop) (s : List Char) : Prop where
  /-- It is cut into the items that it is joined from, and there are no others. -/
  cut : ∀ xs, items s = .ok xs ↔ JoinedFrom Item s xs
  /-- It declares one column for each item, in order. -/
  columns : ∀ cols, ofStructure s = .ok cols ↔
    ∃ xs, JoinedFrom Item s xs ∧ List.Forall₂ (fun x col => ofItem x = .ok col) xs cols
  /-- If it declares none it is the client's error. -/
  refused : (∀ cols, ofStructure s ≠ .ok cols) ↔
    ∃ f, ofStructure s = .error f ∧ (SessionError.sql (.columns f)).kind = .client

theorem cutInto_of_iff {Item : List Char → Prop}
    (hcut : ∀ xs, items s = .ok xs ↔ JoinedFrom Item s xs) : CutInto Item s := by
  refine ⟨hcut, fun cols => ?_, ?_⟩
  · rw [ofStructure_eq_ok_iff]
    simp only [hcut]
  · cases ofStructure s with
    | ok cols => exact iff_of_false (fun h => h cols rfl) fun ⟨f, h, _⟩ => by cases h
    | error f => exact iff_of_true (fun cols h => by cases h) ⟨f, rfl, rfl⟩

theorem cutInto_passed (s : List Char) : CutInto Passed s :=
  cutInto_of_iff fun _ => items_eq_ok_iff.trans
    ⟨fun h => ⟨h.1, h.2.1, h.2.2⟩, fun h => ⟨h.nonempty, h.items, h.joined⟩⟩

/-- The items of a shallow text are the balanced ones. -/
theorem cutInto_isItem (hs : Shallow s) : CutInto IsItem s := by
  refine cutInto_of_iff fun xs => ((cutInto_passed s).cut xs).trans ?_
  constructor
  · intro ⟨hne, hall, hjoin⟩
    subst hjoin
    have hshallow := shallow_of_mem hs fun x hx _ => hall x hx
    exact ⟨hne, fun x hx => (isItem_iff (hshallow x hx)).2 (hall x hx), rfl⟩
  · intro ⟨hne, hall, hjoin⟩
    subst hjoin
    have hshallow := shallow_of_mem hs fun x hx h => (isItem_iff h).1 (hall x hx)
    exact ⟨hne, fun x hx => (isItem_iff (hshallow x hx)).1 (hall x hx), rfl⟩

/-- **Every text is cut exactly.** The splitter passes each item of it, whatever its depth; and if
    the text is nested less than 2 ^ 31 deep, it is accepted if and only if it is balanced, and its
    items are the balanced texts without a comma that it is joined from. -/
theorem cutExactly (s : List Char) :
    CutInto Passed s ∧
      (Shallow s → ((∃ xs, items s = .ok xs) ↔ Balanced s) ∧ CutInto IsItem s) :=
  ⟨cutInto_passed s, fun hs => ⟨(balanced_iff hs).symm, cutInto_isItem hs⟩⟩

/-- Quotes of one kind inside another, an escaped quote and a comma in parentheses. -/
def quotedItems : List Char := "a 'x\"(', \x60b,\\\x60\x60 Map(K, V)".toList

/-- **The text is balanced**, and its items are the only ones. -/
theorem cutExactly_quotedItems :
    Shallow quotedItems ∧ Balanced quotedItems ∧
      ∀ xs, JoinedFrom IsItem quotedItems xs ↔
        xs = ["a 'x\"('".toList, " \x60b,\\\x60\x60 Map(K, V)".toList] := by
  have hshallow : Shallow quotedItems := shallow_of_length (by decide +kernel)
  have hitems : items quotedItems =
      .ok ["a 'x\"('".toList, " \x60b,\\\x60\x60 Map(K, V)".toList] := by decide +kernel
  obtain ⟨-, hexact⟩ := cutExactly quotedItems
  obtain ⟨hbalanced, hinto⟩ := hexact hshallow
  refine ⟨hshallow, hbalanced.1 ⟨_, hitems⟩, fun xs => ?_⟩
  rw [← hinto.cut xs, hitems, Except.ok.injEq, eq_comm]

end StatelessSession.Sql.Column
