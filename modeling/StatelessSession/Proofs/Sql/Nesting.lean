import StatelessSession.Proofs.Sql.Counters
import StatelessSession.Proofs.Sql.Splitting

/-!
# Well nested text

A text is well nested if its parentheses are balanced and its quotes are closed; a backslash inside
quotes protects the next character. That is what the splitter checks on its way, as long as it can
count the parentheses: up to no point may 2 ^ 31 of them be open.

* `Quotation`, `Nested` -- the grammar.
* `Unquoted` -- what is left of a text without its quotations.
* **`Shallow`** -- a text that is nested less than 2 ^ 31 deep; `shallow_of_length`.
* `through_nested` -- the splitter goes through well nested text and is as deep after it as before.
* `Place.Shallow` -- the splitter can count what follows; `shallow_of_move` -- one step.
* `Place.Rest` -- what the splitter has still to see where it stands; `rest_of_move` -- one step.
* **`nested_iff_passed`** -- a shallow text is passed if and only if it is well nested.

NOT here: counting (`Balance`).
-/

namespace StatelessSession.Sql.Column

variable {c q : Char} {d e : Int32} {m n : Nat} {inner : Bool} {r s t u : List Char}
  {xs : List (List Char)} {place next : Place}

/-! ## 1. The grammar -/

/-- What stands between two quotes `q`. -/
inductive Quotation (q : Char) : List Char → Prop where
  | nil : Quotation q []
  /-- A backslash and any character. -/
  | escaped (c : Char) {s : List Char} (h : Quotation q s) : Quotation q ('\\' :: c :: s)
  | plain {c : Char} {s : List Char} (hq : c ≠ q) (hb : c ≠ '\\') (h : Quotation q s) :
      Quotation q (c :: s)

/-- **Balanced parentheses and closed quotes.** A comma stands in quotes or in parentheses, unless
    the text itself stands in parentheses (`inner`). -/
inductive Nested : Bool → List Char → Prop where
  | nil {inner : Bool} : Nested inner []
  | plain {inner : Bool} {c : Char} {s : List Char} (hq : isQuote c = false) (ho : c ≠ '(')
      (hc : c ≠ ')') (hcomma : c = ',' → inner = true) (h : Nested inner s) : Nested inner (c :: s)
  | quotation {inner : Bool} {q : Char} {b s : List Char} (hq : isQuote q = true)
      (hb : Quotation q b) (h : Nested inner s) : Nested inner (q :: (b ++ q :: s))
  | parens {inner : Bool} {s t : List Char} (hs : Nested true s) (ht : Nested inner t) :
      Nested inner ('(' :: (s ++ ')' :: t))

theorem Quotation.ofPlain (h : ∀ c ∈ s, c ≠ q ∧ c ≠ '\\') : Quotation q s := by
  induction s with
  | nil => exact .nil
  | cons c s ih =>
    obtain ⟨hq, hb⟩ := h c List.mem_cons_self
    exact .plain hq hb (ih fun c hc => h c (List.mem_cons_of_mem _ hc))

/-- The splitter is through a quotation when it is closed. -/
theorem through_quotation (hb : Quotation q s) (hq : q ≠ '\\') (r : List Char) :
    (Place.inQuotes d q).through (s ++ q :: r) = (Place.plain d).through r := by
  induction hb with
  | nil => exact Place.through_go (move_iff.2 (.endQuote d hq)) r
  | escaped c h ih =>
    rw [List.cons_append, List.cons_append, Place.through_go (move_iff.2 (.backslash d q)),
      through_afterBackslash, ih]
  | plain hcq hcb h ih =>
    rw [List.cons_append, Place.through_go (move_iff.2 (.quoted d hcq hcb)), ih]

theorem passed_quotation (hq : isQuote q = true) (hb : Quotation q s) :
    Passed (q :: (s ++ [q])) := by
  rw [Passed, Place.through_go (move_iff.2 (.startQuote 0 hq)),
    through_quotation hb (ne_backslash_of_isQuote hq)]
  rfl

/-- **What leads out of quotes** begins with a quotation. -/
theorem quotation_of_through : ∀ s : List Char,
    (Place.inQuotes d q).through s = some (.plain e) → ∃ b v, s = b ++ q :: v ∧ Quotation q b
  | [], h => by cases h
  | c :: s, h => by
    obtain ⟨next, hm, hs⟩ := through_cons h
    cases move_iff.1 hm with
    | endQuote => exact ⟨[], s, rfl, .nil⟩
    | backslash =>
      cases s with
      | nil => cases hs
      | cons x s =>
        rw [through_afterBackslash] at hs
        obtain ⟨b, v, rfl, hb⟩ := quotation_of_through s hs
        exact ⟨'\\' :: x :: b, v, rfl, .escaped x hb⟩
    | quoted _ hcq hcb =>
      obtain ⟨b, v, rfl, hb⟩ := quotation_of_through s hs
      exact ⟨c :: b, v, rfl, .plain hcq hcb hb⟩

/-! ## 2. How deep a text is nested -/

/-- **`t` is what is left of `s` without its quotations**, each closed by the quote that opens
    it. -/
inductive Unquoted : List Char → List Char → Prop where
  | nil : Unquoted [] []
  | plain {c : Char} {s t : List Char} (hq : isQuote c = false) (h : Unquoted s t) :
      Unquoted (c :: s) (c :: t)
  | quotation {q : Char} {b s t : List Char} (hq : isQuote q = true) (hb : Quotation q b)
      (h : Unquoted s t) : Unquoted (q :: (b ++ q :: s)) t

theorem Unquoted.append (hs : Unquoted s t) (hr : Unquoted r u) : Unquoted (s ++ r) (t ++ u) := by
  induction hs with
  | nil => exact hr
  | plain hq _ ih => exact .plain hq ih
  | quotation hq hb _ ih =>
    rw [List.cons_append, List.append_assoc, List.cons_append]
    exact .quotation hq hb ih

theorem Unquoted.length_le (h : Unquoted s t) : t.length ≤ s.length := by
  induction h with
  | nil => exact Nat.le_refl 0
  | plain _ _ ih => exact Nat.succ_le_succ ih
  | quotation _ _ _ ih =>
    simp only [List.length_cons, List.length_append]
    omega

/-- Well nested text opens as many parentheses as it closes. -/
theorem Nested.unquoted (h : Nested inner s) :
    ∃ t, Unquoted s t ∧ t.count '(' = t.count ')' := by
  induction h with
  | nil => exact ⟨[], .nil, rfl⟩
  | @plain inner c s hq ho hc _ _ ih =>
    obtain ⟨t, ht, hcount⟩ := ih
    refine ⟨c :: t, .plain hq ht, ?_⟩
    rw [List.count_cons_of_ne ho, List.count_cons_of_ne hc, hcount]
  | quotation hq hb _ ih =>
    obtain ⟨t, ht, hcount⟩ := ih
    exact ⟨t, .quotation hq hb ht, hcount⟩
  | parens _ _ ihs iht =>
    obtain ⟨t, ht, hcount⟩ := ihs
    obtain ⟨u, hu, hcount'⟩ := iht
    refine ⟨'(' :: (t ++ ')' :: u), .plain rfl (ht.append (.plain rfl hu)), ?_⟩
    simp [List.count_append, hcount, hcount']
    omega

/-- Up to no point 2 ^ 31 parentheses are open, if `n` are open before. -/
def ShallowAt (n : Nat) (s : List Char) : Prop :=
  ∀ u t, u <+: s → Unquoted u t → n + t.count '(' < t.count ')' + 2 ^ 31

/-- **A text that is nested less than 2 ^ 31 deep**: up to no point outside of its quotations are so
    many parentheses open. -/
def Shallow (s : List Char) : Prop := ShallowAt 0 s

namespace ShallowAt

theorem lt (h : ShallowAt n s) : n < 2 ^ 31 := by
  have hnil := h [] [] List.nil_prefix .nil
  rwa [List.count_nil, List.count_nil, Nat.add_zero, Nat.zero_add] at hnil

/-- A part from the start on. -/
theorem left (h : ShallowAt n (s ++ r)) : ShallowAt n s := fun u t hu ht =>
  h u t (hu.trans (List.prefix_append s r)) ht

/-- **The rest of a text**: what is open before it are the parentheses that are left open. -/
theorem skip (h : ShallowAt n (s ++ r)) (hs : Unquoted s t)
    (hopen : n + t.count '(' = m + t.count ')') : ShallowAt m r := by
  intro u v hu hv
  have hwhole := h (s ++ u) (t ++ v) ((List.prefix_append_right_inj s).2 hu) (hs.append hv)
  rw [List.count_append, List.count_append] at hwhole
  omega

theorem afterOpen (h : ShallowAt n ('(' :: s)) : ShallowAt (n + 1) s :=
  skip (s := ['(']) h (.plain rfl .nil) rfl

theorem afterClose (h : ShallowAt (n + 1) (')' :: s)) : ShallowAt n s :=
  skip (s := [')']) h (.plain rfl .nil) rfl

theorem afterPlain (hq : isQuote c = false) (ho : c ≠ '(') (hc : c ≠ ')')
    (h : ShallowAt n (c :: s)) : ShallowAt n s := by
  refine skip (s := [c]) h (.plain hq .nil) ?_
  rw [List.count_cons_of_ne ho, List.count_cons_of_ne hc, List.count_nil, List.count_nil]

theorem afterQuotation (hq : isQuote q = true) (hb : Quotation q t)
    (h : ShallowAt n (q :: (t ++ q :: s))) : ShallowAt n s := by
  have hquoted : Unquoted (q :: (t ++ [q])) [] := .quotation hq hb .nil
  refine skip (s := q :: (t ++ [q])) ?_ hquoted rfl
  simpa using h

theorem afterNested (hs : Nested inner s) (h : ShallowAt n (s ++ r)) : ShallowAt n r := by
  obtain ⟨t, ht, hcount⟩ := hs.unquoted
  exact h.skip ht (by rw [hcount])

end ShallowAt

/-- A text of less than 2 ^ 31 characters cannot be nested so deep. -/
theorem shallow_of_length (h : s.length < 2 ^ 31) : Shallow s := by
  intro u t hu ht
  have hcount := List.count_le_length (a := '(') (l := t)
  have hlen := ht.length_le
  have hprefix := hu.length_le
  omega

/-! ## 3. The splitter on well nested text -/

/-- **The splitter goes through well nested text** and is as deep after it as before. -/
theorem through_nested (h : Nested inner s) (hd : inner = true → d ≠ 0) (hpos : 0 ≤ d)
    (hs : ShallowAt d.toNatClampNeg s) : (Place.plain d).through s = some (.plain d) := by
  induction h generalizing d with
  | nil => rfl
  | plain hq ho hc hcomma h ih =>
    have hcut := fun e => hd (hcomma (And.left e)) (And.right e)
    rw [Place.through_go (move_iff.2 (.plain hq ho hc hcut))]
    exact ih hd hpos (hs.afterPlain hq ho hc)
  | quotation hq hb h ih =>
    rw [Place.through_go (move_iff.2 (.startQuote d hq)),
      through_quotation hb (ne_backslash_of_isQuote hq)]
    exact ih hd hpos (hs.afterQuotation hq hb)
  | parens hs' ht ihs iht =>
    obtain ⟨hpos', hcount⟩ := toNatClampNeg_add_one hpos hs.afterOpen.lt
    have hin := hs.afterOpen
    rw [← hcount] at hin
    have hne : d + 1 ≠ 0 := fun e => by
      rw [e] at hcount
      exact absurd hcount.symm (Nat.succ_ne_zero _)
    have hclose : ¬ d + 1 - 1 < 0 := by
      rw [Int32.add_sub_cancel]
      exact Int32.not_lt.2 hpos
    have hafter := hin.afterNested hs'
    rw [hcount] at hafter
    rw [Place.through_go (move_iff.2 (.openParen d)), Place.through_append,
      ihs (fun _ => hne) hpos' hin.left, Option.bind_some,
      Place.through_go (move_iff.2 (.closeParen hclose)), Int32.add_sub_cancel]
    exact iht hd hpos hafter.afterClose

/-! ## 4. What the splitter can count -/

/-- **The splitter can count what follows** where it stands. -/
def Place.Shallow : Place → List Char → Prop
  | .plain d, s => 0 ≤ d ∧ ShallowAt d.toNatClampNeg s
  | .inQuotes d q, s =>
    0 ≤ d ∧ ∀ b v, s = b ++ q :: v → Quotation q b → ShallowAt d.toNatClampNeg v
  | .afterBackslash d q, s =>
    0 ≤ d ∧ ∀ c b v, s = c :: (b ++ q :: v) → Quotation q b → ShallowAt d.toNatClampNeg v

theorem Shallow.atStart (h : Shallow s) : (Place.plain 0).Shallow s :=
  ⟨Int32.le_refl 0, h⟩

/-- **One step of the splitter** keeps that. -/
theorem shallow_of_move (hm : place.move c = .go next) (h : place.Shallow (c :: s)) :
    next.Shallow s := by
  cases move_iff.1 hm with
  | shielded d q =>
    refine ⟨h.1, fun b v e hb => h.2 c b v ?_ hb⟩
    rw [e]
  | backslash d q =>
    refine ⟨h.1, fun x b v e hb => h.2 ('\\' :: x :: b) v ?_ (.escaped x hb)⟩
    rw [e]
    rfl
  | endQuote d hback => exact ⟨h.1, h.2 [] s rfl .nil⟩
  | quoted d hq hback =>
    refine ⟨h.1, fun b v e hb => h.2 (c :: b) v ?_ (.plain hq hback hb)⟩
    rw [e]
    rfl
  | startQuote d hq =>
    refine ⟨h.1, fun b v e hb => ?_⟩
    subst e
    exact h.2.afterQuotation hq hb
  | openParen d =>
    obtain ⟨hpos, hcount⟩ := toNatClampNeg_add_one h.1 h.2.afterOpen.lt
    have hnext := h.2.afterOpen
    rw [← hcount] at hnext
    exact ⟨hpos, hnext⟩
  | closeParen hd =>
    obtain ⟨hpos, hcount⟩ := toNatClampNeg_sub_one h.1 hd
    have hplace := h.2
    rw [hcount] at hplace
    exact ⟨hpos, hplace.afterClose⟩
  | plain hq ho hc hcut => exact ⟨h.1, h.2.afterPlain hq ho hc⟩

/-- Through a text. -/
theorem shallow_of_through (ht : place.through s = some next) (h : place.Shallow (s ++ r)) :
    next.Shallow r := by
  induction s generalizing place with
  | nil =>
    cases ht
    exact h
  | cons c s ih =>
    obtain ⟨after, hm, hs⟩ := through_cons ht
    exact ih hs (shallow_of_move hm h)

/-- **The items of a shallow text are shallow**, if those that are shallow are passed. -/
theorem shallow_of_mem (h : Shallow (List.intercalate [','] xs))
    (hpass : ∀ x ∈ xs, Shallow x → Passed x) : ∀ x ∈ xs, Shallow x := by
  induction xs with
  | nil => exact fun x hx => absurd hx List.not_mem_nil
  | cons x xs ih =>
    obtain ⟨hx, hxs⟩ := List.forall_mem_cons.1 hpass
    cases xs with
    | nil =>
      rw [List.intercalate_singleton] at h
      exact List.forall_mem_cons.2 ⟨h, fun y hy => absurd hy List.not_mem_nil⟩
    | cons y ys =>
      rw [List.intercalate_cons_cons, List.append_assoc] at h
      have hfirst : Shallow x := ShallowAt.left h
      -- after the item the splitter stands outside of everything, before the comma
      have hrest : (Place.plain 0).Shallow (',' :: List.intercalate [','] (y :: ys)) :=
        shallow_of_through (hx hfirst) h.atStart
      exact List.forall_mem_cons.2
        ⟨hfirst, ih (hrest.2.afterPlain rfl (by decide) (by decide)) hxs⟩

/-! ## 5. What the splitter has seen -/

/-- Well nested text inside `n` parentheses that are still to be closed. -/
def OpenAt : Nat → List Char → Prop
  | 0, s => Nested false s
  | n + 1, s => ∃ u v, s = u ++ ')' :: v ∧ Nested true u ∧ OpenAt n v

/-- Whatever can stand before well nested text can stand before it inside parentheses. -/
theorem OpenAt.prepend (hu : ∀ s, Nested (decide (n ≠ 0)) s → Nested (decide (n ≠ 0)) (u ++ s))
    (h : OpenAt n s) : OpenAt n (u ++ s) := by
  cases n with
  | zero => exact hu s h
  | succ n =>
    obtain ⟨v, w, rfl, hv, hw⟩ := h
    exact ⟨u ++ v, w, (List.append_assoc ..).symm, hu v hv, hw⟩

/-- What has to follow where the splitter stands. -/
def Place.Rest : Place → List Char → Prop
  | .plain d, s => OpenAt d.toNatClampNeg s
  | .inQuotes d q, s => ∃ b v, s = b ++ q :: v ∧ Quotation q b ∧ OpenAt d.toNatClampNeg v
  | .afterBackslash d q, s =>
    ∃ c b v, s = c :: (b ++ q :: v) ∧ Quotation q b ∧ OpenAt d.toNatClampNeg v

/-- **One step of the splitter**: with the character, what follows the step follows the place
    before. -/
theorem rest_of_move (hm : place.move c = .go next) (hs : place.Shallow (c :: s))
    (h : next.Rest s) : place.Rest (c :: s) := by
  cases move_iff.1 hm with
  | shielded d q =>
    obtain ⟨b, v, rfl, hb, hv⟩ := h
    exact ⟨c, b, v, rfl, hb, hv⟩
  | backslash d q =>
    obtain ⟨e, b, v, rfl, hb, hv⟩ := h
    exact ⟨'\\' :: e :: b, v, rfl, .escaped e hb, hv⟩
  | endQuote d hback => exact ⟨[], s, rfl, .nil, h⟩
  | quoted d hq hback =>
    obtain ⟨b, v, rfl, hb, hv⟩ := h
    exact ⟨c :: b, v, rfl, .plain hq hback hb, hv⟩
  | startQuote d hq =>
    obtain ⟨b, v, rfl, hb, hv⟩ := h
    have hp := hv.prepend (u := c :: (b ++ [c])) fun s hs => by
      simpa using Nested.quotation hq hb hs
    simpa [Place.Rest] using hp
  | openParen d =>
    have hopen : OpenAt (d + 1).toNatClampNeg s := h
    rw [(toNatClampNeg_add_one hs.1 hs.2.afterOpen.lt).2] at hopen
    obtain ⟨u, v, rfl, hu, hv⟩ := hopen
    have hp := hv.prepend (u := '(' :: (u ++ [')'])) fun s hs => by
      simpa using Nested.parens hu hs
    simpa [Place.Rest] using hp
  | @closeParen d hd =>
    show OpenAt d.toNatClampNeg (')' :: s)
    rw [(toNatClampNeg_sub_one hs.1 hd).2]
    exact ⟨[], s, rfl, .nil, h⟩
  | plain hq ho hc hcut =>
    refine OpenAt.prepend (u := [c]) (fun s hs' => ?_) h
    refine .plain hq ho hc (fun e => ?_) hs'
    exact decide_eq_true fun hzero => hcut ⟨e, (toNatClampNeg_eq_zero hs.1).1 hzero⟩

/-- What is read up to the end is what has to follow there. -/
theorem rest_of_through (h : place.through s = some (.plain 0)) (hs : place.Shallow s) :
    place.Rest s := by
  induction s generalizing place with
  | nil =>
    cases h
    exact Nested.nil
  | cons c s ih =>
    obtain ⟨next, hm, ht⟩ := through_cons h
    exact rest_of_move hm hs (ih ht (shallow_of_move hm hs))

/-- **A shallow text is passed** if and only if it is well nested. -/
theorem nested_iff_passed (h : Shallow s) : Nested false s ↔ Passed s :=
  ⟨fun hs => through_nested hs nofun (Int32.le_refl 0) h,
    fun hs => rest_of_through hs h.atStart⟩

end StatelessSession.Sql.Column
