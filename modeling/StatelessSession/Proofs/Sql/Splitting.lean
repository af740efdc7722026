import Mathlib.Control.Monad.Basic
import StatelessSession.Sql.Query

/-!
# Cutting at commas

The splitter of column structures goes through a text once, with a depth, the quote that is open and
a mark for a backslash. It counts parentheses in 32 bits with a sign, and what is said here holds
for every text, also for one that is nested deeper than can be counted.

* `Moves`, **`move_iff`** -- all that one character does to the splitter.
* `Place.through` -- where the splitter stands after a text; `Passed` -- outside of everything.
* **`items_eq_ok_iff`** -- a structure is cut into items if and only if each of them is passed, and
  they give the structure when joined by commas.
* `through_trim` -- blanks at the ends do not count.
* `through_deeper` -- parentheses that are open before a text are open after it.

NOT here: a grammar of what is passed (`Nesting`), and what an item declares (`Names`).
-/

namespace StatelessSession.Sql.Column

variable {c q : Char} {d k : Int32} {s t : List Char} {xs : List (List Char)}
  {place next last : Place}

/-! ## 1. One character -/

theorem isQuote_iff : isQuote c = true ↔ c = '\'' ∨ c = '"' ∨ c = '\x60' := by
  simp only [isQuote, Bool.or_eq_true, decide_eq_true_eq, or_assoc]

theorem ne_backslash_of_isQuote (hq : isQuote q = true) : q ≠ '\\' := by
  rcases isQuote_iff.1 hq with rfl | rfl | rfl <;> decide

/-- **All that a character does**, wherever the splitter stands. -/
inductive Moves : Place → Char → Move → Prop where
  | shielded (d : Int32) (q c : Char) : Moves (.afterBackslash d q) c (.go (.inQuotes d q))
  | backslash (d : Int32) (q : Char) : Moves (.inQuotes d q) '\\' (.go (.afterBackslash d q))
  | endQuote {q : Char} (d : Int32) (hb : q ≠ '\\') : Moves (.inQuotes d q) q (.go (.plain d))
  | quoted {q c : Char} (d : Int32) (hq : c ≠ q) (hb : c ≠ '\\') :
      Moves (.inQuotes d q) c (.go (.inQuotes d q))
  | startQuote {q : Char} (d : Int32) (hq : isQuote q = true) :
      Moves (.plain d) q (.go (.inQuotes d q))
  | openParen (d : Int32) : Moves (.plain d) '(' (.go (.plain (d + 1)))
  | closeParen {d : Int32} (hd : ¬ d - 1 < 0) : Moves (.plain d) ')' (.go (.plain (d - 1)))
  | overclose {d : Int32} (hd : d - 1 < 0) : Moves (.plain d) ')' .refuse
  | comma : Moves (.plain 0) ',' .cut
  | plain {d : Int32} {c : Char} (hq : isQuote c = false) (ho : c ≠ '(') (hc : c ≠ ')')
      (hcut : ¬ (c = ',' ∧ d = 0)) : Moves (.plain d) c (.go (.plain d))

theorem moves_move (place : Place) (c : Char) : Moves place c (place.move c) := by
  cases place with
  | afterBackslash d q => exact .shielded d q c
  | inQuotes d q =>
    rw [Place.move]
    split
    · rename_i hb
      subst hb
      exact .backslash d q
    rename_i hb
    split
    · rename_i hq
      subst hq
      exact .endQuote d hb
    · rename_i hq
      exact .quoted d hq hb
  | plain d =>
    unfold Place.move
    dsimp only
    split
    · rename_i hq
      exact .startQuote d hq
    rename_i hq
    split
    · rename_i ho
      subst ho
      exact .openParen d
    rename_i ho
    split
    · rename_i hc
      subst hc
      split
      · rename_i hd
        exact .overclose hd
      · rename_i hd
        exact .closeParen hd
    rename_i hc
    split
    · rename_i hcut
      obtain ⟨rfl, rfl⟩ := hcut
      exact .comma
    · rename_i hcut
      exact .plain (Bool.eq_false_iff.2 hq) ho hc hcut

/-- **What a character does is settled** by the place and the character. -/
theorem move_iff {m : Move} : place.move c = m ↔ Moves place c m := by
  constructor
  · intro h
    rw [← h]
    exact moves_move place c
  · intro h
    cases h with
    | shielded d q => rfl
    | backslash d q => rw [Place.move, if_pos rfl]
    | endQuote d hb => rw [Place.move, if_neg hb, if_pos rfl]
    | quoted d hq hb => rw [Place.move, if_neg hb, if_neg hq]
    | startQuote d hq => simp only [Place.move, hq, if_true]
    | openParen d => rfl
    | closeParen hd => exact if_neg hd
    | overclose hd => exact if_pos hd
    | comma => rfl
    | plain hq ho hc hcut =>
      simp only [Place.move, hq, ho, hc, hcut, Bool.false_eq_true, if_false]

theorem eq_of_move_cut (hm : place.move c = .cut) : place = .plain 0 ∧ c = ',' := by
  cases move_iff.1 hm with
  | comma => exact ⟨rfl, rfl⟩

/-- A character that means nothing to the splitter, be it inside parentheses or not. -/
def isInert (c : Char) : Bool := !isQuote c && c != '(' && c != ')' && c != ','

theorem move_inert (hc : isInert c = true) : (Place.plain d).move c = .go (.plain d) := by
  simp only [isInert, Bool.and_eq_true, Bool.not_eq_true', bne_iff_ne] at hc
  obtain ⟨⟨⟨hq, ho⟩, hclose⟩, hcomma⟩ := hc
  exact move_iff.2 (.plain hq ho hclose fun h => hcomma h.1)

/-! ## 2. The place after a text -/

/-- Where the splitter stands after a text, if no item ends in it and nothing closes that is not
    open. -/
def Place.through : Place → List Char → Option Place
  | place, [] => some place
  | place, c :: s =>
    match place.move c with
    | .go next => next.through s
    | _ => none

/-- **A text that the splitter passes**: at its end it stands outside of everything, and has cut
    nothing. -/
def Passed (s : List Char) : Prop := (Place.plain 0).through s = some (.plain 0)

instance (s : List Char) : Decidable (Passed s) := inferInstanceAs (Decidable (_ = _))

theorem Place.through_go (hm : place.move c = .go next) (s : List Char) :
    place.through (c :: s) = next.through s := by
  rw [Place.through, hm]

/-- A text that is gone through begins with a step that goes on. -/
theorem through_cons (h : place.through (c :: s) = some last) :
    ∃ next, place.move c = .go next ∧ next.through s = some last := by
  rw [Place.through] at h
  split at h
  · rename_i next hm
    exact ⟨next, hm, h⟩
  · cases h

/-- After a backslash any character leads back inside the quotes. -/
theorem through_afterBackslash (d : Int32) (q c : Char) (s : List Char) :
    (Place.afterBackslash d q).through (c :: s) = (Place.inQuotes d q).through s :=
  Place.through_go rfl s

theorem Place.through_append (place : Place) (s t : List Char) :
    place.through (s ++ t) = (place.through s).bind (·.through t) := by
  induction s generalizing place with
  | nil => rfl
  | cons c s ih =>
    rw [List.cons_append, Place.through, Place.through]
    cases place.move c with
    | go next => exact ih next
    | cut => rfl
    | refuse => rfl

theorem Passed.append (hs : Passed s) (ht : Passed t) : Passed (s ++ t) := by
  rw [Passed, Place.through_append, hs]
  exact ht

/-- What leaves the splitter where it stands, character by character, leaves it there. -/
theorem through_stay (h : ∀ c ∈ s, place.move c = .go place) : place.through s = some place := by
  induction s with
  | nil => rfl
  | cons c s ih =>
    obtain ⟨hc, hs⟩ := List.forall_mem_cons.1 h
    rw [Place.through_go hc]
    exact ih hs

theorem passed_inert (h : ∀ c ∈ s, isInert c = true) : Passed s :=
  through_stay fun c hc => move_inert (h c hc)

/-! ## 3. Items -/

/-- Puts text before the first of some items. -/
def prependText (s : List Char) (p : List Char × List (List Char)) :
    List Char × List (List Char) :=
  (s ++ p.1, p.2)

theorem map_prependChar (x : Except Imbalance (List Char × List (List Char))) :
    (x.map (prependText s)).map (prependChar c) = x.map (prependText (c :: s)) := by
  cases x <;> rfl

/-- **What is gone through belongs to the item** that is read after it. -/
theorem itemsFrom_through (h : place.through s = some next) (r : List Char) :
    itemsFrom place (s ++ r) = (itemsFrom next r).map (prependText s) := by
  induction s generalizing place with
  | nil =>
    cases h
    rw [List.nil_append]
    cases itemsFrom next r with
    | error e => rfl
    | ok p => rfl
  | cons c s ih =>
    obtain ⟨after, hm, hs⟩ := through_cons h
    rw [List.cons_append, itemsFrom, hm]
    dsimp only
    rw [ih hs, map_prependChar]

/-- The last item. -/
theorem itemsFrom_last (h : place.through s = some (.plain 0)) :
    itemsFrom place s = .ok (s, []) := by
  have hread := itemsFrom_through h []
  rw [List.append_nil] at hread
  rw [hread]
  simp [itemsFrom, Except.map, prependText]

theorem intercalate_cons_head {sep x : List Char} :
    List.intercalate sep ((c :: x) :: xs) = c :: List.intercalate sep (x :: xs) := by
  cases xs with
  | nil => simp
  | cons y ys => rw [List.intercalate_cons_cons, List.intercalate_cons_cons]; rfl

/-- Items that are passed, joined by commas, are cut into these items. -/
theorem itemsFrom_intercalate (x : List Char) (xs : List (List Char))
    (h : ∀ y ∈ x :: xs, Passed y) :
    itemsFrom (.plain 0) (List.intercalate [','] (x :: xs)) = .ok (x, xs) := by
  obtain ⟨hx, hxs⟩ := List.forall_mem_cons.1 h
  induction xs generalizing x with
  | nil =>
    rw [List.intercalate_singleton]
    exact itemsFrom_last hx
  | cons y ys ih =>
    obtain ⟨hy, hys⟩ := List.forall_mem_cons.1 hxs
    rw [List.intercalate_cons_cons, List.append_assoc, itemsFrom_through hx]
    show (itemsFrom (.plain 0) (',' :: List.intercalate [','] (y :: ys))).map _ = _
    rw [itemsFrom, move_iff.2 .comma]
    dsimp only
    rw [ih y hxs hy hys]
    simp [Except.map, cutBefore, prependText]

/-- **What is cut is passed and loses nothing.** -/
theorem through_of_itemsFrom {p : List Char × List (List Char)} (h : itemsFrom place s = .ok p) :
    place.through p.1 = some (.plain 0) ∧ (∀ x ∈ p.2, Passed x) ∧
      List.intercalate [','] (p.1 :: p.2) = s := by
  fun_induction itemsFrom place s generalizing p with
  | case1 =>
    cases h
    exact ⟨rfl, nofun, rfl⟩
  | case2 => cases h
  | case3 place c r next hm ih =>
    obtain ⟨x, hx, rfl⟩ := map_eq_ok_iff.1 h
    obtain ⟨hrest, hall, hjoin⟩ := ih hx
    refine ⟨(Place.through_go hm x.1).trans hrest, hall, ?_⟩
    rw [prependChar, intercalate_cons_head, hjoin]
  | case4 place c r hm ih =>
    obtain ⟨x, hx, rfl⟩ := map_eq_ok_iff.1 h
    obtain ⟨hrest, hall, hjoin⟩ := ih hx
    obtain ⟨rfl, rfl⟩ := eq_of_move_cut hm
    refine ⟨rfl, List.forall_mem_cons.2 ⟨hrest, hall⟩, ?_⟩
    rw [cutBefore, List.intercalate_cons_cons, hjoin]
    rfl
  | case5 => cases h

/-- **A structure is cut into items** if and only if it is these items joined by commas, and the
    splitter passes each of them. -/
theorem items_eq_ok_iff :
    items s = .ok xs ↔ xs ≠ [] ∧ (∀ x ∈ xs, Passed x) ∧ List.intercalate [','] xs = s := by
  rw [items, map_eq_ok_iff]
  constructor
  · intro ⟨p, hp, e⟩
    subst e
    obtain ⟨hfirst, hmore, hjoin⟩ := through_of_itemsFrom hp
    exact ⟨List.cons_ne_nil _ _, List.forall_mem_cons.2 ⟨hfirst, hmore⟩, hjoin⟩
  · intro ⟨hne, hall, e⟩
    subst e
    obtain ⟨x, xs, rfl⟩ := List.exists_cons_of_ne_nil hne
    exact ⟨(x, xs), itemsFrom_intercalate x xs hall, rfl⟩

/-- A text that is one item. -/
theorem passed_iff_items : Passed s ↔ items s = .ok [s] := by
  rw [items_eq_ok_iff]
  simp

/-! ## 4. Blanks do not count -/

/-- The quotes that a place can stand in. -/
def Place.Proper : Place → Prop
  | .plain _ => True
  | .inQuotes _ q => isQuote q = true
  | .afterBackslash _ q => isQuote q = true

theorem proper_of_move (hm : place.move c = .go next) (h : place.Proper) : next.Proper := by
  cases move_iff.1 hm with
  | shielded | backslash | quoted => exact h
  | startQuote d hq => exact hq
  | endQuote | openParen | closeParen | plain => trivial

theorem proper_of_through (ht : place.through s = some next) (h : place.Proper) : next.Proper := by
  induction s generalizing place with
  | nil =>
    cases ht
    exact h
  | cons c s ih =>
    obtain ⟨after, hm, hs⟩ := through_cons ht
    exact ih hs (proper_of_move hm h)

theorem ne_of_isBlank {x : Char} (hc : Text.isBlank c = true) (hx : Text.isBlank x = false) :
    c ≠ x := fun e => by
  rw [e, hx] at hc
  cases hc

theorem isBlank_of_isQuote (hq : isQuote q = true) : Text.isBlank q = false := by
  rcases isQuote_iff.1 hq with rfl | rfl | rfl
  all_goals rfl

/-- A blank leaves the splitter where it stands, unless a backslash stands before it. -/
theorem move_blank_plain (hc : Text.isBlank c = true) :
    (Place.plain d).move c = .go (.plain d) := by
  have hquote : isQuote c = false := Bool.eq_false_iff.2 fun hq => by
    rw [isBlank_of_isQuote hq] at hc
    cases hc
  have hopen : c ≠ '(' := ne_of_isBlank hc rfl
  have hclose : c ≠ ')' := ne_of_isBlank hc rfl
  have hcomma : ¬ (c = ',' ∧ d = 0) := fun h => ne_of_isBlank hc rfl h.1
  exact move_iff.2 (.plain hquote hopen hclose hcomma)

theorem move_blank_inQuotes (hq : isQuote q = true) (hc : Text.isBlank c = true) :
    (Place.inQuotes d q).move c = .go (.inQuotes d q) := by
  have hback : c ≠ '\\' := ne_of_isBlank hc rfl
  have hclose : c ≠ q := ne_of_isBlank hc (isBlank_of_isQuote hq)
  exact move_iff.2 (.quoted d hclose hback)

theorem through_blanks (hs : ∀ c ∈ s, Text.isBlank c = true) :
    (Place.plain d).through s = some (.plain d) :=
  through_stay fun c hc => move_blank_plain (hs c hc)

/-- A blank before a text that is passed. -/
theorem Passed.blank (hc : Text.isBlank c = true) (hs : Passed s) : Passed (c :: s) :=
  (Place.through_go (move_blank_plain hc) s).trans hs

theorem through_blanks_inQuotes (hq : isQuote q = true) (hs : ∀ c ∈ s, Text.isBlank c = true) :
    (Place.inQuotes d q).through s = some (.inQuotes d q) :=
  through_stay fun c hc => move_blank_inQuotes hq (hs c hc)

/-- So only outside quotes blanks lead outside quotes. -/
theorem eq_plain_of_through_blanks (h : place.Proper) (hs : ∀ c ∈ s, Text.isBlank c = true)
    (ht : place.through s = some (.plain d)) : place = .plain d := by
  cases place with
  | plain n =>
    cases (through_blanks hs).symm.trans ht
    rfl
  | inQuotes n q => cases (through_blanks_inQuotes h hs).symm.trans ht
  | afterBackslash n q =>
    cases s with
    | nil => cases ht
    | cons c s =>
      rw [through_afterBackslash] at ht
      cases (through_blanks_inQuotes h (List.forall_mem_cons.1 hs).2).symm.trans ht

/-- **Trimming does not change what the splitter makes of a text** outside quotes. -/
theorem through_trim (h : (Place.plain d).through s = some (.plain 0)) :
    (Place.plain d).through (Text.trim s) = some (.plain 0) := by
  obtain ⟨a, b, e, ha, hb⟩ := Text.exists_eq_append_trim s
  rw [e, Place.through_append, through_blanks ha, Option.bind_some, Place.through_append,
    Option.bind_eq_some_iff] at h
  obtain ⟨last, ht, hlast⟩ := h
  rw [ht, eq_plain_of_through_blanks (proper_of_through ht trivial) hb hlast]

/-! ## 5. Parentheses that are open before -/

/-- The same place with `k` more parentheses open. -/
def Place.deeper (k : Int32) : Place → Place
  | .plain d => .plain (d + k)
  | .inQuotes d q => .inQuotes (d + k) q
  | .afterBackslash d q => .afterBackslash (d + k) q

theorem eq_of_move_close (h : (Place.plain d).move ')' = .go next) : next = .plain (d - 1) := by
  generalize hc : ')' = c at h
  generalize hp : Place.plain d = place at h
  cases move_iff.1 h with
  | closeParen hd => rw [Place.plain.inj hp]
  | openParen => cases hc
  | startQuote d hq =>
    subst hc
    cases hq
  | plain _ _ hclose => exact absurd hc.symm hclose
  | shielded | backslash | endQuote | quoted => cases hp

/-- What is neither a quote nor a parenthesis leaves the depth. -/
theorem eq_of_move_plain (hq : isQuote c = false) (ho : c ≠ '(') (hc : c ≠ ')')
    (h : (Place.plain d).move c = .go next) : next = .plain d := by
  generalize hp : Place.plain d = place at h
  cases move_iff.1 h with
  | plain => rfl
  | openParen => exact absurd rfl ho
  | closeParen => exact absurd rfl hc
  | startQuote d hq' => exact Bool.noConfusion (hq.symm.trans hq')
  | shielded | backslash | endQuote | quoted => cases hp

/-- **One step leaves the difference** as it is. -/
theorem move_deeper {next' : Place} (h : place.move c = .go next)
    (h' : (place.deeper k).move c = .go next') : next' = next.deeper k := by
  cases move_iff.1 h with
  | shielded d q => exact (Move.go.inj h').symm
  | backslash d q => exact Move.go.inj (h'.symm.trans (move_iff.2 (.backslash (d + k) q)))
  | endQuote d hb => exact Move.go.inj (h'.symm.trans (move_iff.2 (.endQuote (d + k) hb)))
  | quoted d hq hb => exact Move.go.inj (h'.symm.trans (move_iff.2 (.quoted (d + k) hq hb)))
  | startQuote d hq => exact Move.go.inj (h'.symm.trans (move_iff.2 (.startQuote (d + k) hq)))
  | openParen d =>
    have hplus : d + k + 1 = d + 1 + k := by
      rw [Int32.add_assoc, Int32.add_comm k, ← Int32.add_assoc]
    exact (Move.go.inj h').symm.trans (congrArg Place.plain hplus)
  | @closeParen d hd =>
    have hminus : d + k - 1 = d - 1 + k := by
      rw [Int32.sub_eq_add_neg, Int32.sub_eq_add_neg, Int32.add_assoc, Int32.add_comm k,
        ← Int32.add_assoc]
    exact (eq_of_move_close h').trans (congrArg Place.plain hminus)
  | plain hq ho hc hcut => exact eq_of_move_plain hq ho hc h'

/-- **Through a text the difference stays.** -/
theorem through_deeper {last' : Place} (h : place.through s = some last)
    (h' : (place.deeper k).through s = some last') : last' = last.deeper k := by
  induction s generalizing place with
  | nil =>
    cases h
    cases h'
    rfl
  | cons c s ih =>
    obtain ⟨next, hm, hs⟩ := through_cons h
    obtain ⟨next', hm', hs'⟩ := through_cons h'
    rw [move_deeper hm hm'] at hs'
    exact ih hs hs'

/-- **What closes a parenthesis is not passed** on its own. -/
theorem not_passed_of_through (hd : d ≠ 0) (h : (Place.plain d).through s = some (.plain 0)) :
    ¬ Passed s := by
  intro hs
  have hdeeper : (Place.plain 0).deeper d = .plain d := congrArg Place.plain (Int32.zero_add d)
  have hlast := through_deeper (k := d) hs (hdeeper ▸ h)
  rw [hdeeper] at hlast
  exact hd (Place.plain.inj hlast).symm

end StatelessSession.Sql.Column
