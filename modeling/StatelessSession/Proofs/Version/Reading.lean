import Mathlib.Data.List.Forall2
import StatelessSession.Proofs.Version.Order

/-!
# Versions are read piece by piece

A text is cut at its dots, and each of the first four pieces gives a part of the version if it
begins with a number. A piece that begins with none does not only leave its own part at zero but
those of all pieces after it, whatever these say.

* `IsPieces`, `pieces_eq_iff` -- the pieces of a text.
* `BeginsWith`, `leadingNumber?_eq_some_iff` -- the number at the front of a piece.
* `getD_leadingNumbers` -- a part is read if all pieces up to its own begin with numbers.
* **`ofString_parts`** -- every part of what is read, and when each piece counts for itself.

NOT here: versions as they are written (`RoundTrip`).
-/

namespace StatelessSession.Version

variable {p q s t : List Char} {ps qs : List (List Char)} {n : UInt32} {i j : Nat}

/-! ## 1. Pieces -/

/-- **The pieces of a text**: they have no dots, and joined by dots they are the text. -/
structure IsPieces (s : List Char) (ps : List (List Char)) : Prop where
  ne_nil : ps ≠ []
  dotless : ∀ p ∈ ps, '.' ∉ p
  joined : List.intercalate ['.'] ps = s

theorem pieces_dot (s : List Char) : pieces ('.' :: s) = [] :: pieces s := by
  rw [pieces, if_pos rfl]

theorem pieces_ne_nil (s : List Char) : pieces s ≠ [] := by
  cases s with
  | nil => exact List.cons_ne_nil _ _
  | cons c s =>
    rw [pieces]
    split
    · exact List.cons_ne_nil _ _
    · split <;> exact List.cons_ne_nil _ _

/-- A character that is no dot goes to the first piece. -/
theorem pieces_cons {c : Char} (hc : c ≠ '.') (h : pieces s = p :: ps) :
    pieces (c :: s) = (c :: p) :: ps := by
  rw [pieces, if_neg hc, h]

theorem pieces_of_dotless (hp : '.' ∉ p) : pieces p = [p] := by
  induction p with
  | nil => rfl
  | cons c p ih =>
    obtain ⟨hc, hp⟩ := not_or.1 (fun h => hp (List.mem_cons.2 h))
    exact pieces_cons (Ne.symm hc) (ih hp)

theorem pieces_append_dot (hp : '.' ∉ p) (s : List Char) :
    pieces (p ++ '.' :: s) = p :: pieces s := by
  induction p with
  | nil => exact pieces_dot s
  | cons c p ih =>
    obtain ⟨hc, hp⟩ := not_or.1 (fun h => hp (List.mem_cons.2 h))
    exact pieces_cons (Ne.symm hc) (ih hp)

/-- Pieces that are joined by dots are cut there again. -/
theorem pieces_intercalate (hne : ps ≠ []) (hps : ∀ p ∈ ps, '.' ∉ p) :
    pieces (List.intercalate ['.'] ps) = ps := by
  induction ps with
  | nil => exact absurd rfl hne
  | cons p ps ih =>
    obtain ⟨hp, hps⟩ := List.forall_mem_cons.1 hps
    cases ps with
    | nil => rw [List.intercalate_singleton, pieces_of_dotless hp]
    | cons q ps =>
      rw [List.intercalate_cons_cons, List.append_assoc, List.singleton_append,
        pieces_append_dot hp, ih (List.cons_ne_nil _ _) hps]

theorem isPieces_pieces (s : List Char) : IsPieces s (pieces s) := by
  induction s with
  | nil => exact ⟨List.cons_ne_nil _ _, by simp [pieces], rfl⟩
  | cons c s ih =>
    obtain ⟨p, ps, h⟩ := List.exists_cons_of_ne_nil (pieces_ne_nil s)
    rw [h] at ih
    obtain ⟨-, hdotless, hjoined⟩ := ih
    by_cases hc : c = '.'
    · subst hc
      rw [pieces_dot, h]
      refine ⟨List.cons_ne_nil _ _, List.forall_mem_cons.2 ⟨List.not_mem_nil, hdotless⟩, ?_⟩
      rw [List.intercalate_cons_cons, hjoined]
      rfl
    · obtain ⟨hp, hps⟩ := List.forall_mem_cons.1 hdotless
      have hcp : '.' ∉ c :: p := fun hm => (List.mem_cons.1 hm).elim (fun e => hc e.symm) hp
      rw [pieces_cons hc h]
      refine ⟨List.cons_ne_nil _ _, List.forall_mem_cons.2 ⟨hcp, hps⟩, ?_⟩
      rw [← hjoined]
      cases ps with
      | nil => rw [List.intercalate_singleton, List.intercalate_singleton]
      | cons q ps => rw [List.intercalate_cons_cons, List.intercalate_cons_cons]; rfl

/-- **A text has one list of pieces.** -/
theorem pieces_eq_iff : pieces s = ps ↔ IsPieces s ps := by
  constructor
  · intro h
    rw [← h]
    exact isPieces_pieces s
  · intro h
    rw [← h.joined, pieces_intercalate h.ne_nil h.dotless]

/-! ## 2. The number of a piece -/

/-- **A piece begins with a number**: with digits that have its value, all that there are at the
    front. -/
def BeginsWith (p : List Char) (n : UInt32) : Prop :=
  ∃ ds r, p = ds ++ r ∧ ds ≠ [] ∧ (∀ c ∈ ds, Text.isDigit c = true) ∧
    (∀ c ∈ r.head?, Text.isDigit c = false) ∧ Text.value ds = n.toNat

/-- The digits at the front are all before what does not begin with one. -/
theorem takeWhile_isDigit_append {ds r : List Char} (hds : ∀ c ∈ ds, Text.isDigit c = true)
    (hr : ∀ c ∈ r.head?, Text.isDigit c = false) : (ds ++ r).takeWhile Text.isDigit = ds := by
  rw [List.takeWhile_append_of_pos hds]
  cases r with
  | nil => exact List.append_nil ds
  | cons c r =>
    have hc : ¬ Text.isDigit c = true := Bool.eq_false_iff.1 (hr c rfl)
    rw [List.takeWhile_cons_of_neg hc, List.append_nil]

theorem head?_dropWhile_isDigit (p : List Char) :
    ∀ c ∈ (p.dropWhile Text.isDigit).head?, Text.isDigit c = false := by
  intro c hc
  have h := List.head?_dropWhile_not Text.isDigit p
  rw [Option.mem_def.1 hc] at h
  simpa using h

/-- **The number at the front of a piece** is that of all its leading digits. -/
theorem leadingNumber?_eq_some_iff : leadingNumber? p = some n ↔ BeginsWith p n := by
  have hbound : ∀ m < Nat.pow 2 32, (UInt32.ofNat m).toNat = m := fun m hm =>
    Nat.mod_eq_of_lt hm
  rw [leadingNumber?]
  constructor
  · intro h
    refine ⟨p.takeWhile Text.isDigit, p.dropWhile Text.isDigit,
      List.takeWhile_append_dropWhile.symm, ?_⟩
    split at h
    · cases h
    rename_i hne
    split at h
    · rename_i hlt
      cases h
      exact ⟨fun e => hne (List.isEmpty_iff.2 e),
        fun c hc => List.all_eq_true.1 List.all_takeWhile c hc, head?_dropWhile_isDigit p,
        (hbound _ hlt).symm⟩
    · cases h
  · intro ⟨ds, r, e, hne, hds, hr, hvalue⟩
    have hlt : Text.value ds < Nat.pow 2 32 := by
      rw [hvalue]
      exact n.toNat_lt
    have hn : UInt32.ofNat (Text.value ds) = n := by rw [hvalue, UInt32.ofNat_toNat]
    rw [e, takeWhile_isDigit_append hds hr, if_neg (fun h => hne (List.isEmpty_iff.1 h)),
      if_pos hlt, hn]

/-! ## 3. Parts -/

/-- The number of a piece, if it is there and begins with one. -/
def numberAt? (ps : List (List Char)) (i : Nat) : Option UInt32 := ps[i]?.bind leadingNumber?

/-- The part that a piece gives on its own: zero if the piece is missing or begins with no
    number. -/
def partAt (ps : List (List Char)) (i : Nat) : UInt32 := (numberAt? ps i).getD 0

/-- The version whose parts are given by the pieces, each on its own. -/
def ofPieces (ps : List (List Char)) : Version :=
  ⟨partAt ps 0, partAt ps 1, partAt ps 2, partAt ps 3⟩

/-- All pieces up to the one at `i` begin with numbers. -/
def AllNumbers (ps : List (List Char)) (i : Nat) : Prop := ∀ j ≤ i, (numberAt? ps j).isSome = true

instance (ps : List (List Char)) (i : Nat) : Decidable (AllNumbers ps i) :=
  inferInstanceAs (Decidable (∀ j ≤ i, (numberAt? ps j).isSome = true))

theorem allNumbers_succ_iff :
    AllNumbers (p :: ps) (i + 1) ↔ (leadingNumber? p).isSome = true ∧ AllNumbers ps i := by
  constructor
  · intro h
    exact ⟨h 0 (Nat.zero_le _), fun j hj => h (j + 1) (Nat.succ_le_succ hj)⟩
  · intro ⟨h0, h⟩ j hj
    cases j with
    | zero => exact h0
    | succ j => exact h j (Nat.le_of_succ_le_succ hj)

/-- **A number is read** if all pieces up to its own begin with numbers. -/
theorem getD_leadingNumbers (ps : List (List Char)) (i : Nat) :
    (leadingNumbers ps).getD i 0 = if AllNumbers ps i then partAt ps i else 0 := by
  induction ps generalizing i with
  | nil =>
    have hno : ¬ AllNumbers [] i := fun h => by cases h i (Nat.le_refl i)
    rw [if_neg hno]
    rfl
  | cons p ps ih =>
    rw [leadingNumbers]
    cases hp : leadingNumber? p with
    | none =>
      have hno : ¬ AllNumbers (p :: ps) i := fun h => by
        have h0 := h 0 (Nat.zero_le i)
        rw [numberAt?, List.getElem?_cons_zero, Option.bind_some, hp] at h0
        cases h0
      rw [if_neg hno]
      rfl
    | some n =>
      cases i with
      | zero =>
        have hyes : AllNumbers (p :: ps) 0 := fun j hj => by
          rw [Nat.le_zero.1 hj, numberAt?, List.getElem?_cons_zero, Option.bind_some, hp]
          rfl
        rw [if_pos hyes, partAt, numberAt?, List.getElem?_cons_zero, Option.bind_some, hp]
        rfl
      | succ i =>
        have hiff : AllNumbers (p :: ps) (i + 1) ↔ AllNumbers ps i := by
          rw [allNumbers_succ_iff, hp]
          exact and_iff_right rfl
        have hpart : partAt (p :: ps) (i + 1) = partAt ps i := by
          rw [partAt, partAt, numberAt?, numberAt?, List.getElem?_cons_succ]
        simp only [hiff, hpart, ← ih]
        rfl

/-! ## 4. Texts -/

theorem parts_ofParts (ns : List UInt32) (hi : i < 4) :
    (ofParts ns).parts[i]? = some (ns.getD i 0) := by
  match i with
  | 0 => rfl
  | 1 => rfl
  | 2 => rfl
  | 3 => rfl

theorem parts_ofPieces (ps : List (List Char)) (hi : i < 4) :
    (ofPieces ps).parts[i]? = some (partAt ps i) := by
  match i with
  | 0 => rfl
  | 1 => rfl
  | 2 => rfl
  | 3 => rfl

theorem parts_eq_iff {v w : Version} : v = w ↔ ∀ i < 4, v.parts[i]? = w.parts[i]? := by
  constructor
  · intro h i _
    rw [h]
  · intro h
    refine eq_of_parts (List.ext_getElem? fun i => ?_)
    by_cases hi : i < 4
    · exact h i hi
    · rw [List.getElem?_eq_none (Nat.le_of_not_lt hi), List.getElem?_eq_none (Nat.le_of_not_lt hi)]

/-- **A part is what its piece gives** unless a piece before it begins with no number and this one
    gives more than zero. -/
theorem ite_allNumbers_eq_iff :
    (if AllNumbers ps j then partAt ps j else 0) = partAt ps j ↔
      ∀ i < j, numberAt? ps i = none → partAt ps j = 0 := by
  constructor
  · intro h i hij hi
    have hno : ¬ AllNumbers ps j := fun hall => by
      have hsome := hall i (Nat.le_of_lt hij)
      rw [hi] at hsome
      cases hsome
    rw [if_neg hno] at h
    exact h.symm
  · intro h
    split
    · rfl
    rename_i hno
    obtain ⟨i, hi⟩ := not_forall.1 hno
    obtain ⟨hij, hi⟩ := Classical.not_imp.1 hi
    have hnone : numberAt? ps i = none := Option.not_isSome_iff_eq_none.1 hi
    rcases Nat.lt_or_eq_of_le hij with hlt | rfl
    · exact (h i hlt hnone).symm
    · rw [partAt, hnone]
      rfl

/-- **What is read of any text.** Cut at the dots of the trimmed text, which can be done in one way,
    each of the first four pieces gives its part if it and all pieces before it begin with numbers;
    otherwise the part is zero. So the pieces count each on its own if and only if no piece that
    gives more than zero stands behind one that begins with no number. -/
theorem ofString_parts (s : String) :
    ∃ ps, (∀ qs, IsPieces (Text.trim s.toList) qs ↔ qs = ps) ∧
      (∀ i n, numberAt? ps i = some n ↔ ∃ p, ps[i]? = some p ∧ BeginsWith p n) ∧
      (∀ i < 4, (ofString s).parts[i]? = some (if AllNumbers ps i then partAt ps i else 0)) ∧
      (ofString s = ofPieces ps ↔
        ∀ i j, i < j → j < 4 → numberAt? ps i = none → partAt ps j = 0) := by
  have hparts : ∀ i < 4, (ofString s).parts[i]? =
      some (if AllNumbers (pieces (Text.trim s.toList)) i then
        partAt (pieces (Text.trim s.toList)) i else 0) := fun i hi => by
    rw [ofString, parts_ofParts _ hi, getD_leadingNumbers]
  refine ⟨pieces (Text.trim s.toList), fun qs => ?_, fun i n => ?_, hparts, ?_⟩
  · rw [← pieces_eq_iff]
    exact eq_comm
  · rw [numberAt?, Option.bind_eq_some_iff]
    simp only [leadingNumber?_eq_some_iff]
  · have hall : ofString s = ofPieces (pieces (Text.trim s.toList)) ↔
        ∀ j < 4, (if AllNumbers (pieces (Text.trim s.toList)) j then
          partAt (pieces (Text.trim s.toList)) j else 0) =
            partAt (pieces (Text.trim s.toList)) j := by
      rw [parts_eq_iff]
      refine forall_congr' fun j => imp_congr_right fun hj => ?_
      rw [hparts j hj, parts_ofPieces _ hj, Option.some.injEq]
    rw [hall]
    constructor
    · exact fun h i j hij hj => ite_allNumbers_eq_iff.1 (h j hj) i hij
    · exact fun h j hj => ite_allNumbers_eq_iff.2 fun i hij => h i j hij hj

/-- The patch that stands behind a minor version that is no number is not read. -/
theorem ofString_parts_unread :
    ∃ ps, IsPieces "22.v8.3".toList ps ∧ ofPieces ps = ⟨22, 0, 3, 0⟩ ∧
      ofString "22.v8.3" = ⟨22, 0, 0, 0⟩ ∧ ofString "22.v8.3" ≠ ofPieces ps := by
  obtain ⟨ps, hps, -, hparts, hiff⟩ := ofString_parts "22.v8.3"
  have htrim : Text.trim "22.v8.3".toList = "22.v8.3".toList := by decide +kernel
  have hpieces : pieces "22.v8.3".toList = ["22".toList, "v8".toList, "3".toList] := by
    decide +kernel
  rw [htrim] at hps
  have hself := (hps _).1 (pieces_eq_iff.1 hpieces)
  subst hself
  refine ⟨_, pieces_eq_iff.1 hpieces, by decide +kernel, ?_, fun h => ?_⟩
  · refine parts_eq_iff.2 fun i hi => (hparts i hi).trans ?_
    revert i
    decide +kernel
  · have hzero := hiff.1 h 1 2 (by decide) (by decide) (by decide +kernel)
    revert hzero
    decide +kernel

end StatelessSession.Version
