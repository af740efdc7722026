import StatelessSession.Proofs.Version.Reading

/-!
# Versions are read back

A version that is written is read back, though a zero build is not written, and so it is with blanks
around the text and with something after each numeral that does not go on with it and has no dot.
Blanks at the end would not even have to be trimmed: no number begins in them.

* `Spells`, `Written` -- a number as a piece, numbers as a text.
* `ofString_of_written` -- numbers that are written are read back, however many there are.
* `chars_eq_intercalate` -- the text of a version.
* **`version_round_trip`** -- versions are read back, and checked for a release by their order.
-/

namespace StatelessSession.Version

variable {p q t b : List Char} {ps : List (List Char)} {ns : List UInt32} {n : UInt32} {c : Char}
  {s : String} {v : Version}

/-! ## 1. Numerals with something after them -/

theorem isDigit_of_mem_digits {m : Nat} (hc : c ∈ Text.digits m) : Text.isDigit c = true :=
  Nat.isDigit_of_mem_toDigits (by decide) (by decide) hc

/-- What may follow a numeral: it does not go on with it, and it has no dot. -/
def IsSuffix (t : List Char) : Prop := (∀ c ∈ t.head?, Text.isDigit c = false) ∧ '.' ∉ t

/-- A piece is the numeral of a number with something after it. -/
def Spells (p : List Char) (n : UInt32) : Prop := ∃ t, IsSuffix t ∧ p = Text.digits n.toNat ++ t

theorem isSuffix_nil : IsSuffix [] := ⟨nofun, List.not_mem_nil⟩

theorem isSuffix_cons (hc : Text.isDigit c = false) (ht : '.' ∉ c :: t) : IsSuffix (c :: t) := by
  refine ⟨fun d hd => ?_, ht⟩
  cases hd
  exact hc

theorem dotless_digits (m : Nat) : '.' ∉ Text.digits m := fun h => by
  have hdot := isDigit_of_mem_digits h
  revert hdot
  decide

theorem Spells.dotless (h : Spells p n) : '.' ∉ p := by
  obtain ⟨t, ht, rfl⟩ := h
  intro hdot
  rcases List.mem_append.1 hdot with hdot | hdot
  · exact dotless_digits _ hdot
  · exact ht.2 hdot

/-- **A number is read back from its numeral.** -/
theorem Spells.leadingNumber? (h : Spells p n) : leadingNumber? p = some n := by
  obtain ⟨t, ht, rfl⟩ := h
  exact leadingNumber?_eq_some_iff.2 ⟨_, t, rfl, Nat.toDigits_ne_nil,
    fun c hc => isDigit_of_mem_digits hc, ht.1, Text.value_digits _⟩

/-- A numeral does not begin with a blank. -/
theorem Spells.exists_cons (h : Spells p n) : ∃ c r, p = c :: r ∧ Text.isDigit c = true := by
  obtain ⟨t, -, rfl⟩ := h
  obtain ⟨c, ds, hds⟩ := List.exists_cons_of_ne_nil (Nat.toDigits_ne_nil (n := n.toNat) (b := 10))
  have hc : c ∈ Text.digits n.toNat := by
    rw [Text.digits, hds]
    exact List.mem_cons_self
  exact ⟨c, ds ++ t, by rw [Text.digits, hds]; rfl, isDigit_of_mem_digits hc⟩

theorem dotless_of_spells (h : List.Forall₂ Spells ps ns) : ∀ p ∈ ps, '.' ∉ p := by
  induction h with
  | nil => exact nofun
  | cons hp _ ih => exact List.forall_mem_cons.2 ⟨hp.dotless, ih⟩

theorem leadingNumbers_of_spells (h : List.Forall₂ Spells ps ns) : leadingNumbers ps = ns := by
  induction h with
  | nil => rfl
  | cons hp _ ih => rw [leadingNumbers, hp.leadingNumber?, ih]

/-! ## 2. Blanks -/

theorem not_isDigit_of_isBlank (h : Text.isBlank c = true) : Text.isDigit c = false := by
  refine Bool.eq_false_iff.2 fun hd => ?_
  simp only [Text.isDigit, Bool.and_eq_true, decide_eq_true_eq] at hd
  simp only [Text.isBlank, Bool.or_eq_true, Bool.and_eq_true, decide_eq_true_eq, beq_iff_eq] at h
  have hfirst : 48 ≤ c.toNat := hd.1
  have hlast : c.toNat ≤ 57 := hd.2
  omega

theorem ne_dot_of_isBlank (h : Text.isBlank c = true) : c ≠ '.' := by
  intro e
  rw [e] at h
  revert h
  decide

/-- What is no digit and no dot adds nothing to the number of a piece. -/
theorem leadingNumber?_append (hb : ∀ c ∈ b, Text.isDigit c = false) (p : List Char) :
    leadingNumber? (p ++ b) = leadingNumber? p := by
  have htake : (p ++ b).takeWhile Text.isDigit = p.takeWhile Text.isDigit := by
    have hsplit : p ++ b = p.takeWhile Text.isDigit ++ (p.dropWhile Text.isDigit ++ b) := by
      rw [← List.append_assoc, List.takeWhile_append_dropWhile]
    rw [hsplit]
    refine takeWhile_isDigit_append (fun c hc => List.all_eq_true.1 List.all_takeWhile c hc)
      fun c hc => ?_
    cases hd : p.dropWhile Text.isDigit with
    | nil =>
      rw [hd, List.nil_append] at hc
      exact hb c (List.mem_of_head? hc)
    | cons d r =>
      rw [hd] at hc
      exact head?_dropWhile_isDigit p c (by rw [hd]; exact hc)
  rw [Version.leadingNumber?, Version.leadingNumber?, htake]

/-- What has no dot goes to the last piece. -/
theorem forall₂_pieces_append (hb : '.' ∉ b) (t : List Char) :
    List.Forall₂ (fun p q => p = q ∨ p = q ++ b) (pieces (t ++ b)) (pieces t) := by
  induction t with
  | nil =>
    rw [List.nil_append, pieces_of_dotless hb]
    exact .cons (.inr rfl) .nil
  | cons c t ih =>
    by_cases hc : c = '.'
    · subst hc
      rw [List.cons_append, pieces_dot, pieces_dot]
      exact .cons (.inl rfl) ih
    · cases h : pieces t with
      | nil => exact absurd h (pieces_ne_nil t)
      | cons q qs =>
        rw [h] at ih
        cases h' : pieces (t ++ b) with
        | nil => exact absurd h' (pieces_ne_nil _)
        | cons p ps =>
          rw [h'] at ih
          obtain ⟨hpq, htail⟩ := List.forall₂_cons.1 ih
          rw [List.cons_append, pieces_cons hc h, pieces_cons hc h']
          refine .cons ?_ htail
          rcases hpq with rfl | rfl
          · exact .inl rfl
          · exact .inr rfl

theorem leadingNumbers_congr {qs : List (List Char)}
    (h : List.Forall₂ (fun p q => leadingNumber? p = leadingNumber? q) ps qs) :
    leadingNumbers ps = leadingNumbers qs := by
  induction h with
  | nil => rfl
  | cons hpq _ ih => rw [leadingNumbers, leadingNumbers, hpq, ih]

/-- **Blanks at the end add nothing** to the numbers of a text. -/
theorem leadingNumbers_append_blanks (hb : ∀ c ∈ b, Text.isBlank c = true) (t : List Char) :
    leadingNumbers (pieces (t ++ b)) = leadingNumbers (pieces t) := by
  have hdot : '.' ∉ b := fun h => ne_dot_of_isBlank (hb _ h) rfl
  refine leadingNumbers_congr ((forall₂_pieces_append hdot t).imp fun p q h => ?_)
  rcases h with rfl | rfl
  · rfl
  · exact leadingNumber?_append (fun c hc => not_isDigit_of_isBlank (hb c hc)) q

/-- Only the blanks before a version have to be dropped. -/
theorem ofString_eq_trimStart (s : String) :
    ofString s = ofParts (leadingNumbers (pieces (Text.trimStart s.toList))) := by
  obtain ⟨b, hsplit, hb⟩ := Text.exists_eq_trimEnd_append (Text.trimStart s.toList)
  have hadd := leadingNumbers_append_blanks hb (Text.trimEnd (Text.trimStart s.toList))
  rw [← hsplit] at hadd
  rw [ofString, Text.trim, hadd]

/-- Blanks before a text that begins with none are all that is dropped. -/
theorem trimStart_append (hb : ∀ c ∈ b, Text.isBlank c = true) (hc : Text.isBlank c = false)
    (t : List Char) : Text.trimStart (b ++ c :: t) = c :: t := by
  induction b with
  | nil => rw [List.nil_append, Text.trimStart_cons, hc, if_neg Bool.false_ne_true]
  | cons d b ih =>
    obtain ⟨hd, hb⟩ := List.forall_mem_cons.1 hb
    rw [List.cons_append, Text.trimStart_cons, hd, if_pos rfl, ih hb]

/-! ## 3. Written versions -/

/-- **Numbers as a text**: their numerals with dots between them, with something after each, and
    with blanks around the whole. -/
def Written (ns : List UInt32) (s : String) : Prop :=
  ∃ before ps after, s.toList = before ++ (List.intercalate ['.'] ps ++ after) ∧
    (∀ c ∈ before, Text.isBlank c = true) ∧ (∀ c ∈ after, Text.isBlank c = true) ∧
    List.Forall₂ Spells ps ns

/-- **Numbers are read back from their text**, as the parts of a version. -/
theorem ofString_of_written (hne : ns ≠ []) (h : Written ns s) : ofString s = ofParts ns := by
  obtain ⟨before, ps, after, hs, hbefore, hafter, hps⟩ := h
  cases hps with
  | nil => exact absurd rfl hne
  | @cons p n ps ns hp hps =>
    have hdotless := dotless_of_spells (.cons hp hps)
    obtain ⟨c, r, rfl, hc⟩ := hp.exists_cons
    have hfirst : Text.isBlank c = false := Bool.eq_false_iff.2 fun hblank => by
      rw [not_isDigit_of_isBlank hblank] at hc
      cases hc
    have hcons : ∃ t, List.intercalate ['.'] ((c :: r) :: ps) = c :: t := by
      cases ps with
      | nil => exact ⟨r, List.intercalate_singleton⟩
      | cons q qs => exact ⟨_, List.intercalate_cons_cons⟩
    obtain ⟨t, ht⟩ := hcons
    have htrim : Text.trimStart s.toList = List.intercalate ['.'] ((c :: r) :: ps) ++ after := by
      rw [hs, ht, List.cons_append, trimStart_append hbefore hfirst]
    rw [ofString_eq_trimStart, htrim, leadingNumbers_append_blanks hafter,
      pieces_intercalate (List.cons_ne_nil _ _) hdotless,
      leadingNumbers_of_spells (.cons hp hps)]

/-- The parts that are written. -/
def written (v : Version) : List UInt32 :=
  v.major :: v.minor :: v.patch :: if v.build = 0 then [] else [v.build]

theorem written_ne_nil (v : Version) : v.written ≠ [] := List.cons_ne_nil _ _

/-- A zero build need not be written. -/
theorem ofParts_written (v : Version) : ofParts v.written = v := by
  obtain ⟨a, b, c, d⟩ := v
  by_cases hd : d = 0
  · subst hd
    rfl
  · rw [written, if_neg hd]
    rfl

/-- The text of a version is the numerals of the written parts with dots between them. -/
theorem chars_eq_intercalate (v : Version) :
    v.chars = List.intercalate ['.'] (v.written.map fun n => Text.digits n.toNat) := by
  by_cases hb : v.build = 0
  · simp [chars, written, hb]
  · simp [chars, written, hb]

theorem written_display (v : Version) : Written v.written v.display := by
  refine ⟨[], v.written.map fun n => Text.digits n.toNat, [], ?_, nofun, nofun, ?_⟩
  · rw [display, String.toList_ofList, chars_eq_intercalate, List.nil_append, List.append_nil]
  · refine List.forall₂_map_left_iff.2 (List.forall₂_same.2 fun n _ => ?_)
    exact ⟨[], isSuffix_nil, (List.append_nil _).symm⟩

/-! ## 4. Versions in texts and in checks -/

/-- **Versions are read back and compared as they are.** Every version is read back from its text,
    with blanks around it and with something after each numeral that does not go on with it; so no
    two versions have the same text. A check for a release is a comparison with its first version,
    in the lexicographic order of the parts: what passes it passes it in every later version, and
    for every earlier release. -/
theorem version_round_trip :
    (∀ v : Version, ofString v.display = v) ∧
    (∀ (v : Version) (s : String), Written v.written s → ofString s = v) ∧
    (∀ v w : Version, v.display = w.display ↔ v = w) ∧
    (∀ v w : Version, v ≤ w ↔ v.parts ≤ w.parts) ∧
    (∀ (v : Version) (a b : UInt32), v.isAtLeast a b = true ↔ release a b ≤ v) ∧
    (∀ (v w : Version) (a b : UInt32), v ≤ w → v.isAtLeast a b = true → w.isAtLeast a b = true) ∧
    (∀ (v : Version) (a b a' b' : UInt32), release a' b' ≤ release a b →
      v.isAtLeast a b = true → v.isAtLeast a' b' = true) ∧
    ∀ (v : Version) (a b a' b' : UInt32), a' ≤ a → b' ≤ b →
      v.isAtLeast a b = true → v.isAtLeast a' b' = true := by
  have hread : ∀ (v : Version) (s : String), Written v.written s → ofString s = v := fun v s h => by
    rw [ofString_of_written v.written_ne_nil h, ofParts_written]
  have hself : ∀ v : Version, ofString v.display = v := fun v => hread v _ v.written_display
  have hanti : ∀ (v : Version) (a b a' b' : UInt32), release a' b' ≤ release a b →
      v.isAtLeast a b = true → v.isAtLeast a' b' = true := fun v a b a' b' hle h =>
    isAtLeast_iff_release_le.2 (le_trans hle (isAtLeast_iff_release_le.1 h))
  refine ⟨hself, hread, fun v w => ⟨fun h => ?_, fun h => by rw [h]⟩, fun v w => le_iff_parts,
    fun v a b => isAtLeast_iff_release_le, fun v w a b hle h => ?_, hanti,
    fun v a b a' b' ha hb => hanti v a b a' b' ?_⟩
  · rw [← hself v, h, hself w]
  · exact isAtLeast_iff_release_le.2 (le_trans (isAtLeast_iff_release_le.1 h) hle)
  · rw [release_le_release_iff]
    rcases UInt32.lt_or_eq_of_le ha with hlt | heq
    · exact .inl hlt
    · exact .inr ⟨heq, hb⟩

/-- The greatest build number and something after every part. -/
theorem version_round_trip_suffixed :
    Written [24, 1, 2, 4294967295] "\n 24a.1 .2-testing.4294967295-lts\t" ∧
      ofString "\n 24a.1 .2-testing.4294967295-lts\t" = ⟨24, 1, 2, 4294967295⟩ ∧
      (⟨24, 1, 2, 4294967295⟩ : Version) ≤ ⟨25, 0, 0, 0⟩ ∧
      isAtLeast ⟨25, 0, 0, 0⟩ 24 1 = true ∧
      release 23 9 ≤ release 24 1 ∧ isAtLeast ⟨24, 1, 2, 4294967295⟩ 23 9 = true ∧
      isAtLeast ⟨24, 1, 2, 4294967295⟩ 24 0 = true := by
  obtain ⟨-, hread, -, -, -, hmono, hrelease, hanti⟩ := version_round_trip
  have hwritten : Written [24, 1, 2, 4294967295] "\n 24a.1 .2-testing.4294967295-lts\t" := by
    refine ⟨"\n ".toList, ["24a".toList, "1 ".toList, "2-testing".toList, "4294967295-lts".toList],
      "\t".toList, by decide +kernel, List.all_eq_true.1 (by decide +kernel),
      List.all_eq_true.1 (by decide +kernel), ?_⟩
    exact .cons ⟨['a'], isSuffix_cons rfl (by decide), by decide +kernel⟩
      (.cons ⟨[' '], isSuffix_cons rfl (by decide), by decide +kernel⟩
        (.cons ⟨'-' :: "testing".toList, isSuffix_cons rfl (by decide +kernel), by decide +kernel⟩
          (.cons ⟨'-' :: "lts".toList, isSuffix_cons rfl (by decide +kernel), by decide +kernel⟩
            .nil)))
  have hat : isAtLeast ⟨24, 1, 2, 4294967295⟩ 24 1 = true := by decide
  have hle : (⟨24, 1, 2, 4294967295⟩ : Version) ≤ ⟨25, 0, 0, 0⟩ := by decide
  have hrel : release 23 9 ≤ release 24 1 := by decide
  exact ⟨hwritten, hread ⟨24, 1, 2, 4294967295⟩ _ hwritten, hle, hmono _ _ _ _ hle hat, hrel,
    hrelease _ _ _ _ _ hrel hat, hanti _ _ _ _ _ (by decide) (by decide) hat⟩

end StatelessSession.Version
