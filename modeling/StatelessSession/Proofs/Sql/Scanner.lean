import Mathlib.Control.Monad.Basic
import StatelessSession.Proofs.Sql.Comments
import StatelessSession.Sql.Token

/-!
# The scanner finds the lexemes of the grammar

`lexemes` works on characters and the grammar on bytes. As no byte beyond ASCII has a meaning of its
own to the grammar, a character beyond ASCII is as good as one plain byte.

* `closeQuote_iff`, `closeComment_iff`, `closeLine_iff`, `endsWord_iff` -- what the parts of the
  scanner leave of a text is what the grammar says, if it counts comments as the scanner does.
* `begins_iff` -- `nextLexeme` finds the one lexeme with which a text begins, if there is one.
* `lexed_iff_lexemesFrom`, `lexemesFrom_eq_error_iff` -- so `lexemesFrom` reads what the grammar
  reads, and faults the first lexeme that is never closed.
* `Extent`, `Apart` -- where tokens start and stop, and what is between them.
* `ScannedBy` -- how a text is scanned; **`lexemes_eq_grammar`** -- the scanner accepts the grammar
  and nothing else.

NOT here: texts put together from lexemes (`Neighbours`).
-/

namespace StatelessSession.Sql

/-! ## 1. Characters and bytes -/

variable {c d : Char} {b q : UInt8} {bs w v : List UInt8} {r s : List Char} {k : LexemeKind}

theorem toNat_toUInt8 (hc : c.toNat < 0x80) : c.toUInt8.toNat = c.toNat := by
  show c.val.toUInt8.toNat = c.val.toNat
  rw [UInt32.toNat_toUInt8]
  have h : c.val.toNat < 0x80 := hc
  omega

theorem utf8_ascii (hc : c.toNat < 0x80) : String.utf8EncodeChar c = [c.toUInt8] := by
  rcases utf8_char c with ⟨-, hu⟩ | ⟨hn, -⟩
  · exact hu
  · exact absurd hc (Nat.not_lt_of_le hn)

theorem utf8_ascii_cons (hc : c.toNat < 0x80) (s : List Char) :
    utf8 (c :: s) = c.toUInt8 :: utf8 s := by
  rw [utf8_cons, utf8_ascii hc, List.singleton_append]

/-- Characters of ASCII are told apart by their bytes. -/
theorem toUInt8_inj (hc : c.toNat < 0x80) (hd : d.toNat < 0x80) :
    c.toUInt8 = d.toUInt8 ↔ c = d := by
  constructor
  · intro e
    refine Char.ext (UInt32.toNat_inj.1 ?_)
    have hn := congrArg UInt8.toNat e
    rw [toNat_toUInt8 hc, toNat_toUInt8 hd] at hn
    exact hn
  · intro h
    subst h
    rfl

theorem toUInt8_ne (hc : c.toNat < 0x80) (hd : d.toNat < 0x80) (hne : c ≠ d) :
    c.toUInt8 ≠ d.toUInt8 := fun e => hne ((toUInt8_inj hc hd).1 e)

/-- A high byte is no character of ASCII. -/
theorem ne_toUInt8_of_high (hb : 0x80 ≤ b) (hd : d.toNat < 0x80) : b ≠ d.toUInt8 := by
  intro h
  subst h
  rw [UInt8.le_iff_toNat_le, toNat_toUInt8 hd] at hb
  exact Nat.not_le_of_lt hd hb

/-- The first byte of a text is a character of ASCII if the first character is. -/
theorem head?_utf8 (hd : d.toNat < 0x80) :
    (utf8 s).head? = some d.toUInt8 ↔ s.head? = some d := by
  cases s with
  | nil => simp
  | cons c s =>
    rw [utf8_cons, List.head?_cons, Option.some.injEq]
    rcases utf8_char c with ⟨hc, hu⟩ | ⟨hc, hne, hu⟩
    · rw [hu, List.singleton_append, List.head?_cons, Option.some.injEq, toUInt8_inj hc hd]
    · obtain ⟨b, bs, hbs⟩ := List.exists_cons_of_ne_nil hne
      rw [hbs] at hu
      rw [hbs, List.cons_append, List.head?_cons, Option.some.injEq]
      refine iff_of_false (ne_toUInt8_of_high (hu b List.mem_cons_self) hd) ?_
      intro h
      subst h
      exact Nat.not_le_of_lt hd hc

/-- So two characters at the start of a text are told apart by two bytes. -/
theorem mark_iff {e : Char} (hc : c.toNat < 0x80) (hd : d.toNat < 0x80) (he : e.toNat < 0x80) :
    c.toUInt8 = d.toUInt8 ∧ (utf8 s).head? = some e.toUInt8 ↔ c = d ∧ s.head? = some e :=
  and_congr (toUInt8_inj hc hd) (head?_utf8 he)

theorem isBlankByte_toUInt8 (hc : c.toNat < 0x80) : isBlankByte c.toUInt8 = isSqlBlank c := by
  simp only [isBlankByte, isSqlBlank, toUInt8_inj hc (show ' '.toNat < 0x80 by decide),
    toUInt8_inj hc (show '\t'.toNat < 0x80 by decide),
    toUInt8_inj hc (show '\n'.toNat < 0x80 by decide),
    toUInt8_inj hc (show '\x0c'.toNat < 0x80 by decide),
    toUInt8_inj hc (show '\r'.toNat < 0x80 by decide)]

theorem isWordByte_toUInt8 (hc : c.toNat < 0x80) : isWordByte c.toUInt8 = isWordChar c := by
  have hle : ∀ d : Char, d.toNat < 0x80 → (d.toUInt8 ≤ c.toUInt8 ↔ d.val ≤ c.val) := fun d hd => by
    rw [UInt8.le_iff_toNat_le, toNat_toUInt8 hc, toNat_toUInt8 hd, UInt32.le_iff_toNat_le]
    rfl
  have hge : ∀ d : Char, d.toNat < 0x80 → (c.toUInt8 ≤ d.toUInt8 ↔ c.val ≤ d.val) := fun d hd => by
    rw [UInt8.le_iff_toNat_le, toNat_toUInt8 hc, toNat_toUInt8 hd, UInt32.le_iff_toNat_le]
    rfl
  have hhigh : ¬ (0x80 : UInt8) ≤ c.toUInt8 := by
    rw [UInt8.le_iff_toNat_le, toNat_toUInt8 hc]
    exact Nat.not_le_of_lt hc
  have hhigh' : ¬ 0x80 ≤ c.toNat := Nat.not_le_of_lt hc
  have halnum : c.isAlphanum = ((decide ('A'.val ≤ c.val ∧ c.val ≤ 'Z'.val) ||
      ('a'.val ≤ c.val && c.val ≤ 'z'.val)) || ('0'.val ≤ c.val && c.val ≤ '9'.val)) := rfl
  rw [Bool.eq_iff_iff]
  simp only [isWordByte, isWordChar, halnum, Bool.or_eq_true, Bool.and_eq_true,
    decide_eq_true_eq, hhigh, hhigh', or_false]
  rw [hle 'A' (by decide), hge 'Z' (by decide), hle 'a' (by decide), hge 'z' (by decide),
    hle '0' (by decide), hge '9' (by decide), toUInt8_inj hc (by decide)]

theorem isWordByte_of_high (hb : 0x80 ≤ b) : isWordByte b = true := by
  simp [isWordByte, hb]

theorem isWordChar_of_high (hc : 0x80 ≤ c.toNat) : isWordChar c = true := by
  simp [isWordChar, hc]

/-- What no single high byte changes, no run of them changes. -/
theorem iff_of_high {P : List UInt8 → Prop} (hstep : ∀ b w, 0x80 ≤ b → (P (b :: w) ↔ P w))
    (hbs : ∀ b ∈ bs, 0x80 ≤ b) : P (bs ++ w) ↔ P w := by
  induction bs with
  | nil => rfl
  | cons b bs ih =>
    have htail : ∀ x ∈ bs, 0x80 ≤ x := fun x hx => hbs x (List.mem_cons_of_mem _ hx)
    exact (hstep b (bs ++ w) (hbs b List.mem_cons_self)).trans (ih htail)

/-! ## 2. Quotes -/

theorem closesQuote_high (hbs : ∀ b ∈ bs, 0x80 ≤ b) (hd : d.toNat < 0x80) :
    ClosesQuote d.toUInt8 (bs ++ w) v ↔ ClosesQuote d.toUInt8 w v := by
  refine iff_of_high (P := fun w => ClosesQuote d.toUInt8 w v) (fun b w hb => ?_) hbs
  exact closesQuote_plain (ne_toUInt8_of_high hb hd) (ne_toUInt8_of_high hb (by decide))

/-- A character that is neither the quote nor a backslash closes nothing. -/
theorem closesQuote_char (hd : d.toNat < 0x80) (hq : c ≠ d) (hb : c ≠ '\\') :
    ClosesQuote d.toUInt8 (utf8 (c :: s)) v ↔ ClosesQuote d.toUInt8 (utf8 s) v := by
  rw [utf8_cons]
  rcases utf8_char c with ⟨hc, hu⟩ | ⟨-, -, hu⟩
  · rw [hu]
    exact closesQuote_plain (toUInt8_ne hc hd hq) (toUInt8_ne hc (by decide) hb)
  · exact closesQuote_high hu hd

/-- Nor does one that a backslash stands before, whatever it is. -/
theorem closesQuote_escapedChar (hd : d.toNat < 0x80) (hq : d.toUInt8 ≠ '\\'.toUInt8) :
    ClosesQuote d.toUInt8 ('\\'.toUInt8 :: utf8 (c :: s)) v ↔ ClosesQuote d.toUInt8 (utf8 s) v := by
  obtain ⟨b, bs, hbs⟩ := List.exists_cons_of_ne_nil (String.utf8EncodeChar_ne_nil (c := c))
  rw [utf8_cons, hbs, List.cons_append, closesQuote_escaped hq]
  rcases utf8_char c with ⟨-, hu⟩ | ⟨-, -, hu⟩
  · rw [hbs] at hu
    rw [(List.cons.inj hu).2, List.nil_append]
  · rw [hbs] at hu
    exact closesQuote_high (fun x hx => hu x (List.mem_cons_of_mem _ hx)) hd

/-- What the scanner leaves after a part of the text is what it leaves after the whole. -/
theorem exists_map_prepend {x : Option (List Char × List Char)} {t : List Char} :
    (∃ p, x.map (prepend t) = some p ∧ v = utf8 p.2) ↔ ∃ p, x = some p ∧ v = utf8 p.2 := by
  cases x with
  | none => simp
  | some p => simp [prepend]

/-- **`closeQuote` leaves what the grammar leaves.** -/
theorem closeQuote_iff {quote : Char} (hd : quote.toNat < 0x80) (hq : quote ≠ '\\')
    (s : List Char) :
    ClosesQuote quote.toUInt8 (utf8 s) v ↔ ∃ p, closeQuote quote s = some p ∧ v = utf8 p.2 := by
  have hb : quote.toUInt8 ≠ '\\'.toUInt8 := toUInt8_ne hd (by decide) hq
  have hnil : (utf8 []).head? ≠ some quote.toUInt8 := nofun
  fun_induction closeQuote quote s with
  | case1 => simp [not_closesQuote_nil]
  | case2 =>
    rw [utf8_ascii_cons hd, closesQuote_quote hb hnil]
    simp
  | case3 c hc =>
    refine iff_of_false (fun h => ?_) (by simp)
    by_cases hs : c = '\\'
    · subst hs
      exact not_closesQuote_backslash hb h
    · exact not_closesQuote_nil ((closesQuote_char hd hc hs).1 h)
  | case4 d r ih =>
    rw [utf8_ascii_cons (by decide), closesQuote_escapedChar hd hb]
    exact ih.trans exists_map_prepend.symm
  | case5 r hc ih =>
    rw [utf8_ascii_cons hd, utf8_ascii_cons hd, closesQuote_doubled hb]
    exact ih.trans exists_map_prepend.symm
  | case6 d r hne hc =>
    have hh : (utf8 (d :: r)).head? ≠ some quote.toUInt8 := fun h =>
      hne (Option.some.inj ((head?_utf8 hd).1 h))
    rw [utf8_ascii_cons hd, closesQuote_quote hb hh]
    simp
  | case7 c d r hc hne ih =>
    rw [closesQuote_char hd hne hc]
    exact ih.trans exists_map_prepend.symm

/-! ## 3. Block comments -/

theorem closesCounted_high {depth : UInt32} (hbs : ∀ b ∈ bs, 0x80 ≤ b) :
    Closes (CountedBody depth) (bs ++ w) v ↔ Closes (CountedBody depth) w v := by
  refine iff_of_high (P := fun w => Closes (CountedBody depth) w v) (fun b w hb => ?_) hbs
  have hslash : b ≠ '/'.toUInt8 := ne_toUInt8_of_high hb (by decide)
  have hstar : b ≠ '*'.toUInt8 := ne_toUInt8_of_high hb (by decide)
  exact closesCounted_plain (fun h => hslash h.1) fun h => hstar h.1

/-- A character that neither opens nor closes a comment. -/
theorem closesCounted_char {depth : UInt32} (ho : ¬ (c = '/' ∧ s.head? = some '*'))
    (hc : ¬ (c = '*' ∧ s.head? = some '/')) :
    Closes (CountedBody depth) (utf8 (c :: s)) v ↔ Closes (CountedBody depth) (utf8 s) v := by
  rw [utf8_cons]
  rcases utf8_char c with ⟨hn, hu⟩ | ⟨-, -, hu⟩
  · rw [hu]
    refine closesCounted_plain (fun h => ho ?_) (fun h => hc ?_)
    · exact (mark_iff hn (by decide) (by decide)).1 h
    · exact (mark_iff hn (by decide) (by decide)).1 h
  · exact closesCounted_high hu

/-- **`closeComment` leaves what the reader that counts leaves.** -/
theorem closeComment_iff (depth : UInt32) (s : List Char) :
    Closes (CountedBody depth) (utf8 s) v ↔ ∃ p, closeComment depth s = some p ∧ v = utf8 p.2 := by
  fun_induction closeComment depth s with
  | case1 depth => exact iff_of_false (not_closesCounted_short (by simp)) (by simp)
  | case2 depth c =>
    rw [closesCounted_char (by simp) (by simp)]
    exact iff_of_false (not_closesCounted_short (by simp)) (by simp)
  | case3 depth c d r h ih =>
    obtain ⟨rfl, rfl⟩ := h
    rw [utf8_ascii_cons (by decide), utf8_ascii_cons (by decide), closesCounted_opened, ih,
      exists_map_prepend]
  | case4 c d r ho h =>
    obtain ⟨rfl, rfl⟩ := h
    rw [utf8_ascii_cons (by decide), utf8_ascii_cons (by decide), closesCounted_last]
    simp
  | case5 depth c d r ho h hd ih =>
    obtain ⟨rfl, rfl⟩ := h
    rw [utf8_ascii_cons (by decide), utf8_ascii_cons (by decide), closesCounted_closed hd, ih,
      exists_map_prepend]
  | case6 depth c d r ho hc ih =>
    rw [closesCounted_char (by simpa using ho) (by simpa using hc), ih, exists_map_prepend]

/-! ## 4. Line comments and words -/

theorem endsLine_nil : EndsLine [] v ↔ v = [] := by
  constructor
  · intro h
    rcases h with ⟨u, -, e | ⟨-, rfl⟩⟩
    · simp at e
    · rfl
  · intro h
    subst h
    exact ⟨[], List.not_mem_nil, .inr ⟨rfl, rfl⟩⟩

theorem endsLine_feed : EndsLine ('\n'.toUInt8 :: w) v ↔ v = w := by
  constructor
  · intro h
    rcases h with ⟨u, hu, e | ⟨rfl, -⟩⟩
    · cases u with
      | nil => exact (List.cons.inj e).2.symm
      | cons b u =>
        rw [List.cons_append, List.cons.injEq] at e
        exact absurd (e.1 ▸ List.mem_cons_self) hu
    · exact absurd List.mem_cons_self hu
  · intro h
    subst h
    exact ⟨[], List.not_mem_nil, .inl rfl⟩

theorem endsLine_plain (hb : b ≠ '\n'.toUInt8) : EndsLine (b :: w) v ↔ EndsLine w v := by
  constructor
  · intro h
    rcases h with ⟨u, hu, e | ⟨rfl, rfl⟩⟩
    · cases u with
      | nil => exact absurd (List.cons.inj e).1 hb
      | cons b' u =>
        rw [List.cons_append, List.cons.injEq] at e
        exact ⟨u, fun h => hu (List.mem_cons_of_mem _ h), .inl e.2⟩
    · exact ⟨w, fun h => hu (List.mem_cons_of_mem _ h), .inr ⟨rfl, rfl⟩⟩
  · have hcons : ∀ {u}, '\n'.toUInt8 ∉ u → '\n'.toUInt8 ∉ b :: u := fun hu h =>
      (List.mem_cons.1 h).elim (fun e => hb e.symm) hu
    intro h
    rcases h with ⟨u, hu, rfl | ⟨rfl, rfl⟩⟩
    · exact ⟨b :: u, hcons hu, .inl rfl⟩
    · exact ⟨b :: w, hcons hu, .inr ⟨rfl, rfl⟩⟩

theorem endsLine_high (hbs : ∀ b ∈ bs, 0x80 ≤ b) : EndsLine (bs ++ w) v ↔ EndsLine w v := by
  refine iff_of_high (P := fun w => EndsLine w v) (fun b w hb => ?_) hbs
  exact endsLine_plain (ne_toUInt8_of_high hb (by decide))

/-- **`closeLine` leaves what the grammar leaves.** -/
theorem closeLine_iff (s : List Char) : EndsLine (utf8 s) v ↔ v = utf8 (closeLine s).2 := by
  fun_induction closeLine s with
  | case1 => exact endsLine_nil
  | case2 r =>
    rw [utf8_ascii_cons (by decide)]
    exact endsLine_feed
  | case3 c r hc ih =>
    refine Iff.trans ?_ ih
    rw [utf8_cons]
    rcases utf8_char c with ⟨hn, hu⟩ | ⟨-, -, hu⟩
    · rw [hu]
      exact endsLine_plain (toUInt8_ne hn (by decide) hc)
    · exact endsLine_high hu

theorem endsWord_nil : EndsWord [] v ↔ v = [] := by
  constructor
  · intro ⟨u, _, _, e⟩
    exact (List.append_eq_nil_iff.1 e.symm).2
  · intro h
    subst h
    exact ⟨[], nofun, nofun, rfl⟩

theorem endsWord_stop (hb : isWordByte b = false) : EndsWord (b :: w) v ↔ v = b :: w := by
  constructor
  · intro ⟨u, hu, _, e⟩
    cases u with
    | nil => exact e.symm
    | cons b' u =>
      rw [List.cons_append, List.cons.injEq] at e
      have hb' := hu b' List.mem_cons_self
      rw [← e.1, hb] at hb'
      cases hb'
  · intro h
    subst h
    refine ⟨[], nofun, fun x hx => ?_, rfl⟩
    cases hx
    exact hb

theorem endsWord_word (hb : isWordByte b = true) : EndsWord (b :: w) v ↔ EndsWord w v := by
  constructor
  · intro ⟨u, hu, hv, e⟩
    cases u with
    | nil =>
      rw [List.nil_append] at e
      rw [← e] at hv
      have hb' : isWordByte b = false := hv b rfl
      rw [hb] at hb'
      cases hb'
    | cons b' u =>
      rw [List.cons_append, List.cons.injEq] at e
      exact ⟨u, fun x hx => hu x (List.mem_cons_of_mem _ hx), hv, e.2⟩
  · intro h
    obtain ⟨u, hu, hv, rfl⟩ := h
    refine ⟨b :: u, fun x hx => ?_, hv, rfl⟩
    rcases List.mem_cons.1 hx with rfl | hx
    · exact hb
    · exact hu x hx

theorem endsWord_high (hbs : ∀ b ∈ bs, 0x80 ≤ b) : EndsWord (bs ++ w) v ↔ EndsWord w v := by
  refine iff_of_high (P := fun w => EndsWord w v) (fun b w hb => ?_) hbs
  exact endsWord_word (isWordByte_of_high hb)

/-- **A run of word characters leaves what the grammar leaves.** -/
theorem endsWord_iff (s : List Char) :
    EndsWord (utf8 s) v ↔ v = utf8 (s.dropWhile isWordChar) := by
  induction s with
  | nil => exact endsWord_nil
  | cons c s ih =>
    rw [utf8_cons, List.dropWhile_cons]
    rcases utf8_char c with ⟨hn, hu⟩ | ⟨hn, -, hu⟩
    · rw [hu, List.singleton_append, ← isWordByte_toUInt8 hn]
      cases hw : isWordByte c.toUInt8 with
      | true =>
        rw [endsWord_word hw, if_pos rfl]
        exact ih
      | false =>
        rw [endsWord_stop hw, if_neg Bool.false_ne_true, utf8_cons, hu]
        rfl
    · rw [isWordChar_of_high hn, if_pos rfl, endsWord_high hu]
      exact ih

/-! ## 5. One lexeme -/

/-- A result of the scanner says what a text begins with. -/
def Found (k : LexemeKind) (v : List UInt8) (x : Except Unclosed (Lexeme × List Char)) : Prop :=
  ∃ l rest, x = .ok (l, rest) ∧ k = l.kind ∧ v = utf8 rest

theorem found_ok {l : Lexeme} {rest : List Char} :
    Found k v (.ok (l, rest)) ↔ k = l.kind ∧ v = utf8 rest := by
  constructor
  · intro ⟨l, rest, e, hk, hv⟩
    cases e
    exact ⟨hk, hv⟩
  · intro ⟨hk, hv⟩
    exact ⟨l, rest, rfl, hk, hv⟩

theorem not_found_error {what : Unclosed} : ¬ Found k v (.error what) := by
  intro ⟨l, rest, e, _⟩
  cases e

theorem found_quotedLexeme {kind : TokenKind} {unclosed : Unclosed} {quote : Char}
    (hd : quote.toNat < 0x80) (hq : quote ≠ '\\') (r : List Char) :
    k = .token kind ∧ ClosesQuote quote.toUInt8 (utf8 r) v ↔
      Found k v (quotedLexeme kind unclosed quote r) := by
  rw [closeQuote_iff hd hq]
  unfold quotedLexeme
  cases closeQuote quote r with
  | none => exact iff_of_false (by simp) not_found_error
  | some p => simp [found_ok]

/-- The scanner at a character of ASCII. -/
theorem begins_ascii (hn : c.toNat < 0x80) (r : List Char) :
    Begins Counted k (c.toUInt8 :: utf8 r) v ↔ Found k v (nextLexeme c r) := by
  unfold nextLexeme
  split
  · rename_i hb
    rw [begins_blank ((isBlankByte_toUInt8 hn).trans hb), found_ok]
  rename_i hblank
  split
  · rename_i h
    obtain ⟨rfl, hr⟩ := h
    cases r with
    | nil => cases hr
    | cons d r =>
      cases hr
      have hl := closeLine_iff (v := v) ('-' :: r)
      rw [utf8_ascii_cons (by decide), endsLine_plain (by decide)] at hl
      rw [utf8_ascii_cons (by decide), begins_lineComment, hl, found_ok]
  rename_i hline
  split
  · rename_i h
    obtain ⟨rfl, hr⟩ := h
    cases r with
    | nil => cases hr
    | cons d r =>
      cases hr
      rw [utf8_ascii_cons (by decide), begins_blockComment, closeComment_iff, List.tail_cons]
      cases closeComment 1 r with
      | none => exact iff_of_false (by simp) not_found_error
      | some p => simp [found_ok]
  rename_i hblock
  split
  · rename_i h
    subst h
    rw [begins_string]
    exact found_quotedLexeme hn (by decide) r
  rename_i hstring
  split
  · rename_i h
    have hq : isNameQuote c.toUInt8 = true := by
      rcases h with rfl | rfl
      · rfl
      · rfl
    have hb : c ≠ '\\' := by
      rcases h with rfl | rfl
      · decide
      · decide
    rw [begins_quotedName hq]
    exact found_quotedLexeme hn hb r
  rename_i hname
  split
  · rename_i h
    subst h
    rw [begins_placeholder, found_ok]
  rename_i hmark
  split
  · rename_i h
    rw [begins_word ((isWordByte_toUInt8 hn).trans h), endsWord_iff, found_ok]
  · rename_i hword
    rw [found_ok]
    refine begins_symbol ?_
    have hq : ¬ isNameQuote c.toUInt8 = true := fun h => hname <| by
      rcases isNameQuote_iff.1 h with h | h
      · exact .inl ((toUInt8_inj hn (by decide)).1 h)
      · exact .inr ((toUInt8_inj hn (by decide)).1 h)
    unfold kindAt
    rw [if_neg, if_neg, if_neg, if_neg, if_neg hq, if_neg, if_neg, toNat_toUInt8 hn,
      Char.ofNat_toNat]
    · rwa [isWordByte_toUInt8 hn]
    · exact toUInt8_ne hn (by decide) hmark
    · exact toUInt8_ne hn (by decide) hstring
    · exact fun h => hblock ((mark_iff hn (by decide) (by decide)).1 h)
    · exact fun h => hline ((mark_iff hn (by decide) (by decide)).1 h)
    · rwa [isBlankByte_toUInt8 hn]

/-- A character beyond ASCII is the first of a word. -/
theorem nextLexeme_of_high (hn : 0x80 ≤ c.toNat) (r : List Char) :
    nextLexeme c r =
      .ok (⟨.token .word, c :: r.takeWhile isWordChar⟩, r.dropWhile isWordChar) := by
  have hne : ∀ d : Char, d.toNat < 0x80 → c ≠ d := fun d hd e =>
    Nat.not_lt_of_le hn (e ▸ hd)
  unfold nextLexeme
  rw [if_neg, if_neg, if_neg, if_neg, if_neg, if_neg, if_pos (isWordChar_of_high hn)]
  · exact hne '?' (by decide)
  · exact fun h => h.elim (hne '"' (by decide)) (hne '\x60' (by decide))
  · exact hne '\'' (by decide)
  · exact fun h => hne '/' (by decide) h.1
  · exact fun h => hne '-' (by decide) h.1
  · simp only [isSqlBlank, hne ' ' (by decide), hne '\t' (by decide), hne '\n' (by decide),
      hne '\x0c' (by decide), hne '\r' (by decide)]
    decide

/-- The scanner at a character beyond ASCII, which is part of a word. -/
theorem begins_high (hn : 0x80 ≤ c.toNat) (hu : ∀ b ∈ String.utf8EncodeChar c, 0x80 ≤ b)
    (r : List Char) :
    Begins Counted k (String.utf8EncodeChar c ++ utf8 r) v ↔ Found k v (nextLexeme c r) := by
  obtain ⟨b, bs, hbs⟩ := List.exists_cons_of_ne_nil (String.utf8EncodeChar_ne_nil (c := c))
  rw [hbs] at hu
  rw [nextLexeme_of_high hn, found_ok, hbs, List.cons_append,
    begins_word (isWordByte_of_high (hu b List.mem_cons_self)),
    endsWord_high fun x hx => hu x (List.mem_cons_of_mem _ hx), endsWord_iff]

/-- **`nextLexeme` finds what the text begins with**, or nothing if it begins with no lexeme. -/
theorem begins_iff (c : Char) (r : List Char) :
    Begins Counted k (utf8 (c :: r)) v ↔ Found k v (nextLexeme c r) := by
  rw [utf8_cons]
  rcases utf8_char c with ⟨hn, hu⟩ | ⟨hn, -, hu⟩
  · rw [hu]
    exact begins_ascii hn r
  · exact begins_high hn hu r

/-- A lexeme that is never closed is opened. -/
theorem opens_of_error {what : Unclosed} (h : nextLexeme c r = .error what) :
    Opens what (utf8 (c :: r)) := by
  have hquoted : ∀ {kind unclosed quote}, quotedLexeme kind unclosed quote r = .error what →
      what = unclosed := fun {kind unclosed quote} hq => by
    unfold quotedLexeme at hq
    split at hq
    · exact (Except.error.inj hq).symm
    · cases hq
  unfold nextLexeme at h
  split at h
  · cases h
  split at h
  · cases h
  split at h
  · rename_i hc
    obtain ⟨rfl, hr⟩ := hc
    split at h
    · cases h
      cases r with
      | nil => cases hr
      | cons d r =>
        cases hr
        rw [utf8_ascii_cons (by decide), utf8_ascii_cons (by decide)]
        exact .blockComment _
    · cases h
  split at h
  · rename_i hc
    subst hc
    rw [hquoted h, utf8_ascii_cons (by decide)]
    exact .string _
  split at h
  · rename_i hc
    rw [hquoted h]
    rcases hc with rfl | rfl
    · rw [utf8_ascii_cons (by decide)]
      exact .quotedName rfl _
    · rw [utf8_ascii_cons (by decide)]
      exact .quotedName rfl _
  split at h
  · cases h
  split at h
  · cases h
  · cases h

theorem not_opens_nil {what : Unclosed} : ¬ Opens what [] := nofun

/-- What is opened shows in the first byte. -/
theorem Opens.unique {what what' : Unclosed} (h : Opens what w) (h' : Opens what' w) :
    what = what' := by
  cases h with
  | string w =>
    cases h' with
    | string => rfl
    | quotedName hq => cases hq
  | quotedName hq w =>
    cases h' with
    | string => cases hq
    | quotedName => rfl
    | blockComment => cases hq
  | blockComment w =>
    cases h' with
    | quotedName hq => cases hq
    | blockComment => rfl

/-! ## 6. All lexemes -/

/-- A lexeme by its bytes. -/
def Lexeme.piece (l : Lexeme) : Piece := ⟨l.kind, utf8 l.text⟩

/-- If the scanner finds a lexeme, the text begins with this one and no other. -/
theorem isLexeme_iff {l : Lexeme} {rest : List Char} {u : List UInt8}
    (hn : nextLexeme c r = .ok (l, rest)) :
    IsLexeme Counted k u v ∧ utf8 (c :: r) = u ++ v ↔
      (⟨k, u⟩ : Piece) = l.piece ∧ v = utf8 rest := by
  have htext : utf8 (c :: r) = utf8 l.text ++ utf8 rest := by
    rw [← nextLexeme_append hn, utf8_append]
  constructor
  · intro ⟨hl, e⟩
    have hb : Begins Counted k (utf8 (c :: r)) v := ⟨u, hl, e⟩
    rw [begins_iff, hn, found_ok] at hb
    obtain ⟨rfl, rfl⟩ := hb
    have hu : u = utf8 l.text := List.append_cancel_right (e.symm.trans htext)
    rw [Lexeme.piece, hu]
    exact ⟨rfl, rfl⟩
  · intro h
    obtain ⟨e, rfl⟩ := h
    obtain ⟨rfl, rfl⟩ := Piece.mk.inj e
    have hb : Begins Counted l.kind (utf8 (c :: r)) (utf8 rest) := by
      rw [begins_iff, hn, found_ok]
      exact ⟨rfl, rfl⟩
    obtain ⟨u, hl, e'⟩ := hb
    have hu : u = utf8 l.text := List.append_cancel_right (e'.symm.trans htext)
    rw [hu] at hl
    exact ⟨hl, htext⟩

theorem lexed_iff {t : List UInt8} {ps : List Piece} :
    Lexed Counted t ps w ↔ ps = [] ∧ w = t ∨
      ∃ k u v qs, ps = ⟨k, u⟩ :: qs ∧ (IsLexeme Counted k u v ∧ t = u ++ v) ∧
        Lexed Counted v qs w := by
  constructor
  · intro h
    rcases h with _ | ⟨h, hs⟩
    · exact .inl ⟨rfl, rfl⟩
    · exact .inr ⟨_, _, _, _, rfl, ⟨h, rfl⟩, hs⟩
  · intro h
    rcases h with ⟨rfl, rfl⟩ | ⟨k, u, v, qs, rfl, ⟨h, rfl⟩, hs⟩
    · exact .done _
    · exact .next h hs

theorem utf8_ne_nil : utf8 (c :: r) ≠ [] := fun h =>
  String.utf8EncodeChar_ne_nil (List.append_eq_nil_iff.1 h).1

theorem map_eq_error_iff {ε α β : Type} {f : α → β} {x : Except ε α} {e : ε} :
    x.map f = .error e ↔ x = .error e := by
  cases x <;> simp [Except.map]

/-- Nothing is read from no text. -/
theorem lexed_nil {ps : List Piece} : Lexed Counted [] ps w ↔ ps = [] ∧ w = [] := by
  rw [lexed_iff]
  constructor
  · intro h
    rcases h with h | ⟨k, u, v, qs, -, ⟨h, e⟩, -⟩
    · exact h
    · exact absurd ⟨u, h, e⟩ not_begins_nil
  · exact .inl

/-- What is read if the scanner finds a lexeme. -/
theorem lexed_of_ok {l : Lexeme} {rest : List Char} {ps : List Piece}
    (hn : nextLexeme c r = .ok (l, rest)) :
    Lexed Counted (utf8 (c :: r)) ps w ↔ ps = [] ∧ w = utf8 (c :: r) ∨
      ∃ qs, ps = l.piece :: qs ∧ Lexed Counted (utf8 rest) qs w := by
  rw [lexed_iff]
  refine or_congr_right ?_
  constructor
  · intro h
    obtain ⟨k, u, v, qs, rfl, hl, hs⟩ := h
    obtain ⟨e, rfl⟩ := (isLexeme_iff hn).1 hl
    rw [e]
    exact ⟨qs, rfl, hs⟩
  · intro h
    obtain ⟨qs, rfl, hs⟩ := h
    have hl := (isLexeme_iff (k := l.kind) (u := utf8 l.text) hn).2 ⟨rfl, rfl⟩
    exact ⟨_, _, _, qs, rfl, hl, hs⟩

/-- What is read if the scanner finds none. -/
theorem lexed_of_error {what : Unclosed} {ps : List Piece} (hn : nextLexeme c r = .error what) :
    Lexed Counted (utf8 (c :: r)) ps w ↔ ps = [] ∧ w = utf8 (c :: r) := by
  rw [lexed_iff]
  constructor
  · intro h
    rcases h with hs | ⟨k, u, v, qs, -, ⟨hl, e⟩, -⟩
    · exact hs
    · have hb : Begins Counted k (utf8 (c :: r)) v := ⟨u, hl, e⟩
      rw [begins_iff, hn] at hb
      exact absurd hb not_found_error
  · exact .inl

/-- **The scanner accepts what the grammar reads to the end**, lexeme by lexeme. -/
theorem lexed_iff_lexemesFrom (start : Nat) (s : List Char) (ps : List Piece) :
    Lexed Counted (utf8 s) ps [] ↔
      ∃ ls, lexemesFrom start s = .ok ls ∧ ps = ls.map Lexeme.piece := by
  fun_induction lexemesFrom start s generalizing ps with
  | case1 => simp [lexed_nil]
  | case2 start c r what hn =>
    rw [lexed_of_error hn]
    exact iff_of_false (fun h => utf8_ne_nil h.2.symm) (by simp)
  | case3 start c r l rest hn ih =>
    rw [lexed_of_ok hn]
    constructor
    · intro h
      rcases h with ⟨-, e⟩ | ⟨qs, rfl, hs⟩
      · exact absurd e.symm utf8_ne_nil
      · obtain ⟨ls, hls, rfl⟩ := (ih qs).1 hs
        rw [hls]
        exact ⟨l :: ls, rfl, rfl⟩
    · intro h
      obtain ⟨ls, hls, rfl⟩ := h
      obtain ⟨ms, hms, rfl⟩ := map_eq_ok_iff.1 hls
      exact .inr ⟨_, rfl, (ih _).2 ⟨ms, hms, rfl⟩⟩

/-- **The scanner faults the first lexeme that is never closed.** -/
theorem lexemesFrom_eq_error_iff (start : Nat) (s : List Char) (f : LexFault) :
    lexemesFrom start s = .error f ↔
      ∃ ps w, Lexed Counted (utf8 s) ps w ∧ Unterminated Counted f.what w ∧
        f.start = start + (ps.flatMap Piece.bytes).length := by
  fun_induction lexemesFrom start s with
  | case1 =>
    refine iff_of_false (fun e => by cases e) ?_
    rintro ⟨ps, w, hs, hu, -⟩
    obtain ⟨-, rfl⟩ := lexed_nil.1 hs
    exact not_opens_nil hu.opens
  | case2 start c r what hn =>
    constructor
    · intro e
      cases e
      refine ⟨[], _, .done _, ⟨opens_of_error hn, fun k v hb => ?_⟩, rfl⟩
      rw [begins_iff, hn] at hb
      exact not_found_error hb
    · rintro ⟨ps, w, hs, hu, hstart⟩
      obtain ⟨rfl, rfl⟩ := (lexed_of_error hn).1 hs
      have hw := hu.opens.unique (opens_of_error hn)
      cases f
      cases hw
      cases hstart
      rfl
  | case3 start c r l rest hn ih =>
    have hsize : ∀ qs : List Piece, start + ((l.piece :: qs).flatMap Piece.bytes).length =
        start + byteSize l.text + (qs.flatMap Piece.bytes).length := fun qs => by
      rw [List.flatMap_cons, List.length_append, Lexeme.piece, length_utf8, Nat.add_assoc]
    rw [map_eq_error_iff, ih]
    constructor
    · rintro ⟨qs, w, hs, hu, hstart⟩
      refine ⟨l.piece :: qs, w, (lexed_of_ok hn).2 (.inr ⟨qs, rfl, hs⟩), hu, ?_⟩
      rw [hsize, hstart]
    · rintro ⟨ps, w, hs, hu, hstart⟩
      rcases (lexed_of_ok hn).1 hs with ⟨-, rfl⟩ | ⟨qs, rfl, hs'⟩
      · refine absurd ?_ (hu.none l.kind (utf8 rest))
        rw [begins_iff, hn, found_ok]
        exact ⟨rfl, rfl⟩
      · exact ⟨qs, w, hs', hu, hstart.trans (hsize qs)⟩

/-! ## 7. Byte ranges -/

/-- Where something of a kind starts and stops. -/
structure Extent (κ : Type) where
  kind : κ
  start : Nat
  stop : Nat
deriving DecidableEq, Repr

/-- Where lexemes start and stop, the first of them at `start`. -/
def extents (start : Nat) : List Piece → List (Extent LexemeKind)
  | [] => []
  | p :: ps => ⟨p.kind, start, start + p.bytes.length⟩ :: extents (start + p.bytes.length) ps

/-- The lexeme as a token, if it is neither a blank nor a comment. -/
def Extent.token? (x : Extent LexemeKind) : Option (Extent TokenKind) :=
  match x.kind with
  | .token kind => some ⟨kind, x.start, x.stop⟩
  | _ => none

/-- Where a token starts and stops. -/
def Token.extent (t : Token) : Extent TokenKind := ⟨t.kind, t.start, t.stop⟩

/-- The tokens among lexemes stand where the lexemes do. -/
theorem extent_tokensFrom (ls : List Lexeme) (start : Nat) (gap : List Char) :
    (tokensFrom start gap ls).map Token.extent =
      (extents start (ls.map Lexeme.piece)).filterMap Extent.token? := by
  induction ls generalizing start gap with
  | nil => rfl
  | cons l ls ih =>
    obtain ⟨kind, text⟩ := l
    have hl := length_utf8 text
    cases kind with
    | token kind =>
      rw [tokensFrom_token, List.map_cons, ih, ← hl]
      simp only [Token.extent, Token.stop, ← hl]
      rfl
    | blank =>
      rw [tokensFrom_blank, ih, ← hl]
      rfl
    | lineComment =>
      rw [tokensFrom_lineComment, ih, ← hl]
      rfl
    | blockComment =>
      rw [tokensFrom_blockComment, ih, ← hl]
      rfl

/-- What is read from left to right is the text. -/
theorem Lexed.bytes_eq {t : List UInt8} {ps : List Piece} (h : Lexed Counted t ps w) :
    t = ps.flatMap Piece.bytes ++ w := by
  induction h with
  | done w => rfl
  | next h hs ih => rw [List.flatMap_cons, List.append_assoc, ← ih]

/-- **Extents fill the text one after the other.** -/
structure Filled (start stop : Nat) (xs : List (Extent LexemeKind)) : Prop where
  nonempty : ∀ x ∈ xs, x.start < x.stop
  within : ∀ x ∈ xs, start ≤ x.start ∧ x.stop ≤ stop
  apart : xs.Pairwise fun x y => x.stop ≤ y.start
  /-- Every byte is in one of them. -/
  covered : ∀ n, start ≤ n → n < stop → ∃ x ∈ xs, x.start ≤ n ∧ n < x.stop

theorem filled_extents {t : List UInt8} {ps : List Piece} (h : Lexed Counted t ps w) (start : Nat) :
    Filled start (start + (ps.flatMap Piece.bytes).length) (extents start ps) := by
  induction h generalizing start with
  | done w =>
    refine ⟨nofun, nofun, .nil, fun n hn hs => ?_⟩
    simp at hs
    omega
  | @next k u v w ps h hs ih =>
    have hpos := List.length_pos_iff.2 h.ne_nil
    obtain ⟨hne, hwithin, hapart, hcov⟩ := ih (start + u.length)
    rw [List.flatMap_cons, List.length_append, ← Nat.add_assoc]
    refine ⟨fun x hx => ?_, fun x hx => ?_, ?_, fun n hn hs => ?_⟩
    · rcases List.mem_cons.1 hx with rfl | hx
      · show start < start + u.length
        omega
      · exact hne x hx
    · rcases List.mem_cons.1 hx with rfl | hx
      · exact ⟨Nat.le_refl _, Nat.le_add_right _ _⟩
      · obtain ⟨h1, h2⟩ := hwithin x hx
        exact ⟨by omega, h2⟩
    · exact .cons (fun x hx => (hwithin x hx).1) hapart
    · by_cases hlt : n < start + u.length
      · exact ⟨_, List.mem_cons_self, hn, hlt⟩
      · obtain ⟨x, hx, hxn⟩ := hcov n (Nat.le_of_not_lt hlt) hs
        exact ⟨x, List.mem_cons_of_mem _ hx, hxn⟩

theorem mem_filterMap_token? {x : Extent TokenKind} {xs : List (Extent LexemeKind)}
    (hx : x ∈ xs.filterMap Extent.token?) : ⟨.token x.kind, x.start, x.stop⟩ ∈ xs := by
  obtain ⟨y, hy, hxy⟩ := List.mem_filterMap.1 hx
  obtain ⟨kind, start, stop⟩ := y
  cases kind with
  | token kind =>
    cases hxy
    exact hy
  | _ => cases hxy

/-- **Tokens stand apart**: none is empty, each stops before the next starts, and every byte outside
    them is in a blank or in a comment. -/
structure Apart (size : Nat) (all : List (Extent LexemeKind)) (xs : List (Extent TokenKind)) :
    Prop where
  nonempty : ∀ x ∈ xs, x.start < x.stop
  within : ∀ x ∈ xs, x.stop ≤ size
  increasing : xs.Pairwise fun x y => x.stop ≤ y.start
  gaps : ∀ n < size, (∃ x ∈ xs, x.start ≤ n ∧ n < x.stop) ∨
    ∃ x ∈ all, (x.kind = .blank ∨ x.kind = .lineComment ∨ x.kind = .blockComment) ∧
      x.start ≤ n ∧ n < x.stop

theorem Filled.apart_tokens {size : Nat} {all : List (Extent LexemeKind)} (h : Filled 0 size all) :
    Apart size all (all.filterMap Extent.token?) where
  nonempty x hx := h.nonempty _ (mem_filterMap_token? hx)
  within x hx := (h.within _ (mem_filterMap_token? hx)).2
  increasing := by
    refine List.Pairwise.filterMap Extent.token? (fun x y hxy a ha b hb => ?_) h.apart
    obtain ⟨kx, sx, tx⟩ := x
    obtain ⟨ky, sy, ty⟩ := y
    cases kx <;> cases ha
    cases ky <;> cases hb
    exact hxy
  gaps n hn := by
    obtain ⟨x, hx, h1, h2⟩ := h.covered n (Nat.zero_le n) hn
    obtain ⟨kind, start, stop⟩ := x
    cases kind with
    | token kind => exact .inl ⟨⟨kind, start, stop⟩, List.mem_filterMap.2 ⟨_, hx, rfl⟩, h1, h2⟩
    | blank => exact .inr ⟨_, hx, .inl rfl, h1, h2⟩
    | lineComment => exact .inr ⟨_, hx, .inr (.inl rfl), h1, h2⟩
    | blockComment => exact .inr ⟨_, hx, .inr (.inr rfl), h1, h2⟩

/-! ## 8. The scanner as a whole -/

/-- **How a text is scanned**, if `Body` is what follows the mark that opens a block comment. -/
structure ScannedBy (Body : List UInt8 → Prop) (s : String) : Prop where
  /-- It is accepted if and only if it is a sequence of lexemes, and its tokens are those that are
      neither blanks nor comments, where they stand. -/
  accepted : ∀ xs, (lexemes s.toList).map (fun ls => (tokens ls).map Token.extent) = .ok xs ↔
    ∃ ps, Lexed Body s.toByteArray.data.toList ps [] ∧ xs = (extents 0 ps).filterMap Extent.token?
  apart : ∀ ps, Lexed Body s.toByteArray.data.toList ps [] →
    Apart s.toByteArray.data.toList.length (extents 0 ps)
      ((extents 0 ps).filterMap Extent.token?)
  /-- The fault names the first lexeme that is never closed and where it starts. -/
  faulted : ∀ f, lexemes s.toList = .error f ↔
    ∃ ps w, Lexed Body s.toByteArray.data.toList ps w ∧ Unterminated Body f.what w ∧
      s.toByteArray.data.toList.length = f.start + w.length

theorem scannedBy_counted (s : String) : ScannedBy Counted s := by
  constructor
  all_goals rw [← utf8_toList]
  case accepted =>
    intro xs
    rw [map_eq_ok_iff]
    constructor
    · intro h
      obtain ⟨ls, hls, rfl⟩ := h
      exact ⟨_, (lexed_iff_lexemesFrom 0 _ _).2 ⟨ls, hls, rfl⟩, extent_tokensFrom ls 0 []⟩
    · intro h
      obtain ⟨ps, hs, rfl⟩ := h
      obtain ⟨ls, hls, rfl⟩ := (lexed_iff_lexemesFrom 0 _ _).1 hs
      exact ⟨ls, hls, extent_tokensFrom ls 0 []⟩
  case apart =>
    intro ps hs
    have hf := filled_extents hs 0
    rw [Nat.zero_add] at hf
    rw [hs.bytes_eq, List.append_nil]
    exact hf.apart_tokens
  case faulted =>
    intro f
    rw [lexemes, lexemesFrom_eq_error_iff]
    refine exists_congr fun ps => exists_congr fun w => and_congr_right fun hs =>
      and_congr_right fun _ => ?_
    rw [hs.bytes_eq, List.length_append, Nat.zero_add]
    omega

/-- For a text of less than 8 GiB it makes no difference that comments are counted. -/
theorem ScannedBy.ofCounted {s : String} (h : ScannedBy Counted s)
    (hsize : s.utf8ByteSize < 2 ^ 33) : ScannedBy CommentBody s := by
  have hlen : s.toByteArray.data.toList.length < 2 ^ 33 := hsize
  constructor
  case accepted => simpa only [lexed_counted_iff hlen] using h.accepted
  case apart => simpa only [lexed_counted_iff hlen] using h.apart
  case faulted =>
    intro f
    rw [h.faulted]
    refine exists_congr fun ps => exists_congr fun w => ?_
    rw [lexed_counted_iff hlen]
    refine and_congr_right fun _ => and_congr_left fun hw => ?_
    exact (unterminated_counted_iff (by omega)).symm

/-- **The scanner accepts the grammar and nothing else**: for every text, if comments are counted in
    32 bits, and for every text of less than 8 GiB, if they nest to any depth. Its tokens are the
    lexemes that are neither blanks nor comments, where they stand; and if the text is no sequence
    of lexemes, the fault names the first that is never closed and where it starts. -/
theorem lexemes_eq_grammar (s : String) :
    ScannedBy Counted s ∧ (s.utf8ByteSize < 2 ^ 33 → ScannedBy CommentBody s) ∧
    ∀ n, LexFault.message ⟨.string, n⟩ = "Unterminated string literal at position " ++ toString n ∧
      LexFault.message ⟨.quotedName, n⟩ =
        "Unterminated quoted identifier at position " ++ toString n ∧
      LexFault.message ⟨.blockComment, n⟩ = "Unterminated block comment" :=
  ⟨scannedBy_counted s, (scannedBy_counted s).ofCounted, fun _ => ⟨rfl, rfl, rfl⟩⟩

/-- A comment in a comment, of which one is never closed: the fault names the outer one. -/
theorem lexemes_eq_grammar_nested :
    "a /* b /* c */".utf8ByteSize < 2 ^ 33 ∧
      lexemes "a /* b /* c */".toList = .error ⟨.blockComment, 2⟩ ∧
      ∃ ps w, Lexed CommentBody "a /* b /* c */".toByteArray.data.toList ps w ∧
        Unterminated CommentBody .blockComment w ∧ w.length = 12 := by
  have hsize : "a /* b /* c */".utf8ByteSize < 2 ^ 33 := by decide
  have hfault : lexemes "a /* b /* c */".toList = .error ⟨.blockComment, 2⟩ := by decide +kernel
  obtain ⟨-, hscanned, -⟩ := lexemes_eq_grammar "a /* b /* c */"
  obtain ⟨ps, w, hps, hw, hlen⟩ := ((hscanned hsize).faulted _).1 hfault
  refine ⟨hsize, hfault, ps, w, hps, hw, ?_⟩
  have hbytes : "a /* b /* c */".toByteArray.data.toList.length = 14 := by decide +kernel
  have hsum : 14 = 2 + w.length := hbytes.symm.trans hlen
  omega

end StatelessSession.Sql
