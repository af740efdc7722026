import StatelessSession.Proofs.Sql.Neighbours

/-!
# Texts joined by a line feed

No lexeme but a line comment goes on over the end of a text that was read to the end, and a line
feed ends that too. So a text that is read, a line feed and any other text are read one after the
other; what comes from the second stands further on by the bytes before it.

* `nextLexeme_eq_ok_iff` -- what the scanner finds is a lexeme of the grammar at the front.
* `nextLexeme_feed`, `nextLexeme_feed_open` -- a line feed after a text does not change what it
  begins with, unless that is a comment up to the end.
* `lexemesFrom_feed` -- so the first text is read as before.
* `lexemesFrom_shift`, `extents_shift` -- where a text starts only moves its tokens, or its fault.
* **`scan_feed`** -- the tokens of the whole, or the fault of the second.

NOT here: texts that are joined by anything else, as their last and first lexemes may be one.
-/

namespace StatelessSession.Sql

variable {c d : Char} {r rest s a b : List Char} {l : Lexeme} {la la' ls : List Lexeme}
  {start n : Nat}

/-! ## 1. A line feed after a lexeme -/

/-- **What the scanner finds** is the one lexeme that the text begins with. -/
theorem nextLexeme_eq_ok_iff :
    nextLexeme c r = .ok (l, rest) ↔
      IsLexeme Counted l.kind (utf8 l.text) (utf8 rest) ∧ c :: r = l.text ++ rest := by
  constructor
  · intro h
    obtain ⟨hl, -⟩ := (isLexeme_iff h).2 ⟨rfl, rfl⟩
    exact ⟨hl, (nextLexeme_append h).symm⟩
  · intro ⟨hl, e⟩
    have hbegins : Begins Counted l.kind (utf8 (c :: r)) (utf8 rest) :=
      ⟨_, hl, by rw [e, utf8_append]⟩
    obtain ⟨m, rest', hn, hk, hv⟩ := (begins_iff c r).1 hbegins
    have hrest : rest = rest' := utf8_injective hv
    subst hrest
    have htext : m.text = l.text :=
      List.append_cancel_right ((nextLexeme_append hn).trans e)
    obtain ⟨kind, text⟩ := l
    obtain ⟨kind', text'⟩ := m
    cases hk
    cases htext
    exact hn

/-- A character of ASCII is among the bytes of a text if it is one of its characters. -/
theorem mem_utf8 (hd : d.toNat < 0x80) : d.toUInt8 ∈ utf8 s ↔ d ∈ s := by
  induction s with
  | nil => simp
  | cons c s ih =>
    rw [utf8_cons, List.mem_append, ih, List.mem_cons]
    refine or_congr_left ?_
    rcases utf8_char c with ⟨hc, hu⟩ | ⟨hc, -, hu⟩
    · rw [hu, List.mem_singleton, toUInt8_inj hd hc]
    · refine iff_of_false (fun h => ne_toUInt8_of_high (hu _ h) hd rfl) fun h => ?_
      subst h
      exact Nat.not_le_of_lt hd hc

/-- A line comment that goes up to the end of the text. -/
def Lexeme.Open (l : Lexeme) : Prop := l.kind = .lineComment ∧ '\n' ∉ l.text

/-- Every lexeme but an open comment may stand before a line feed. -/
theorem admits_feed (hl : l.piece.Good) (ho : ¬ l.Open) (v : List UInt8) :
    Admits l.kind (utf8 l.text) ('\n'.toUInt8 :: v) := by
  cases hk : l.kind with
  | blank => trivial
  | blockComment => trivial
  | lineComment =>
    refine .inl ((mem_utf8 (by decide)).2 ?_)
    exact Classical.byContradiction fun hno => ho ⟨hk, hno⟩
  | token kind =>
    cases kind with
    | placeholder => trivial
    | string => exact fun h => absurd (Option.some.inj h) (by decide)
    | word =>
      intro x hx
      cases hx
      rfl
    | symbol d =>
      exact fun x _ => ⟨fun h => absurd (Option.some.inj h.2) (by decide),
        fun h => absurd (Option.some.inj h.2) (by decide)⟩
    | quotedName =>
      intro x hx h
      have hquote := hl.head_quotedName hk x hx
      cases Option.some.inj h
      cases hquote

/-- **A line feed and whatever follows** do not change what a text begins with. -/
theorem nextLexeme_feed (hn : nextLexeme c r = .ok (l, rest)) (ho : ¬ l.Open) (b : List Char) :
    nextLexeme c (r ++ '\n' :: b) = .ok (l, rest ++ '\n' :: b) := by
  obtain ⟨hl, e⟩ := nextLexeme_eq_ok_iff.1 hn
  refine nextLexeme_eq_ok_iff.2 ⟨hl.follow ?_, ?_⟩
  · cases rest with
    | nil =>
      rw [List.nil_append, utf8_ascii_cons (by decide)]
      exact admits_feed ⟨_, hl⟩ ho _
    | cons d rest =>
      rw [utf8_append, admits_append utf8_ne_nil]
      exact hl.admits
  · rw [← List.cons_append, e, List.append_assoc]

/-- An open comment ends in the line feed. -/
theorem nextLexeme_feed_open (hn : nextLexeme c r = .ok (l, rest)) (ho : l.Open)
    (b : List Char) :
    rest = [] ∧ nextLexeme c (r ++ '\n' :: b) = .ok (⟨.lineComment, l.text ++ ['\n']⟩, b) := by
  obtain ⟨hl, e⟩ := nextLexeme_eq_ok_iff.1 hn
  obtain ⟨hk, hno⟩ := ho
  rw [← mem_utf8 (by decide)] at hno
  have hcomment : utf8 rest = [] ∧
      IsLexeme Counted .lineComment (utf8 l.text ++ ['\n'.toUInt8]) (utf8 b) := by
    rw [hk] at hl
    generalize utf8 l.text = u at hl hno
    generalize utf8 rest = v at hl
    cases hl with
    | lineComment hu => exact absurd (by simp) hno
    | lastComment hu => exact ⟨rfl, .lineComment hu⟩
  have hrest : rest = [] := utf8_injective (t := []) hcomment.1
  subst hrest
  refine ⟨rfl, nextLexeme_eq_ok_iff.2 ⟨?_, ?_⟩⟩
  · rw [utf8_append]
    exact hcomment.2
  · rw [← List.cons_append, e, List.append_nil, List.append_assoc]
    rfl

/-! ## 2. A line feed after a text -/

/-- Lexemes with a line feed after them, be it a blank or the end of a comment: the tokens among
    them are the same. -/
structure Fed (la la' : List Lexeme) : Prop where
  text : joined la' = joined la ++ ['\n']
  tokens : ∀ start gap, tokensFrom start gap la' = tokensFrom start gap la

theorem fed_nil : Fed [] [⟨.blank, ['\n']⟩] := ⟨rfl, fun _ _ => rfl⟩

theorem fed_open (hk : l.kind = .lineComment) : Fed [l] [⟨.lineComment, l.text ++ ['\n']⟩] := by
  obtain ⟨kind, text⟩ := l
  cases hk
  refine ⟨?_, fun _ _ => rfl⟩
  simp [joined]

theorem Fed.cons (l : Lexeme) (h : Fed la la') : Fed (l :: la) (l :: la') where
  text := by rw [joined_cons, joined_cons, h.text, List.append_assoc]
  tokens start gap := by
    obtain ⟨kind, text⟩ := l
    cases kind with
    | token kind => rw [tokensFrom_token, tokensFrom_token, h.tokens]
    | blank => exact h.tokens _ _
    | lineComment => exact h.tokens _ _
    | blockComment => exact h.tokens _ _

/-- A text that begins with a lexeme is read from the end of that on. -/
theorem lexemesFrom_cons (hn : nextLexeme c r = .ok (l, rest)) :
    lexemesFrom start (c :: r) =
      (lexemesFrom (start + byteSize l.text) rest).map (l :: ·) := by
  rw [lexemesFrom]
  split
  · rename_i h
    rw [hn] at h
    cases h
  · rename_i h
    rw [hn] at h
    cases h
    rfl

/-- Reading on after two parts of a text is reading on after both. -/
theorem map_append_map (l : Lexeme) (ls : List Lexeme) (x : Except LexFault (List Lexeme)) :
    (x.map (ls ++ ·)).map (l :: ·) = x.map (l :: ls ++ ·) := by
  cases x <;> rfl

/-- **A text is read as before** if a line feed and another text follow, and then that one is
    read. -/
theorem lexemesFrom_feed (h : lexemesFrom start a = .ok la) (b : List Char) :
    ∃ la', Fed la la' ∧ lexemesFrom start (a ++ '\n' :: b) =
      (lexemesFrom (start + byteSize (joined la')) b).map (la' ++ ·) := by
  fun_induction lexemesFrom start a generalizing la with
  | case1 start =>
    cases h
    refine ⟨_, fed_nil, ?_⟩
    have hn : nextLexeme '\n' b = .ok (⟨.blank, ['\n']⟩, b) := rfl
    rw [List.nil_append, lexemesFrom_cons hn]
    rfl
  | case2 => cases h
  | case3 start c r l rest hn ih =>
    obtain ⟨ms, hms, rfl⟩ := map_eq_ok_iff.1 h
    by_cases ho : l.Open
    · obtain ⟨rfl, hn'⟩ := nextLexeme_feed_open hn ho b
      rw [lexemesFrom] at hms
      cases hms
      refine ⟨_, fed_open ho.1, ?_⟩
      rw [List.cons_append, lexemesFrom_cons hn', joined_cons, joined_nil, List.append_nil]
      rfl
    · obtain ⟨la', hfed, hla'⟩ := ih hms
      refine ⟨l :: la', hfed.cons l, ?_⟩
      rw [List.cons_append, lexemesFrom_cons (nextLexeme_feed hn ho b), hla', map_append_map,
        joined_cons, byteSize_append, Nat.add_assoc]

/-! ## 3. A text further on -/

/-- The extent `n` bytes further on. -/
def Extent.shift {κ : Type} (n : Nat) (x : Extent κ) : Extent κ :=
  ⟨x.kind, x.start + n, x.stop + n⟩

/-- The fault `n` bytes further on. -/
def LexFault.shift (n : Nat) (f : LexFault) : LexFault := ⟨f.what, f.start + n⟩

/-- Lexemes are the same wherever the text starts; a fault moves with it. -/
theorem lexemesFrom_shift (n start : Nat) (s : List Char) :
    lexemesFrom (start + n) s = (lexemesFrom start s).mapError (LexFault.shift n) := by
  fun_induction lexemesFrom start s with
  | case1 =>
    rw [lexemesFrom]
    rfl
  | case2 start c r what hn =>
    rw [lexemesFrom]
    split
    · rename_i h
      rw [hn] at h
      cases h
      rfl
    · rename_i h
      rw [hn] at h
      cases h
  | case3 start c r l rest hn ih =>
    rw [lexemesFrom_cons hn, Nat.add_right_comm, ih]
    cases lexemesFrom (start + byteSize l.text) rest <;> rfl

theorem extents_append (ps qs : List Piece) (start : Nat) :
    extents start (ps ++ qs) =
      extents start ps ++ extents (start + (ps.flatMap Piece.bytes).length) qs := by
  induction ps generalizing start with
  | nil => rfl
  | cons p ps ih =>
    rw [List.cons_append, extents, ih, extents, List.cons_append, List.flatMap_cons,
      List.length_append, Nat.add_assoc]

theorem extents_shift (n start : Nat) (ps : List Piece) :
    extents (start + n) ps = (extents start ps).map (Extent.shift n) := by
  induction ps generalizing start with
  | nil => rfl
  | cons p ps ih =>
    have hstart : start + n + p.bytes.length = start + p.bytes.length + n := by omega
    rw [extents, extents, hstart, ih]
    rfl

/-- Tokens move with the lexemes they are. -/
theorem filterMap_token?_shift (n : Nat) (xs : List (Extent LexemeKind)) :
    (xs.map (Extent.shift n)).filterMap Extent.token? =
      (xs.filterMap Extent.token?).map (Extent.shift n) := by
  rw [List.filterMap_map, List.map_filterMap]
  refine List.filterMap_congr fun x _ => ?_
  obtain ⟨kind, start, stop⟩ := x
  cases kind <;> rfl

/-- The lexemes of a text have as many bytes as it has characters to write. -/
theorem length_bytes (ls : List Lexeme) :
    ((ls.map Lexeme.piece).flatMap Piece.bytes).length = byteSize (joined ls) := by
  induction ls with
  | nil => rfl
  | cons l ls ih =>
    rw [List.map_cons, List.flatMap_cons, List.length_append, ih, joined_cons, byteSize_append]
    exact congrArg (· + _) (length_utf8 l.text)

/-- The tokens among some lexemes and then others are those among the ones and, further on, those
    among the others. -/
theorem extents_tokens_append (la lb : List Lexeme) :
    (tokens (la ++ lb)).map Token.extent =
      (tokens la).map Token.extent ++
        ((tokens lb).map Token.extent).map (Extent.shift (byteSize (joined la))) := by
  simp only [tokens, extent_tokensFrom]
  rw [List.map_append, extents_append, List.filterMap_append, extents_shift,
    filterMap_token?_shift, length_bytes]

/-! ## 4. Two texts -/

/-- The tokens of a text by where they stand, or its fault. -/
def scan (s : String) : Except LexFault (List (Extent TokenKind)) :=
  (lexemes s.toList).map fun ls => (tokens ls).map Token.extent

/-- The position that the words of a fault tell; those of a block comment tell none. -/
def LexFault.told? (f : LexFault) : Option Nat :=
  if f.what = .blockComment then none else some f.start

/-- What is wrong, in words. -/
def Unclosed.words : Unclosed → String
  | .string => "Unterminated string literal"
  | .quotedName => "Unterminated quoted identifier"
  | .blockComment => "Unterminated block comment"

/-- What is wrong, and where if that is told. -/
def Unclosed.wordsAt (what : Unclosed) (position : Option Nat) : String :=
  what.words ++ position.elim "" fun n => " at position " ++ toString n

theorem message_eq_wordsAt (f : LexFault) : f.message = f.what.wordsAt f.told? := by
  obtain ⟨what, start⟩ := f
  cases what <;>
    simp [LexFault.message, LexFault.told?, Unclosed.wordsAt, Unclosed.words, ← String.append_assoc]

theorem told?_shift (f : LexFault) (n : Nat) : (f.shift n).told? = f.told?.map (· + n) := by
  obtain ⟨what, start⟩ := f
  cases what <;> rfl

/-- **Scanning goes line by line.** After a text that is read, a line feed and any other text give
    the tokens of the one and then those of the other, which stand further on by the bytes before
    it; and if the other has a fault, the whole has it, further on in the same way, with the same
    words but for the position they tell. -/
theorem scan_feed {a : String} {xs : List (Extent TokenKind)} (h : scan a = .ok xs) (b : String) :
    (∀ ys, scan b = .ok ys →
      scan (a ++ "\n" ++ b) = .ok (xs ++ ys.map (Extent.shift (a.utf8ByteSize + 1)))) ∧
    ∀ f, scan b = .error f →
      scan (a ++ "\n" ++ b) = .error (f.shift (a.utf8ByteSize + 1)) ∧
      f.message = f.what.wordsAt f.told? ∧
      (f.shift (a.utf8ByteSize + 1)).message =
        f.what.wordsAt (f.told?.map (· + (a.utf8ByteSize + 1))) := by
  obtain ⟨la, hla, rfl⟩ := map_eq_ok_iff.1 h
  obtain ⟨la', hfed, hfeed⟩ := lexemesFrom_feed hla b.toList
  have hsize : byteSize (joined la') = a.utf8ByteSize + 1 := by
    rw [hfed.text, joined_lexemes hla, byteSize_append, byteSize_toList]
    rfl
  have hwhole : scan (a ++ "\n" ++ b) =
      ((lexemes b.toList).mapError (LexFault.shift (a.utf8ByteSize + 1))).map
        fun lb => (tokens (la' ++ lb)).map Token.extent := by
    have htext : (a ++ "\n" ++ b).toList = a.toList ++ '\n' :: b.toList := by simp
    rw [scan, htext, lexemes, hfeed, hsize, lexemesFrom_shift, lexemes]
    cases lexemesFrom 0 b.toList <;> rfl
  constructor
  · intro ys hb
    obtain ⟨lb, hlb, rfl⟩ := map_eq_ok_iff.1 hb
    rw [hwhole, hlb, ← hsize]
    show Except.ok ((tokens (la' ++ lb)).map Token.extent) = _
    rw [extents_tokens_append, tokens, tokens, hfed.tokens]
    rfl
  · intro f hb
    have hlb := map_eq_error_iff.1 hb
    refine ⟨?_, message_eq_wordsAt f, ?_⟩
    · rw [hwhole, hlb]
      rfl
    · rw [message_eq_wordsAt, told?_shift]
      rfl

/-- A line with a character of two bytes that ends in a comment, then a line with a literal, and one
    where that is never closed. -/
theorem scan_feed_comment :
    scan "select é -- it" = .ok [⟨.word, 0, 6⟩, ⟨.word, 7, 9⟩] ∧
      scan "select é -- it\n 's'" = .ok [⟨.word, 0, 6⟩, ⟨.word, 7, 9⟩, ⟨.string, 17, 20⟩] ∧
      scan "select é -- it\n 's" = .error ⟨.string, 17⟩ ∧
      LexFault.message ⟨.string, 17⟩ = "Unterminated string literal at position 17" := by
  have hread : scan "select é -- it" = .ok [⟨.word, 0, 6⟩, ⟨.word, 7, 9⟩] := by decide +kernel
  have hliteral := (scan_feed hread " 's'").1 [⟨.string, 1, 4⟩] (by decide +kernel)
  have hopen := (scan_feed hread " 's").2 ⟨.string, 1⟩ (by decide +kernel)
  exact ⟨hread, hliteral, hopen.1, hopen.2.2⟩

end StatelessSession.Sql
