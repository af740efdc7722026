/-!
# Lexemes of SQL

`lexemes` cuts a text into blanks, comments and tokens without losing a character. A string literal
or a quoted name closes at the first quote that is neither escaped by a backslash nor doubled;
block comments nest; a word is as long as it can be; whatever is left is a symbol of its own.

* `joined_lexemes` -- the lexemes, joined, are the text;
* `text_ne_nil` -- none of them is empty.

Positions count UTF-8 bytes. NOT here: what the tokens mean (`Sql.Token`, `Sql.Query`).
-/

namespace StatelessSession.Sql

/-! ## 1. Characters -/

/-- The blanks of SQL: fewer than `Text.isBlank` has, and no vertical tab. -/
def isSqlBlank (c : Char) : Bool :=
  c = ' ' || c = '\t' || c = '\n' || c = '\x0c' || c = '\r'

/-- The characters of words: ASCII letters and digits, the underscore, and all beyond ASCII. -/
def isWordChar (c : Char) : Bool := c.isAlphanum || c = '_' || 0x80 ≤ c.toNat

/-- The number of bytes of a text in UTF-8. -/
def byteSize : List Char → Nat
  | [] => 0
  | c :: s => c.utf8Size + byteSize s

@[simp] theorem byteSize_nil : byteSize [] = 0 := rfl

@[simp] theorem byteSize_cons (c : Char) (s : List Char) :
    byteSize (c :: s) = c.utf8Size + byteSize s := rfl

@[simp] theorem byteSize_append (s t : List Char) :
    byteSize (s ++ t) = byteSize s + byteSize t := by
  induction s with
  | nil => simp
  | cons c s ih => rw [List.cons_append, byteSize_cons, byteSize_cons, ih, Nat.add_assoc]

/-! ## 2. Kinds -/

/-- The kinds of lexemes that are part of the statement. -/
inductive TokenKind where
  /-- A keyword, a name or a number. -/
  | word
  /-- Text in single quotes. -/
  | string
  /-- A name in double quotes or backquotes. -/
  | quotedName
  | placeholder
  | symbol (c : Char)
deriving DecidableEq, Repr

/-- The kinds of lexemes. -/
inductive LexemeKind where
  | blank
  | lineComment
  | blockComment
  | token (kind : TokenKind)
deriving DecidableEq, Repr

/-- A piece of text of one kind. -/
structure Lexeme where
  kind : LexemeKind
  text : List Char
deriving DecidableEq, Repr

/-- What a text can open and fail to close. -/
inductive Unclosed where
  | string
  | quotedName
  | blockComment
deriving DecidableEq, Repr

/-- The first lexeme of a text that is never closed, and the byte at which it starts. -/
structure LexFault where
  what : Unclosed
  start : Nat
deriving DecidableEq, Repr

/-- The fault in words. -/
def LexFault.message (f : LexFault) : String :=
  match f.what with
  | .string => "Unterminated string literal at position " ++ toString f.start
  | .quotedName => "Unterminated quoted identifier at position " ++ toString f.start
  | .blockComment => "Unterminated block comment"

/-! ## 3. Closing what is open -/

/-- Puts text before the first part of a split. -/
def prepend (s : List Char) (p : List Char × List Char) : List Char × List Char :=
  (s ++ p.1, p.2)

/-- Splits after the closing quote, of a text that follows an opening one. -/
def closeQuote (quote : Char) : List Char → Option (List Char × List Char)
  | [] => none
  | [c] => if c = quote then some ([c], []) else none
  | c :: d :: r =>
    if c = '\\' then (closeQuote quote r).map (prepend [c, d])
    else if c = quote then
      if d = quote then (closeQuote quote r).map (prepend [c, d]) else some ([c], d :: r)
    else (closeQuote quote (d :: r)).map (prepend [c])

/-- Splits after the end of the outermost block comment, of a text inside `depth` of them. They are
    counted in 32 bits, and after the last number comes zero. -/
def closeComment : UInt32 → List Char → Option (List Char × List Char)
  | _, [] => none
  | _, [_] => none
  | depth, c :: d :: r =>
    if c = '/' ∧ d = '*' then (closeComment (depth + 1) r).map (prepend [c, d])
    else if c = '*' ∧ d = '/' then
      if depth = 1 then some ([c, d], r)
      else (closeComment (depth - 1) r).map (prepend [c, d])
    else (closeComment depth (d :: r)).map (prepend [c])

/-- Splits after the first line feed, or at the end. -/
def closeLine : List Char → List Char × List Char
  | [] => ([], [])
  | c :: r => if c = '\n' then ([c], r) else prepend [c] (closeLine r)

/-- A split loses nothing. -/
theorem closeQuote_append {quote : Char} {s : List Char} {p : List Char × List Char}
    (h : closeQuote quote s = some p) : p.1 ++ p.2 = s := by
  fun_induction closeQuote quote s generalizing p with
  | case1 => simp at h
  | case2 => cases h; rfl
  | case3 => simp at h
  | case4 d r ih =>
    obtain ⟨q, hq, rfl⟩ := Option.map_eq_some_iff.1 h
    simp [prepend, ih hq]
  | case5 r hc ih =>
    obtain ⟨q, hq, rfl⟩ := Option.map_eq_some_iff.1 h
    simp [prepend, ih hq]
  | case6 d r hc hd => cases h; rfl
  | case7 c d r hc hq ih =>
    obtain ⟨q, hq, rfl⟩ := Option.map_eq_some_iff.1 h
    simp [prepend, ih hq]

theorem closeComment_append {depth : UInt32} {s : List Char} {p : List Char × List Char}
    (h : closeComment depth s = some p) : p.1 ++ p.2 = s := by
  fun_induction closeComment depth s generalizing p with
  | case1 => simp at h
  | case2 => simp at h
  | case3 depth c d r hc ih =>
    obtain ⟨q, hq, rfl⟩ := Option.map_eq_some_iff.1 h
    simp [prepend, ih hq]
  | case4 => cases h; rfl
  | case5 depth c d r hc he hd ih =>
    obtain ⟨q, hq, rfl⟩ := Option.map_eq_some_iff.1 h
    simp [prepend, ih hq]
  | case6 depth c d r hc he ih =>
    obtain ⟨q, hq, rfl⟩ := Option.map_eq_some_iff.1 h
    simp [prepend, ih hq]

theorem closeLine_append (s : List Char) : (closeLine s).1 ++ (closeLine s).2 = s := by
  fun_induction closeLine s <;> simp_all [prepend]

/-! ## 4. One lexeme -/

/-- A lexeme in quotes, from the text after the opening one. -/
def quotedLexeme (kind : TokenKind) (unclosed : Unclosed) (quote : Char) (r : List Char) :
    Except Unclosed (Lexeme × List Char) :=
  match closeQuote quote r with
  | none => .error unclosed
  | some p => .ok (⟨.token kind, quote :: p.1⟩, p.2)

/-- The first lexeme of the text `c :: r`, and the text after it. -/
def nextLexeme (c : Char) (r : List Char) : Except Unclosed (Lexeme × List Char) :=
  if isSqlBlank c then .ok (⟨.blank, [c]⟩, r)
  else if c = '-' ∧ r.head? = some '-' then
    .ok (⟨.lineComment, c :: (closeLine r).1⟩, (closeLine r).2)
  else if c = '/' ∧ r.head? = some '*' then
    match closeComment 1 r.tail with
    | none => .error .blockComment
    | some p => .ok (⟨.blockComment, '/' :: '*' :: p.1⟩, p.2)
  else if c = '\'' then quotedLexeme .string .string c r
  else if c = '"' ∨ c = '\x60' then quotedLexeme .quotedName .quotedName c r
  else if c = '?' then .ok (⟨.token .placeholder, [c]⟩, r)
  else if isWordChar c then
    .ok (⟨.token .word, c :: r.takeWhile isWordChar⟩, r.dropWhile isWordChar)
  else .ok (⟨.token (.symbol c), [c]⟩, r)

theorem quotedLexeme_append {kind : TokenKind} {unclosed : Unclosed} {quote : Char}
    {r rest : List Char} {l : Lexeme} (h : quotedLexeme kind unclosed quote r = .ok (l, rest)) :
    l.text ++ rest = quote :: r := by
  unfold quotedLexeme at h
  split at h
  · simp at h
  · rename_i p hp
    simp only [Except.ok.injEq, Prod.mk.injEq] at h
    obtain ⟨rfl, rfl⟩ := h
    simp [closeQuote_append hp]

theorem quotedLexeme_text_ne_nil {kind : TokenKind} {unclosed : Unclosed} {quote : Char}
    {r rest : List Char} {l : Lexeme} (h : quotedLexeme kind unclosed quote r = .ok (l, rest)) :
    l.text ≠ [] := by
  unfold quotedLexeme at h
  split at h
  · simp at h
  · simp only [Except.ok.injEq, Prod.mk.injEq] at h
    obtain ⟨rfl, rfl⟩ := h
    simp

/-- **One lexeme and the text after it are the whole text.** -/
theorem nextLexeme_append {c : Char} {r rest : List Char} {l : Lexeme}
    (h : nextLexeme c r = .ok (l, rest)) : l.text ++ rest = c :: r := by
  unfold nextLexeme at h
  split at h
  · simp only [Except.ok.injEq, Prod.mk.injEq] at h
    obtain ⟨rfl, rfl⟩ := h
    rfl
  split at h
  · simp only [Except.ok.injEq, Prod.mk.injEq] at h
    obtain ⟨rfl, rfl⟩ := h
    simp [closeLine_append]
  split at h
  · rename_i hc
    obtain ⟨rfl, hr⟩ := hc
    split at h
    · simp at h
    · rename_i p hp
      simp only [Except.ok.injEq, Prod.mk.injEq] at h
      obtain ⟨rfl, rfl⟩ := h
      cases r with
      | nil => simp at hr
      | cons d r =>
        simp only [List.head?_cons, Option.some.injEq] at hr
        subst hr
        simp [closeComment_append hp]
  split at h
  · exact quotedLexeme_append h
  split at h
  · exact quotedLexeme_append h
  split at h
  · simp only [Except.ok.injEq, Prod.mk.injEq] at h
    obtain ⟨rfl, rfl⟩ := h
    rfl
  split at h <;>
  · simp only [Except.ok.injEq, Prod.mk.injEq] at h
    obtain ⟨rfl, rfl⟩ := h
    simp

theorem nextLexeme_text_ne_nil {c : Char} {r rest : List Char} {l : Lexeme}
    (h : nextLexeme c r = .ok (l, rest)) : l.text ≠ [] := by
  unfold nextLexeme at h
  split at h
  · simp only [Except.ok.injEq, Prod.mk.injEq] at h
    obtain ⟨rfl, rfl⟩ := h
    simp
  split at h
  · simp only [Except.ok.injEq, Prod.mk.injEq] at h
    obtain ⟨rfl, rfl⟩ := h
    simp
  split at h
  · split at h
    · simp at h
    · simp only [Except.ok.injEq, Prod.mk.injEq] at h
      obtain ⟨rfl, rfl⟩ := h
      simp
  split at h
  · exact quotedLexeme_text_ne_nil h
  split at h
  · exact quotedLexeme_text_ne_nil h
  split at h
  · simp only [Except.ok.injEq, Prod.mk.injEq] at h
    obtain ⟨rfl, rfl⟩ := h
    simp
  split at h <;>
  · simp only [Except.ok.injEq, Prod.mk.injEq] at h
    obtain ⟨rfl, rfl⟩ := h
    simp

/-- The text after a lexeme is shorter than the text before it. -/
theorem nextLexeme_length_lt {c : Char} {r rest : List Char} {l : Lexeme}
    (h : nextLexeme c r = .ok (l, rest)) : rest.length < (c :: r).length := by
  have ha := nextLexeme_append h
  have hl := List.length_pos_iff.2 (nextLexeme_text_ne_nil h)
  rw [← ha, List.length_append]
  omega

/-! ## 5. All lexemes -/

/-- The lexemes of a text that starts at byte `start`. -/
def lexemesFrom (start : Nat) : List Char → Except LexFault (List Lexeme)
  | [] => .ok []
  | c :: r =>
    match _h : nextLexeme c r with
    | .error what => .error ⟨what, start⟩
    | .ok (l, rest) => (lexemesFrom (start + byteSize l.text) rest).map (l :: ·)
termination_by s => s.length
decreasing_by exact nextLexeme_length_lt _h

/-- The lexemes of a text, or the first that is never closed. -/
def lexemes (s : List Char) : Except LexFault (List Lexeme) := lexemesFrom 0 s

/-- The text that lexemes are cut from. -/
def joined (ls : List Lexeme) : List Char := ls.flatMap Lexeme.text

@[simp] theorem joined_nil : joined [] = [] := rfl

@[simp] theorem joined_cons (l : Lexeme) (ls : List Lexeme) :
    joined (l :: ls) = l.text ++ joined ls := rfl

theorem map_eq_ok_iff {ε α β : Type} {f : α → β} {x : Except ε α} {b : β} :
    x.map f = .ok b ↔ ∃ a, x = .ok a ∧ f a = b := by
  cases x <;> simp [Except.map]

theorem joined_lexemesFrom {start : Nat} {s : List Char} {ls : List Lexeme}
    (h : lexemesFrom start s = .ok ls) : joined ls = s := by
  fun_induction lexemesFrom start s generalizing ls with
  | case1 => cases h; rfl
  | case2 => simp at h
  | case3 start c r l rest hn ih =>
    obtain ⟨ms, hm, rfl⟩ := map_eq_ok_iff.1 h
    rw [joined_cons, ih hm, nextLexeme_append hn]

/-- **The lexemes of a text, joined, are the text.** -/
theorem joined_lexemes {s : List Char} {ls : List Lexeme} (h : lexemes s = .ok ls) :
    joined ls = s := joined_lexemesFrom h

/-- No lexeme is empty. -/
theorem text_ne_nil {start : Nat} {s : List Char} {ls : List Lexeme}
    (h : lexemesFrom start s = .ok ls) : ∀ l ∈ ls, l.text ≠ [] := by
  fun_induction lexemesFrom start s generalizing ls with
  | case1 => cases h; simp
  | case2 => simp at h
  | case3 start c r l rest hn ih =>
    obtain ⟨ms, hm, rfl⟩ := map_eq_ok_iff.1 h
    simpa using ⟨nextLexeme_text_ne_nil hn, ih hm⟩

end StatelessSession.Sql
