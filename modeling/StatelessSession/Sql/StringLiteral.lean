/-!
# String literals of SQL

A string literal stands in single quotes. `quote` writes one, with a backslash before a backslash
or a quote; `decode` reads one, which may also have short escapes and doubled quotes.
`decode_quote` says that reading undoes writing.
-/

namespace StatelessSession.Sql.StringLiteral

/-! ## 1. Writing -/

/-- How one character is written between the quotes. -/
def escapeChar (c : Char) : List Char :=
  if c = '\\' then ['\\', '\\'] else if c = '\'' then ['\\', '\''] else [c]

/-- A text between quotes, without them. -/
def encode (s : List Char) : List Char := s.flatMap escapeChar

/-- A text as a string literal. -/
def quote (s : List Char) : List Char := '\'' :: encode s ++ ['\'']

@[simp] theorem encode_nil : encode [] = [] := rfl

@[simp] theorem encode_cons (c : Char) (s : List Char) :
    encode (c :: s) = escapeChar c ++ encode s := rfl

/-! ## 2. Reading -/

/-- The character that a backslash and `c` stand for. -/
def escaped : Char → Char
  | 'n' => '\n'
  | 't' => '\t'
  | 'r' => '\r'
  | '0' => '\x00'
  | 'b' => '\x08'
  | 'f' => '\x0c'
  | c => c

/-- The text that stands between the quotes of a literal. A backslash at the end stands for
    itself. -/
def decodeBody : List Char → List Char
  | [] => []
  | ['\\'] => ['\\']
  | '\\' :: c :: r => escaped c :: decodeBody r
  | '\'' :: '\'' :: r => '\'' :: decodeBody r
  | c :: r => c :: decodeBody r

/-- A literal without its quotes; a text without both is left as it is. -/
def body (literal : List Char) : List Char :=
  match literal with
  | '\'' :: r => if r.getLast? = some '\'' then r.dropLast else literal
  | _ => literal

/-- The text that a literal stands for. -/
def decode (literal : List Char) : List Char := decodeBody (body literal)

/-! ## 3. The round trip -/

theorem body_quote (s : List Char) : body (quote s) = encode s := by
  simp [body, quote]

/-- One written character reads as itself, whatever follows. -/
theorem decodeBody_escapeChar_append (c : Char) (s r : List Char) :
    decodeBody (escapeChar c ++ (encode s ++ r)) = c :: decodeBody (encode s ++ r) := by
  by_cases hb : c = '\\'
  · subst hb
    simp [escapeChar, decodeBody, escaped]
  · by_cases hq : c = '\''
    · subst hq
      simp [escapeChar, decodeBody, escaped]
    · simp only [escapeChar, hb, hq, if_false, List.singleton_append]
      rw [decodeBody.eq_def]
      split <;> simp_all

/-- **Reading a written literal gives the text back.** -/
theorem decode_quote (s : List Char) : decode (quote s) = s := by
  rw [decode, body_quote]
  induction s with
  | nil => rfl
  | cons c s ih =>
    have h := decodeBody_escapeChar_append c s []
    simp only [List.append_nil] at h
    rw [encode_cons, h, ih]

end StatelessSession.Sql.StringLiteral
