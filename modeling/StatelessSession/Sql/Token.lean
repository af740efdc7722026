import StatelessSession.Sql.Lexeme

/-!
# Tokens of SQL

The tokens of a text are its lexemes without blanks and comments. Each keeps the byte at which it
starts and the blanks and comments before it, so the source of a run of tokens can be put together
again (`Token.span`).
-/

namespace StatelessSession.Sql

/-! ## 1. Tokens -/

/-- A lexeme that is part of the statement. -/
structure Token where
  kind : TokenKind
  text : List Char
  /-- The byte of the whole text at which the token starts. -/
  start : Nat
  /-- The blanks and comments between the token before and this one. -/
  gap : List Char
deriving DecidableEq, Repr

namespace Token

/-- The byte after the token. -/
def stop (t : Token) : Nat := t.start + byteSize t.text

/-- Whether the token is a given lower-case word, in any case of ASCII letters. -/
def isKeyword (t : Token) (keyword : String) : Bool :=
  t.kind == .word && t.text.map Char.toLower == keyword.toList

/-- Whether the token is a given symbol. -/
def isSymbol (t : Token) (c : Char) : Bool := t.kind == .symbol c

/-- The source from the first to the last of some tokens, with what stands between them. -/
def span : List Token → List Char
  | [] => []
  | t :: ts => t.text ++ ts.flatMap fun u => u.gap ++ u.text

end Token

/-! ## 2. From lexemes -/

/-- The tokens among lexemes that start at byte `start`, after the blanks and comments `gap`. -/
def tokensFrom (start : Nat) (gap : List Char) : List Lexeme → List Token
  | [] => []
  | ⟨.token kind, text⟩ :: ls =>
    ⟨kind, text, start, gap⟩ :: tokensFrom (start + byteSize text) [] ls
  | ⟨_, text⟩ :: ls => tokensFrom (start + byteSize text) (gap ++ text) ls

/-- The tokens among the lexemes of a text. -/
def tokens (ls : List Lexeme) : List Token := tokensFrom 0 [] ls

@[simp] theorem tokensFrom_nil (start : Nat) (gap : List Char) : tokensFrom start gap [] = [] := rfl

@[simp] theorem tokensFrom_token (start : Nat) (gap : List Char) (kind : TokenKind)
    (text : List Char) (ls : List Lexeme) :
    tokensFrom start gap (⟨.token kind, text⟩ :: ls) =
      ⟨kind, text, start, gap⟩ :: tokensFrom (start + byteSize text) [] ls := rfl

@[simp] theorem tokensFrom_blank (start : Nat) (gap text : List Char) (ls : List Lexeme) :
    tokensFrom start gap (⟨.blank, text⟩ :: ls) =
      tokensFrom (start + byteSize text) (gap ++ text) ls := rfl

@[simp] theorem tokensFrom_lineComment (start : Nat) (gap text : List Char) (ls : List Lexeme) :
    tokensFrom start gap (⟨.lineComment, text⟩ :: ls) =
      tokensFrom (start + byteSize text) (gap ++ text) ls := rfl

@[simp] theorem tokensFrom_blockComment (start : Nat) (gap text : List Char) (ls : List Lexeme) :
    tokensFrom start gap (⟨.blockComment, text⟩ :: ls) =
      tokensFrom (start + byteSize text) (gap ++ text) ls := rfl

end StatelessSession.Sql
