import StatelessSession.Sql.Column
import StatelessSession.Sql.Token

/-!
# Queries

A `Query` is an SQL text cut into lexemes, at least one of which is a token. Its placeholders are
the question marks among its tokens: those inside literals, quoted names and comments do not count.
`Query.render` puts a text in the place of each.

* `Query.sql_parse` -- a query's text is the text it was read from.
-/

namespace StatelessSession.Sql

/-- What can be wrong with an SQL text. -/
inductive Fault where
  | empty
  /-- There is nothing but comments. -/
  | noStatement
  | lexical (f : LexFault)
  | columns (f : ColumnFault)
deriving DecidableEq, Repr

/-- The fault in words. -/
def Fault.message : Fault → String
  | .empty => "SQL must not be empty"
  | .noStatement => "SQL contains no statement, only comments"
  | .lexical f => f.message
  | .columns f => f.message

/-- An SQL text by its lexemes. -/
structure Query where
  lexemes : List Lexeme
deriving DecidableEq, Repr

namespace Query

/-! ## 1. Reading -/

/-- The text of a query. -/
def sql (q : Query) : String := String.ofList (joined q.lexemes)

/-- The tokens of a query. -/
def tokens (q : Query) : List Token := Sql.tokens q.lexemes

/-- Reads a query. White space in the sense of Unicode is no text at all; a text without a token
    is no statement. -/
def parse (s : String) : Except Fault Query :=
  if Text.isBlankText s then .error .empty
  else
    match Sql.lexemes s.toList with
    | .error f => .error (.lexical f)
    | .ok ls => if (Sql.tokens ls).isEmpty then .error .noStatement else .ok ⟨ls⟩

/-- **A query's text is the text it was read from.** -/
theorem sql_parse {s : String} {q : Query} (h : parse s = .ok q) : q.sql = s := by
  unfold parse at h
  split at h
  · simp at h
  split at h
  · simp at h
  rename_i ls hl
  split at h
  · simp at h
  cases h
  simp [sql, joined_lexemes hl]

/-! ## 2. Placeholders -/

/-- The placeholders, by the bytes at which they stand. -/
def placeholders (q : Query) : List Nat :=
  (q.tokens.filter (·.kind == .placeholder)).map Token.start

/-- The number of placeholders. -/
def parameterCount (q : Query) : Nat := (q.tokens.filter (·.kind == .placeholder)).length

/-- Whether there is a placeholder. -/
def hasParameter (q : Query) : Bool := q.tokens.any (·.kind == .placeholder)

/-! ## 3. Rendering -/

/-- Lexemes with a text in the place of each placeholder, as long as there are texts. -/
def substitute : List Lexeme → List (List Char) → List Char
  | [], _ => []
  | ⟨.token .placeholder, _⟩ :: ls, t :: ts => t ++ substitute ls ts
  | l :: ls, ts => l.text ++ substitute ls ts

/-- The text of the query with one text for each placeholder; `none` if their numbers differ. -/
def render? (q : Query) (texts : List (List Char)) : Option String :=
  if texts.length = q.parameterCount then some (String.ofList (substitute q.lexemes texts))
  else none

end Query

end StatelessSession.Sql
