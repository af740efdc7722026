import StatelessSession.Sql.Call
import StatelessSession.Sql.Query
import StatelessSession.Sql.StringLiteral

/-!
# The shape of a statement

A statement is a streaming insert if it has no placeholder and reads, after `insert into`, from the
table `input` with a single string literal as its structure; otherwise it is a parameterized query.
`Shape.ofSql` decides. A query that reads from `input` in another way keeps a record of that
(`InputUse`), for the log.
-/

namespace StatelessSession.Sql

/-- How often a statement calls `input`, and with how many arguments in all. -/
structure InputUse where
  calls : Nat
  arguments : Nat
deriving DecidableEq, Repr

/-- How a statement is executed. -/
inductive Shape where
  /-- A query with its placeholders, and its use of `input` if that was no single structure. -/
  | parameterized (query : Query) (unfit : Option InputUse)
  /-- An insert that streams rows of these columns. -/
  | streaming (columns : List Column)
deriving DecidableEq, Repr

/-- The calls of `input` that decide the shape: those from the first `from input` on that comes
    after the first `insert into`. -/
def inputCalls? (ts : List Token) : Option (List (List Argument)) := do
  let afterInsert ← afterKeywords? ["insert", "into"] ts
  let atCall ← afterKeywords? ["from", "input"] afterInsert
  return callsFrom "input" atCall

/-- The shape of a query without placeholders. -/
def Shape.ofCalls (q : Query) : Option (List (List Argument)) → Except Fault Shape
  | none => .ok (.parameterized q none)
  | some [[.literal text]] =>
    match Column.ofStructure (StringLiteral.decode text) with
    | .error f => .error (.columns f)
    | .ok columns => .ok (.streaming columns)
  | some calls => .ok (.parameterized q (some ⟨calls.length, calls.flatten.length⟩))

/-- The shape of a statement. A placeholder decides it at once. -/
def Shape.ofSql (s : String) : Except Fault Shape :=
  match Query.parse s with
  | .error f => .error f
  | .ok q =>
    if q.hasParameter then .ok (.parameterized q none)
    else Shape.ofCalls q (inputCalls? q.tokens)

end StatelessSession.Sql
