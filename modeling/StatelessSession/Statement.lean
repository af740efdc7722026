import StatelessSession.Event
import StatelessSession.Transport

/-!
# Prepared statements

A statement keeps the request of its session as it was when the statement was prepared, and one id
for all its executions. A prepared query puts literals in the place of its placeholders; a prepared
insert collects rows and ships them in one write.
-/

namespace StatelessSession

/-- The text of a query with values in the place of its placeholders. -/
def Sql.Query.bind (q : Sql.Query) (params : List Value) : Except SessionError String :=
  match q.render? (params.map Value.literal) with
  | some sql => .ok sql
  | none => .error (.parameterCount q.parameterCount params.length)

/-! ## 1. Queries -/

/-- A query to be executed with parameters. -/
structure PreparedQuery where
  query : Sql.Query
  id : QueryId
  request : Request

namespace PreparedQuery

/-- Sends the query with parameters, unless the session is closed. -/
def execute (p : PreparedQuery) (closed : Bool) (t : Transport) (params : List Value) :
    Outcome Transport ResultSet :=
  if closed then ⟨.error .closed, t, []⟩
  else
    match p.query.bind params with
    | .error e => ⟨.error e, t, []⟩
    | .ok sql =>
      let (answer, t) := t.execute (p.request.withQuery sql (some p.id))
      ⟨answer.mapError (.queryFailed p.id), t, [.executing p.id]⟩

/-- A query in a message. -/
def shown (p : PreparedQuery) : String :=
  Text.openRecord "ParameterizedStatement"
    [("sql", Text.quoted p.query.sql), ("parameters", toString p.query.parameterCount),
      ("query_id", Text.quoted p.id.display)]

end PreparedQuery

/-! ## 2. Inserts -/

/-- An insert that streams rows. -/
structure PreparedInsert where
  sql : String
  id : QueryId
  columns : List Sql.Column
  request : Request
  /-- The rows to be shipped next. -/
  rows : List (List Value)

namespace PreparedInsert

/-- Adds a row, if it is as wide as the columns. -/
def addRow (p : PreparedInsert) (row : List Value) : Outcome PreparedInsert Unit :=
  if row.length = p.columns.length then ⟨.ok (), { p with rows := p.rows ++ [row] }, []⟩
  else ⟨.error (.rowWidth p.columns.length row.length), p, []⟩

/-- Drops the rows to be shipped. -/
def clearRows (p : PreparedInsert) : PreparedInsert := { p with rows := [] }

/-- The request that ships the rows. -/
def shipment (p : PreparedInsert) : Request :=
  (p.request.withQuery p.sql (some p.id)).withInput p.rows

/-- Ships the rows, unless the session is closed, and answers how many the server wrote. They are
    gone afterwards even if that fails. -/
def execute (p : PreparedInsert) (closed : Bool) (t : Transport) :
    Outcome (PreparedInsert × Transport) Nat :=
  if closed then ⟨.error .closed, (p, t), []⟩
  else
    let (answer, t) := t.execute p.shipment
    ⟨(answer.mapError (.insertFailed p.id)).map ResultSet.affected, (p.clearRows, t),
      [.streaming p.id p.rows.length]⟩

/-- An insert in a message. -/
def shown (p : PreparedInsert) : String :=
  Text.openRecord "StreamingInsertStatement"
    [("sql", Text.quoted p.sql), ("query_id", Text.quoted p.id.display),
      ("columns", Text.bracketed (p.columns.map Sql.Column.shown)),
      ("pending_rows", toString p.rows.length)]

end PreparedInsert

/-! ## 3. Either kind -/

/-- A prepared statement. -/
inductive Statement where
  | query (p : PreparedQuery)
  | insert (p : PreparedInsert)

namespace Statement

/-- The id of all executions. -/
def id : Statement → QueryId
  | .query p => p.id
  | .insert p => p.id

/-- The text as it was prepared. -/
def sql : Statement → String
  | .query p => p.query.sql
  | .insert p => p.sql

/-- The request that executions start from. -/
def request : Statement → Request
  | .query p => p.request
  | .insert p => p.request

/-- Whether the statement streams rows. -/
def isInsert : Statement → Bool
  | .query _ => false
  | .insert _ => true

/-- The number of rows to be shipped; only an insert has any. -/
def pending? : Statement → Option Nat
  | .query _ => none
  | .insert p => some p.rows.length

/-- A statement in a message. -/
def shown : Statement → String
  | .query p => "Parameterized(" ++ p.shown ++ ")"
  | .insert p => "StreamingInsert(" ++ p.shown ++ ")"

end Statement

end StatelessSession
