import StatelessSession.Request

/-!
# Transactions and savepoints

A transaction is the list of query ids issued since it began, its window, and the stack of
savepoints set in it. A savepoint records the length of the window at the time it was set. Nothing
here touches the server: every statement is committed as it runs.
-/

namespace StatelessSession

/-! ## 1. Savepoints -/

/-- A handle to a savepoint. -/
structure Savepoint where
  /-- The manager that set it. -/
  owner : Nat
  /-- Its number among the savepoints of that manager. -/
  id : Nat
  name : Option String
  /-- The length of the window when it was set. -/
  marker : Nat
deriving DecidableEq, Repr

/-- A savepoint in words. -/
def Savepoint.display (s : Savepoint) : String :=
  match s.name with
  | some name =>
    "savepoint " ++ Text.quoted name ++ " (#" ++ toString s.id ++ ", at " ++ toString s.marker ++
      ")"
  | none => "savepoint #" ++ toString s.id ++ " (at " ++ toString s.marker ++ ")"

/-! ## 2. Transactions -/

/-- What a transaction is known by: its place in the order in which transactions began. -/
structure TransactionId where
  number : Nat
deriving DecidableEq, Repr

/-- The text of a transaction id. -/
def TransactionId.display (t : TransactionId) : String := "t" ++ toString (t.number + 1)

/-- The window and the savepoints of a transaction, oldest first. -/
structure Transaction where
  queries : List QueryId
  savepoints : List Savepoint
deriving DecidableEq, Repr

namespace Transaction

/-- A transaction that has just begun. -/
def empty : Transaction := ⟨[], []⟩

/-- Adds a query id to the window. -/
def addQuery (t : Transaction) (q : QueryId) : Transaction := { t with queries := t.queries ++ [q] }

/-- The savepoint that would be set now. -/
def mark (t : Transaction) (owner id : Nat) (name : Option String) : Savepoint :=
  ⟨owner, id, name, t.queries.length⟩

/-- Adds a savepoint on top of the stack. -/
def addSavepoint (t : Transaction) (s : Savepoint) : Transaction :=
  { t with savepoints := t.savepoints ++ [s] }

/-- Whether a rollback keeps the savepoint it goes to, or a release drops it. -/
inductive Return where
  | rollback
  | release
deriving DecidableEq, Repr

/-- How much of the stack is left after going back to the savepoint at place `i`. -/
def Return.kept (how : Return) (i : Nat) : Nat :=
  match how with
  | .rollback => i + 1
  | .release => i

/-- Where the savepoint with a given number stands in the stack. -/
def position? (t : Transaction) (id : Nat) : Option Nat := t.savepoints.findIdx? (·.id == id)

/-- Cuts the window to the marker of `s` and the stack to the savepoint with the number of `s`,
    with or without it; `none` if there is no such savepoint in the stack. -/
def returnTo? (t : Transaction) (how : Return) (s : Savepoint) : Option Transaction :=
  (t.position? s.id).map fun i =>
    ⟨t.queries.take s.marker, t.savepoints.take (how.kept i)⟩

/-- The query ids after a savepoint. -/
def after (t : Transaction) (s : Savepoint) : List QueryId := t.queries.drop s.marker

end Transaction

end StatelessSession
