/-!
# Isolation and holdability

Two settings that a session records without any effect on the server. Each has the name under which
a descriptor writes it, and isolation levels also have the name of a command-line argument.
-/

namespace StatelessSession

/-! ## 1. Matching names -/

/-- Whether two texts agree up to the case of ASCII letters. -/
def sameIgnoringCase (s t : String) : Bool :=
  s.toList.map Char.toLower == t.toList.map Char.toLower

/-- The first of some items whose name is `text`, its case counting or not. -/
def findByName {α : Type} (name : α → String) (items : List α) (ignoreCase : Bool)
    (text : String) : Option α :=
  items.find? fun a => if ignoreCase then sameIgnoringCase (name a) text else name a == text

/-! ## 2. Isolation levels -/

/-- The isolation that a caller may ask for. -/
inductive IsolationLevel where
  /-- Reported by a session that is not compliant; it cannot be asked for. -/
  | none
  | readUncommitted
  | readCommitted
  | repeatableRead
  | serializable
deriving DecidableEq, Repr

namespace IsolationLevel

/-- All levels. -/
def all : List IsolationLevel :=
  [.none, .readUncommitted, .readCommitted, .repeatableRead, .serializable]

/-- The name in a descriptor. -/
def name : IsolationLevel → String
  | .none => "None"
  | .readUncommitted => "ReadUncommitted"
  | .readCommitted => "ReadCommitted"
  | .repeatableRead => "RepeatableRead"
  | .serializable => "Serializable"

/-- The name as a command-line argument. -/
def argument : IsolationLevel → String
  | .none => "none"
  | .readUncommitted => "read-uncommitted"
  | .readCommitted => "read-committed"
  | .repeatableRead => "repeatable-read"
  | .serializable => "serializable"

/-- The level with a name. -/
def ofName? (s : String) : Option IsolationLevel := findByName name all false s

/-- The level that a command-line argument names. -/
def ofArgument? (ignoreCase : Bool) (s : String) : Option IsolationLevel :=
  findByName argument all ignoreCase s

end IsolationLevel

/-! ## 3. Holdability -/

/-- What becomes of open cursors when a transaction commits. -/
inductive Holdability where
  | holdOverCommit
  | closeAtCommit
deriving DecidableEq, Repr

namespace Holdability

/-- What a session starts with. -/
def default : Holdability := .holdOverCommit

/-- The name in a descriptor. -/
def name : Holdability → String
  | .holdOverCommit => "HoldOverCommit"
  | .closeAtCommit => "CloseAtCommit"

/-- The holdability with a name. -/
def ofName? (s : String) : Option Holdability :=
  findByName name [.holdOverCommit, .closeAtCommit] false s

end Holdability

end StatelessSession
