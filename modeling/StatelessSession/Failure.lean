import StatelessSession.Event

/-!
# Failures of numbered commands

Commands of a bench or a workspace name managers, sessions, statements, savepoints and transactions
by number. A number may name nothing, which is a failure apart from what the operation itself can
fail with.
-/

namespace StatelessSession

/-- What a command names but does not exist. -/
inductive Missing where
  | manager
  | savepoint
  | heldTransaction
  | currentTransaction
  | connection
  | statement
  | streamingInsert
deriving DecidableEq, Repr

/-- The name of what is missing. -/
def Missing.name : Missing → String
  | .manager => "manager"
  | .savepoint => "sp"
  | .heldTransaction => "tx"
  | .currentTransaction => "current tx"
  | .connection => "connection"
  | .statement => "statement"
  | .streamingInsert => "streaming insert"

/-- Why a command fails. -/
inductive Failure where
  | missing (what : Missing)
  | session (e : SessionError)

/-- What a command answers, the state it leaves, and what was reported on the way. -/
structure Reaction (σ α : Type) where
  answer : Except Failure α
  state : σ
  events : List Event

/-- A command that names something that does not exist changes nothing. -/
def Reaction.missing {σ α : Type} (s : σ) (what : Missing) : Reaction σ α :=
  ⟨.error (.missing what), s, []⟩

end StatelessSession
