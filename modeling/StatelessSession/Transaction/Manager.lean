import StatelessSession.Event
import StatelessSession.Transaction.Ledger

/-!
# Transaction managers

A `Manager` pretends that a server which commits every statement has transactions. It has a flag for
autocommit and a slot for the current transaction; the transactions themselves are in the ledger.
Out of compliance it refuses what the server cannot do; in compliance it goes along and logs the
gap. Every operation takes the ledger and the manager and answers with an `Outcome`.
-/

namespace StatelessSession

/-- The state of a manager. -/
structure Manager where
  /-- Its number among all managers; its savepoints carry it. -/
  owner : Nat
  compliant : Bool
  autocommit : Bool
  nextSavepoint : Nat
  /-- The current transaction. -/
  slot : Option TransactionId
deriving DecidableEq, Repr

/-- A manager with the ledger that it works on. -/
structure Books where
  ledger : Ledger
  manager : Manager
deriving DecidableEq, Repr

namespace Books

/-! ## 1. Beginning and ending transactions -/

/-- A new manager, in autocommit and without a transaction. -/
def opened (l : Ledger) (compliant : Bool) : Books :=
  let (owner, l) := l.takeOwner
  ⟨l, ⟨owner, compliant, true, 1, none⟩⟩

/-- An answer without any effect. -/
def unchanged {α : Type} (b : Books) (answer : Except SessionError α) : Outcome Books α :=
  ⟨answer, b, []⟩

/-- Puts a new transaction into the slot, whatever is there. -/
def install (b : Books) : Books :=
  let (id, l) := b.ledger.beginTransaction
  ⟨l, { b.manager with slot := some id }⟩

/-- Takes the transaction out of the slot. -/
def vacate (b : Books) : Books := { b with manager := { b.manager with slot := none } }

/-- What is reported of a transaction that ends now. -/
def ended (b : Books) (ending : Ending) (id : TransactionId) : Event :=
  .transactionEnded ending id (b.ledger.transaction id).queries

/-- Empties a transaction. -/
def clear (b : Books) (id : TransactionId) : Books := { b with ledger := b.ledger.clear id }

/-- The transaction in the slot, put there if there is none. -/
def current (b : Books) : TransactionId × Books :=
  match b.manager.slot with
  | some id => (id, b)
  | none => (⟨b.ledger.transactions.length⟩, b.install)

/-- Drops the transaction in the slot, as when a session closes. -/
def discard (b : Books) : Outcome Books Unit :=
  match b.manager.slot with
  | none => b.unchanged (.ok ())
  | some id => ⟨.ok (), b.vacate.clear id, [b.ended .committed id]⟩

/-! ## 2. Autocommit, commit and rollback -/

/-- The one feature that autocommit, commit and rollback need. -/
def transactionFeature : String := "Transaction"

/-- Turns autocommit on or off, if it is not so already. On commits the current transaction, off
    begins one. -/
def setAutocommit (b : Books) (enable : Bool) : Outcome Books Unit :=
  if b.manager.autocommit = enable then b.unchanged (.ok ())
  else if !b.manager.compliant then b.unchanged (.error (.unsupported transactionFeature))
  else
    let b := { b with manager := { b.manager with autocommit := enable } }
    let missing := Event.featureMissing transactionFeature
    if enable then
      let o := b.discard
      ⟨.ok (), o.state, missing :: o.events⟩
    else if b.manager.slot.isNone then ⟨.ok (), b.install, [missing]⟩
    else ⟨.ok (), b, [missing, .transactionKept]⟩

/-- The word for an attempt to end a transaction. -/
def attempt : Ending → String
  | .committed => "commit"
  | .rolledBack => "rollback"

/-- Ends the current transaction and begins another. Without a current one it fails, but begins one
    all the same. -/
def finish (b : Books) (ending : Ending) : Outcome Books Unit :=
  if b.manager.autocommit then b.unchanged (.error (.inAutocommit (attempt ending)))
  else if !b.manager.compliant then b.unchanged (.error (.unsupported transactionFeature))
  else
    let missing := Event.featureMissing transactionFeature
    match b.manager.slot with
    | none => ⟨.error .noTransaction, b.install, [missing]⟩
    | some id => ⟨.ok (), b.install.clear id, [missing, b.ended ending id]⟩

/-- Ends the current transaction. -/
def commit (b : Books) : Outcome Books Unit := b.finish .committed

/-- Ends the current transaction, too: nothing is undone. -/
def rollback (b : Books) : Outcome Books Unit := b.finish .rolledBack

/-! ## 3. Savepoints -/

/-- The feature that savepoints need. -/
def savepointFeature : String := "Savepoint"

/-- Sets a savepoint in the current transaction, which begins if there is none. -/
def setSavepoint (b : Books) (name : Option String) : Outcome Books Savepoint :=
  if b.manager.autocommit then b.unchanged (.error (.inAutocommit "set savepoint"))
  else if !b.manager.compliant then b.unchanged (.error (.unsupported savepointFeature))
  else
    let (id, b) := b.current
    let m := b.manager
    let s := (b.ledger.transaction id).mark m.owner m.nextSavepoint name
    ⟨.ok s,
      ⟨b.ledger.modify id (·.addSavepoint s), { m with nextSavepoint := m.nextSavepoint + 1 }⟩,
      [.savepointSet id s]⟩

/-- The word for an attempt to return to a savepoint. -/
def returnAttempt : Transaction.Return → String
  | .rollback => "rollback to savepoint"
  | .release => "release savepoint"

/-- The transaction in which a savepoint can be looked for. -/
def target (b : Books) (how : Transaction.Return) (s : Savepoint) :
    Except SessionError TransactionId :=
  if b.manager.autocommit then .error (.inAutocommit (returnAttempt how))
  else if !b.manager.compliant then .error (.unsupported savepointFeature)
  else if s.owner ≠ b.manager.owner then .error (.foreignSavepoint s)
  else match b.manager.slot with
    | none => .error .noTransaction
    | some id => .ok id

/-- Returns to a savepoint of the current transaction. The event comes before it is known whether
    the savepoint is still there. -/
def returnTo (b : Books) (how : Transaction.Return) (s : Savepoint) : Outcome Books Unit :=
  match b.target how s with
  | .error e => b.unchanged (.error e)
  | .ok id =>
    let t := b.ledger.transaction id
    let left := Event.savepointLeft how id s (t.after s)
    match t.returnTo? how s with
    | none => ⟨.error (.unknownSavepoint s), b, [left]⟩
    | some t => ⟨.ok (), { b with ledger := b.ledger.modify id fun _ => t }, [left]⟩

/-- Cuts the window back to a savepoint and keeps the savepoint. -/
def rollbackTo (b : Books) (s : Savepoint) : Outcome Books Unit := b.returnTo .rollback s

/-- Cuts the window back to a savepoint and drops the savepoint. -/
def release (b : Books) (s : Savepoint) : Outcome Books Unit := b.returnTo .release s

/-! ## 4. Query ids -/

/-- Hands out a query id, which belongs to the current transaction if there is one. -/
def newQueryId (b : Books) : QueryId × Books :=
  match b.manager.slot with
  | none => let (q, l) := b.ledger.issue; (q, { b with ledger := l })
  | some id => let (q, l) := b.ledger.issueIn id; (q, { b with ledger := l })

end Books

end StatelessSession
