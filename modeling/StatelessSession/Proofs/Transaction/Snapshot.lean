import StatelessSession.Proofs.Transaction.Handles

/-!
# Savepoints that copy the window

The reference for savepoints: each entry of the stack keeps a full copy of the window as it was
when the savepoint was set. Going back to a savepoint looks for the very handle, puts the copy back
and cuts the stack. No marker is read anywhere.

* `Snapshot.Bench.step`, `run` -- the commands of a bench over such transactions;
* `Snapshot.Bench.shown` -- the bench without the copies;

NOT here: that the two agree on every run (`Refinement`).
-/

namespace StatelessSession.Snapshot

/-! ## 1. Transactions -/

/-- A savepoint with the window as it was when the savepoint was set. -/
structure Mark where
  savepoint : Savepoint
  copy : List QueryId

/-- The window and the stack of a transaction, oldest first. -/
structure Transaction where
  queries : List QueryId
  marks : List Mark

namespace Transaction

/-- A transaction that has just begun. -/
def empty : Transaction := ⟨[], []⟩

/-- Adds a query id to the window. -/
def addQuery (t : Transaction) (q : QueryId) : Transaction := { t with queries := t.queries ++ [q] }

/-- Puts a savepoint on top of the stack, with a copy of the window. -/
def addSavepoint (t : Transaction) (s : Savepoint) : Transaction :=
  { t with marks := t.marks ++ [⟨s, t.queries⟩] }

/-- The part of a stack below a savepoint, and its own entry; `none` if it is not there. -/
def find? (s : Savepoint) : List Mark → Option (List Mark × Mark)
  | [] => none
  | m :: ms =>
    if m.savepoint = s then some ([], m) else (find? s ms).map fun p => (m :: p.1, p.2)

/-- Puts the copy of `s` back and keeps the stack up to `s`, with or without it; `none` if `s` is
    not in the stack. -/
def returnTo? (t : Transaction) (how : StatelessSession.Transaction.Return) (s : Savepoint) :
    Option Transaction :=
  (find? s t.marks).map fun p =>
    match how with
    | .rollback => ⟨p.2.copy, p.1 ++ [p.2]⟩
    | .release => ⟨p.2.copy, p.1⟩

/-- The transaction without the copies. -/
def shown (t : Transaction) : StatelessSession.Transaction :=
  ⟨t.queries, t.marks.map Mark.savepoint⟩

end Transaction

/-! ## 2. Ledgers -/

/-- Every transaction by its number, and the next numbers. -/
structure Ledger where
  transactions : List Transaction
  nextQuery : Nat
  nextOwner : Nat

namespace Ledger

/-- A transaction by its id. -/
def transaction (l : Ledger) (id : TransactionId) : Transaction :=
  (l.transactions[id.number]?).getD Transaction.empty

/-- Changes a transaction. -/
def modify (l : Ledger) (id : TransactionId) (f : Transaction → Transaction) : Ledger :=
  { l with transactions := l.transactions.modify id.number f }

/-- Begins a transaction. -/
def beginTransaction (l : Ledger) : TransactionId × Ledger :=
  (⟨l.transactions.length⟩, { l with transactions := l.transactions ++ [Transaction.empty] })

/-- Hands out a query id. -/
def issue (l : Ledger) : QueryId × Ledger :=
  (.issued l.nextQuery, { l with nextQuery := l.nextQuery + 1 })

/-- Hands out a query id that belongs to a transaction. -/
def issueIn (l : Ledger) (id : TransactionId) : QueryId × Ledger :=
  (l.issue.1, l.issue.2.modify id (·.addQuery l.issue.1))

/-- The ledger without the copies. -/
def shown (l : Ledger) : StatelessSession.Ledger :=
  ⟨l.transactions.map Transaction.shown, l.nextQuery, l.nextOwner⟩

end Ledger

/-! ## 3. Managers -/

/-- A manager with the ledger that it works on. -/
structure Books where
  ledger : Ledger
  manager : Manager

namespace Books

/-- Puts a new transaction into the slot. -/
def install (b : Books) : Books :=
  ⟨b.ledger.beginTransaction.2, { b.manager with slot := some b.ledger.beginTransaction.1 }⟩

/-- Empties the slot and the transaction that was in it. -/
def discard (b : Books) : Books :=
  match b.manager.slot with
  | none => b
  | some id => ⟨b.ledger.modify id fun _ => .empty, { b.manager with slot := none }⟩

/-- Turns autocommit on or off. -/
def setAutocommit (b : Books) (enable : Bool) : Except SessionError Unit × Books :=
  if b.manager.autocommit = enable then (.ok (), b)
  else if !b.manager.compliant then
    (.error (.unsupported StatelessSession.Books.transactionFeature), b)
  else
    let b : Books := { b with manager := { b.manager with autocommit := enable } }
    if enable then (.ok (), b.discard)
    else if b.manager.slot.isNone then (.ok (), b.install)
    else (.ok (), b)

/-- Commits or rolls back. -/
def finish (b : Books) (ending : Ending) : Except SessionError Unit × Books :=
  if b.manager.autocommit then
    (.error (.inAutocommit (StatelessSession.Books.attempt ending)), b)
  else if !b.manager.compliant then
    (.error (.unsupported StatelessSession.Books.transactionFeature), b)
  else if b.manager.slot.isNone then (.error .noTransaction, b.install)
  else (.ok (), b.discard.install)

/-- The transaction in the slot, put there if there is none. -/
def current (b : Books) : TransactionId × Books :=
  match b.manager.slot with
  | some id => (id, b)
  | none => (b.ledger.beginTransaction.1, b.install)

/-- Sets a savepoint. -/
def setSavepoint (b : Books) (name : Option String) : Except SessionError Savepoint × Books :=
  if b.manager.autocommit then (.error (.inAutocommit "set savepoint"), b)
  else if !b.manager.compliant then
    (.error (.unsupported StatelessSession.Books.savepointFeature), b)
  else
    let (id, b) := b.current
    let m := b.manager
    let s : Savepoint :=
      ⟨m.owner, m.nextSavepoint, name, (b.ledger.transaction id).queries.length⟩
    let m' := { m with nextSavepoint := m.nextSavepoint + 1 }
    (.ok s, ⟨b.ledger.modify id (·.addSavepoint s), m'⟩)

/-- Goes back to a savepoint. -/
def returnTo (b : Books) (how : StatelessSession.Transaction.Return) (s : Savepoint) :
    Except SessionError Unit × Books :=
  if b.manager.autocommit then
    (.error (.inAutocommit (StatelessSession.Books.returnAttempt how)), b)
  else if !b.manager.compliant then
    (.error (.unsupported StatelessSession.Books.savepointFeature), b)
  else if s.owner ≠ b.manager.owner then (.error (.foreignSavepoint s), b)
  else match b.manager.slot with
    | none => (.error .noTransaction, b)
    | some id =>
      match (b.ledger.transaction id).returnTo? how s with
      | none => (.error (.unknownSavepoint s), b)
      | some t => (.ok (), { b with ledger := b.ledger.modify id fun _ => t })

/-- Hands out a query id. -/
def newQueryId (b : Books) : QueryId × Books :=
  match b.manager.slot with
  | none => (b.ledger.issue.1, { b with ledger := b.ledger.issue.2 })
  | some id => ((b.ledger.issueIn id).1, { b with ledger := (b.ledger.issueIn id).2 })

/-- The books without the copies. -/
def shown (b : Books) : StatelessSession.Books := ⟨b.ledger.shown, b.manager⟩

end Books

/-! ## 4. Benches -/

/-- Managers, and the handles given out so far. -/
structure Bench where
  ledger : Ledger
  managers : List Manager
  savepoints : List Savepoint
  held : List TransactionId

namespace Bench

/-- The bench without managers. -/
def empty : Bench := ⟨⟨[], 1, 1⟩, [], [], []⟩

/-- Puts a manager and the ledger back. -/
def putBooks (b : Bench) (i : Nat) (books : Books) : Bench :=
  { b with ledger := books.ledger, managers := b.managers.set i books.manager }

/-- The effect of an operation that answers nothing. -/
def finished (b : Bench) (i : Nat) (o : Except SessionError Unit × Books) :
    Except Failure StatelessSession.Bench.Reply × Bench :=
  (match o.1 with | .ok _ => .ok .done | .error e => .error (.session e), b.putBooks i o.2)

/-- Does something with the manager at a place. -/
def act (b : Bench) (i : Nat) (books : Books) :
    StatelessSession.Bench.Action → Except Failure StatelessSession.Bench.Reply × Bench
  | .setAutocommit enable => b.finished i (books.setAutocommit enable)
  | .commit => b.finished i (books.finish .committed)
  | .rollback => b.finished i (books.finish .rolledBack)
  | .setSavepoint name =>
    match books.setSavepoint name with
    | (.error e, books) => (.error (.session e), b.putBooks i books)
    | (.ok s, books) =>
      (.ok (.savepoint s), { b.putBooks i books with savepoints := b.savepoints ++ [s] })
  | .rollbackTo n =>
    match b.savepoints[n]? with
    | none => (.error (.missing .savepoint), b)
    | some s => b.finished i (books.returnTo .rollback s)
  | .release n =>
    match b.savepoints[n]? with
    | none => (.error (.missing .savepoint), b)
    | some s => b.finished i (books.returnTo .release s)
  | .newQueryId => (.ok (.queryId books.newQueryId.1), b.putBooks i books.newQueryId.2)
  | .discard => (.ok .done, b.putBooks i books.discard)
  | .hold =>
    match books.manager.slot with
    | none => (.error (.missing .currentTransaction), b)
    | some id => (.ok (.number b.held.length), { b with held := b.held ++ [id] })

/-- Carries out a command. -/
def step (b : Bench) :
    StatelessSession.Bench.Command → Except Failure StatelessSession.Bench.Reply × Bench
  | .newManager compliant =>
    (.ok (.number b.managers.length),
      { b with
        ledger := { b.ledger with nextOwner := b.ledger.nextOwner + 1 }
        managers := b.managers ++ [⟨b.ledger.nextOwner, compliant, true, 1, none⟩] })
  | .newTransaction =>
    (.ok (.number b.held.length),
      { b with
        ledger := b.ledger.beginTransaction.2
        held := b.held ++ [b.ledger.beginTransaction.1] })
  | .act i a =>
    match b.managers[i]? with
    | none => (.error (.missing .manager), b)
    | some m => b.act i ⟨b.ledger, m⟩ a
  | .newQueryIn n =>
    match b.held[n]? with
    | none => (.error (.missing .heldTransaction), b)
    | some id =>
      (.ok (.queryId (b.ledger.issueIn id).1), { b with ledger := (b.ledger.issueIn id).2 })
  | .inspect n =>
    match b.held[n]? with
    | none => (.error (.missing .heldTransaction), b)
    | some _ => (.ok .done, b)

/-- Carries out commands one after the other. -/
def run (b : Bench) :
    List StatelessSession.Bench.Command → List (Except Failure StatelessSession.Bench.Reply × Bench)
  | [] => []
  | c :: cs => b.step c :: (b.step c).2.run cs

/-- The bench without the copies. -/
def shown (b : Bench) : StatelessSession.Bench :=
  ⟨b.ledger.shown, b.managers, b.savepoints, b.held⟩

end Bench

end StatelessSession.Snapshot
