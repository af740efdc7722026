import StatelessSession.Failure
import StatelessSession.Transaction.Manager

/-!
# A bench of managers

Any number of managers over one ledger, driven by commands. Managers, savepoints and held
transactions are numbered from zero in the order in which they come up, so a command can name a
savepoint that another manager set, or one that is long gone, but none that was never set.
-/

namespace StatelessSession

/-- Managers, and the handles given out so far. -/
structure Bench where
  ledger : Ledger
  managers : List Manager
  savepoints : List Savepoint
  held : List TransactionId
deriving DecidableEq, Repr

namespace Bench

/-- The bench without managers. -/
def empty : Bench := ⟨Ledger.empty, [], [], []⟩

/-! ## 1. Commands -/

/-- What can be done with a manager. -/
inductive Action where
  | setAutocommit (enable : Bool)
  | commit
  | rollback
  | setSavepoint (name : Option String)
  | rollbackTo (savepoint : Nat)
  | release (savepoint : Nat)
  | newQueryId
  | discard
  /-- Keeps a handle to the current transaction. -/
  | hold
deriving DecidableEq, Repr

/-- What can be done on a bench. -/
inductive Command where
  | newManager (compliant : Bool)
  /-- Begins a transaction outside any manager, and holds it. -/
  | newTransaction
  | act (manager : Nat) (a : Action)
  /-- Hands out a query id that belongs to a held transaction. -/
  | newQueryIn (held : Nat)
  | inspect (held : Nat)
deriving DecidableEq, Repr

/-- What a command answers. -/
inductive Reply where
  | done
  | number (n : Nat)
  | queryId (q : QueryId)
  | savepoint (s : Savepoint)
deriving DecidableEq, Repr

/-! ## 2. Steps -/

/-- Puts a manager and the ledger back after an operation. -/
def putBooks (b : Bench) (i : Nat) (books : Books) : Bench :=
  { b with ledger := books.ledger, managers := b.managers.set i books.manager }

/-- The effect of an operation that answers nothing. -/
def finished (b : Bench) (i : Nat) (o : Outcome Books Unit) : Reaction Bench Reply :=
  ⟨match o.answer with | .ok _ => .ok .done | .error e => .error (.session e),
    b.putBooks i o.state, o.events⟩

/-- Does something with a savepoint. -/
def withSavepoint (b : Bench) (savepoint : Nat) (f : Savepoint → Reaction Bench Reply) :
    Reaction Bench Reply :=
  match b.savepoints[savepoint]? with
  | none => .missing b .savepoint
  | some s => f s

/-- Does something with the manager at a place. -/
def act (b : Bench) (i : Nat) (books : Books) : Action → Reaction Bench Reply
  | .setAutocommit enable => b.finished i (books.setAutocommit enable)
  | .commit => b.finished i books.commit
  | .rollback => b.finished i books.rollback
  | .setSavepoint name =>
    let o := books.setSavepoint name
    let b := b.putBooks i o.state
    match o.answer with
    | .error e => ⟨.error (.session e), b, o.events⟩
    | .ok s => ⟨.ok (.savepoint s), { b with savepoints := b.savepoints ++ [s] }, o.events⟩
  | .rollbackTo savepoint => b.withSavepoint savepoint fun s => b.finished i (books.rollbackTo s)
  | .release savepoint => b.withSavepoint savepoint fun s => b.finished i (books.release s)
  | .newQueryId =>
    let (q, books) := books.newQueryId
    ⟨.ok (.queryId q), b.putBooks i books, []⟩
  | .discard => b.finished i books.discard
  | .hold =>
    match books.manager.slot with
    | none => .missing b .currentTransaction
    | some id => ⟨.ok (.number b.held.length), { b with held := b.held ++ [id] }, []⟩

/-- Carries out a command. -/
def step (b : Bench) : Command → Reaction Bench Reply
  | .newManager compliant =>
    let books := Books.opened b.ledger compliant
    ⟨.ok (.number b.managers.length),
      { b with ledger := books.ledger, managers := b.managers ++ [books.manager] }, []⟩
  | .newTransaction =>
    let (id, l) := b.ledger.beginTransaction
    ⟨.ok (.number b.held.length), { b with ledger := l, held := b.held ++ [id] }, []⟩
  | .act i a =>
    match b.managers[i]? with
    | none => .missing b .manager
    | some m => b.act i ⟨b.ledger, m⟩ a
  | .newQueryIn held =>
    match b.held[held]? with
    | none => .missing b .heldTransaction
    | some id =>
      let (q, l) := b.ledger.issueIn id
      ⟨.ok (.queryId q), { b with ledger := l }, []⟩
  | .inspect held =>
    match b.held[held]? with
    | none => .missing b .heldTransaction
    | some _ => ⟨.ok .done, b, []⟩

/-- Carries out commands one after the other. -/
def run (b : Bench) : List Command → List (Reaction Bench Reply)
  | [] => []
  | c :: cs => let r := b.step c; r :: r.state.run cs

end Bench

end StatelessSession
