import StatelessSession.Failure
import StatelessSession.Session.Action

/-!
# A workspace of sessions

Any number of sessions over one ledger, driven by commands. Sessions, statements, savepoints and
held transactions are numbered from zero over the whole workspace, in the order in which they come
up; a session that fails to open takes a number, too. Aborts are scheduled, and run when they are
joined.
-/

namespace StatelessSession

/-- A statement and the number of the session that prepared it. -/
structure Prepared where
  session : Nat
  statement : Statement

/-- Sessions, and the handles given out so far. -/
structure Workspace where
  ledger : Ledger
  /-- The sessions; none where one failed to open. -/
  sessions : List (Option Session)
  /-- The statements; none where one was consumed. -/
  statements : List (Option Prepared)
  savepoints : List Savepoint
  held : List TransactionId
  /-- The sessions whose aborts are scheduled, the earliest first. -/
  aborts : List Nat

namespace Workspace

/-- The workspace without sessions. -/
def empty : Workspace := ⟨Ledger.empty, [], [], [], [], []⟩

/-! ## 1. Commands -/

/-- What can be done with a session. -/
inductive SessionCommand where
  | act (a : SessionBooks.Action)
  | rollbackTo (savepoint : Nat)
  | release (savepoint : Nat)
  /-- Keeps a handle to the current transaction. -/
  | hold
  /-- Schedules the abort of the session. -/
  | scheduleAbort
  /-- Looks at the session. -/
  | inspect
  | pushResponse (response : Except TransportError ResultSet)
  | setAlive (v : Bool)
  | failClose (e : TransportError)

/-- What can be done with a statement. -/
inductive StatementCommand where
  | execute (params : List Value)
  | addRow (row : List Value)
  | clearRows
  /-- Keeps the statement only if it is of the wanted kind. -/
  | convert (toInsert : Bool)
  /-- Looks at the statement. -/
  | inspect

/-- What can be done in a workspace. -/
inductive Command where
  /-- Opens a session. A caller may bring a signal along, and then learns whether it is set. -/
  | connect (o : Options) (t : Transport) (signal : Option Signal)
  | onSession (session : Nat) (c : SessionCommand)
  | onStatement (statement : Nat) (c : StatementCommand)
  /-- Hands out a query id that belongs to a held transaction. -/
  | newQueryIn (held : Nat)
  | inspectHeld (held : Nat)
  /-- Runs the scheduled aborts. -/
  | join

/-- What a command answers. -/
inductive Reply where
  | answer (a : SessionBooks.Answer)
  | number (n : Nat)
  /-- A new statement under its number. -/
  | prepared (number : Nat) (s : Statement)
  | opening (o : Opening)
  | session (s : Session)
  | statement (s : Statement)
  | rows (s : ResultSet)

/-! ## 2. Sessions -/

/-- The session with a number, if it opened. -/
def session? (w : Workspace) (i : Nat) : Option Session := w.sessions[i]?.join

/-- The statement with a number, if it was not consumed. -/
def statement? (w : Workspace) (i : Nat) : Option Prepared := w.statements[i]?.join

/-- Puts a session back. -/
def putSession (w : Workspace) (i : Nat) (s : Session) : Workspace :=
  { w with sessions := w.sessions.set i (some s) }

/-- Puts a session and the ledger back. -/
def putBooks (w : Workspace) (i : Nat) (b : SessionBooks) : Workspace :=
  { w.putSession i b.session with ledger := b.ledger }

/-- Puts a statement back, or marks it consumed. -/
def putStatement (w : Workspace) (i : Nat) (p : Option Prepared) : Workspace :=
  { w with statements := w.statements.set i p }

/-- Opens a session under the next number. Without a signal the caller learns of none. -/
def connect (w : Workspace) (o : Options) (t : Transport) (signal : Option Signal) :
    Reaction Workspace Reply :=
  let opening := Session.openWith w.ledger o t (signal.getD .never)
  ⟨.ok (.opening { opening with cancelled := opening.cancelled && signal.isSome }),
    { w with ledger := opening.ledger, sessions := w.sessions ++ [opening.answer.toOption] },
    opening.events⟩

/-- Numbers the handle that an answer brings along. -/
def register (w : Workspace) (i : Nat) : SessionBooks.Answer → Reply × Workspace
  | .statement s =>
    (.prepared w.statements.length s, { w with statements := w.statements ++ [some ⟨i, s⟩] })
  | .savepoint s => (.answer (.savepoint s), { w with savepoints := w.savepoints ++ [s] })
  | a => (.answer a, w)

/-- Lets a session carry out an action. -/
def act (w : Workspace) (i : Nat) (s : Session) (a : SessionBooks.Action) :
    Reaction Workspace Reply :=
  let o := SessionBooks.perform ⟨w.ledger, s⟩ a
  let w := w.putBooks i o.state
  match o.answer with
  | .error e => ⟨.error (.session e), w, o.events⟩
  | .ok answer => let (reply, w) := w.register i answer; ⟨.ok reply, w, o.events⟩

/-- Does something with a savepoint. -/
def withSavepoint (w : Workspace) (savepoint : Nat) (f : Savepoint → Reaction Workspace Reply) :
    Reaction Workspace Reply :=
  match w.savepoints[savepoint]? with
  | none => .missing w .savepoint
  | some s => f s

/-- Changes the transport of a session. -/
def changeTransport (w : Workspace) (i : Nat) (s : Session) (f : Transport → Transport) :
    Reaction Workspace Reply :=
  ⟨.ok (.answer .done), w.putSession i { s with transport := f s.transport }, []⟩

/-- Carries out a command on a session. -/
def stepSession (w : Workspace) (i : Nat) (s : Session) : SessionCommand → Reaction Workspace Reply
  | .act a => w.act i s a
  | .rollbackTo n => w.withSavepoint n fun sp => w.act i s (.rollbackTo sp)
  | .release n => w.withSavepoint n fun sp => w.act i s (.release sp)
  | .hold =>
    match s.manager.slot with
    | none => .missing w .currentTransaction
    | some id => ⟨.ok (.number w.held.length), { w with held := w.held ++ [id] }, []⟩
  | .scheduleAbort => ⟨.ok (.number w.aborts.length), { w with aborts := w.aborts ++ [i] }, []⟩
  | .inspect => ⟨.ok (.session s), w, []⟩
  | .pushResponse response => w.changeTransport i s (·.push response)
  | .setAlive v => w.changeTransport i s ({ · with alive := v })
  | .failClose e => w.changeTransport i s ({ · with closeError := some e })

/-! ## 3. Statements -/

/-- Executes a statement over the session that prepared it. -/
def execute (w : Workspace) (i : Nat) (p : Prepared) (params : List Value) (s : Session) :
    Reaction Workspace Reply :=
  match p.statement with
  | .query q =>
    let o := q.execute s.closed s.transport params
    ⟨(o.answer.map .rows).mapError .session,
      w.putSession p.session { s with transport := o.state }, o.events⟩
  | .insert q =>
    let o := q.execute s.closed s.transport
    ⟨(o.answer.map .number).mapError .session,
      (w.putSession p.session { s with transport := o.state.2 }).putStatement i
        (some { p with statement := .insert o.state.1 }), o.events⟩

/-- Carries out a command on a statement. -/
def stepStatement (w : Workspace) (i : Nat) (p : Prepared) :
    StatementCommand → Reaction Workspace Reply
  | .execute params =>
    match w.session? p.session with
    | none => .missing w .connection
    | some s => w.execute i p params s
  | .addRow row =>
    match p.statement with
    | .query _ => .missing w .streamingInsert
    | .insert q =>
      let o := q.addRow row
      ⟨(o.answer.map fun _ => .answer .done).mapError .session,
        w.putStatement i (some { p with statement := .insert o.state }), o.events⟩
  | .clearRows =>
    match p.statement with
    | .query _ => .missing w .streamingInsert
    | .insert q =>
      ⟨.ok (.answer .done), w.putStatement i (some { p with statement := .insert q.clearRows }), []⟩
  | .convert toInsert =>
    let fits := p.statement.isInsert == toInsert
    ⟨.ok (.answer (.flag fits)), w.putStatement i (if fits then some p else none), []⟩
  | .inspect => ⟨.ok (.statement p.statement), w, []⟩

/-- Carries out a command on the statement with a number. A consumed statement is of neither
    kind. -/
def onStatement (w : Workspace) (i : Nat) (c : StatementCommand) : Reaction Workspace Reply :=
  match w.statements[i]?, c with
  | none, _ => .missing w .statement
  | some none, .convert _ => ⟨.ok (.answer (.flag false)), w, []⟩
  | some none, _ => .missing w .statement
  | some (some p), c => w.stepStatement i p c

/-! ## 4. Steps -/

/-- Runs the aborts of some sessions in order, and collects what is reported. -/
def runAborts (w : Workspace) : List Nat → Workspace × List Event
  | [] => (w, [])
  | i :: is =>
    match w.session? i with
    | none => w.runAborts is
    | some s =>
      let o := SessionBooks.abort ⟨w.ledger, s⟩
      let (w, events) := (w.putBooks i o.state).runAborts is
      (w, o.events ++ events)

/-- Carries out a command. -/
def step (w : Workspace) : Command → Reaction Workspace Reply
  | .connect o t signal => w.connect o t signal
  | .onSession i c =>
    match w.session? i with
    | none => .missing w .connection
    | some s => w.stepSession i s c
  | .onStatement i c => w.onStatement i c
  | .newQueryIn held =>
    match w.held[held]? with
    | none => .missing w .heldTransaction
    | some id =>
      let (q, l) := w.ledger.issueIn id
      ⟨.ok (.answer (.queryId q)), { w with ledger := l }, []⟩
  | .inspectHeld held =>
    match w.held[held]? with
    | none => .missing w .heldTransaction
    | some _ => ⟨.ok (.answer .done), w, []⟩
  | .join =>
    let (w', events) := w.runAborts w.aborts
    ⟨.ok (.number w.aborts.length), { w' with aborts := [] }, events⟩

end Workspace

end StatelessSession
