import StatelessSession.Negotiation
import StatelessSession.Statement
import StatelessSession.Transaction.Manager

/-!
# Sessions

A `Session` offers autocommit, commit, rollback, savepoints and prepared statements over a transport
that knows none of them. It holds the request that all its requests come from, its transaction
manager, and settings that are only recorded. Once closed it stays closed, and nearly every
operation fails (`Session.whenOpen`).
-/

namespace StatelessSession

/-- The state of a session. -/
structure Session where
  transport : Transport
  request : Request
  profile : Profile
  manager : Manager
  closed : Bool
  database : String
  readOnly : Bool
  /-- Milliseconds for statements prepared from now on; none if zero. -/
  networkTimeout : Nat
  holdability : Holdability
  isolation : IsolationLevel

namespace Session

/-! ## 1. Getters -/

/-- An answer that only an open session gives. -/
def whenOpen {α : Type} (s : Session) (a : α) : Except SessionError α :=
  if s.closed then .error .closed else .ok a

/-- Whether every statement is on its own. -/
def getAutocommit (s : Session) : Except SessionError Bool := s.whenOpen s.manager.autocommit

/-- Whether the session was declared read-only. -/
def getReadOnly (s : Session) : Except SessionError Bool := s.whenOpen s.readOnly

/-- The catalog: there is none. -/
def getCatalog (s : Session) : Except SessionError (Option String) := s.whenOpen none

/-- The isolation level that was asked for last. -/
def getIsolation (s : Session) : Except SessionError IsolationLevel := s.whenOpen s.isolation

/-- The holdability that was asked for last. -/
def getHoldability (s : Session) : Except SessionError Holdability := s.whenOpen s.holdability

/-- The timeout of statements to be prepared. -/
def getNetworkTimeout (s : Session) : Except SessionError Nat := s.whenOpen s.networkTimeout

/-- The value of a client property; a name that is none has no value. -/
def getClientInfo (s : Session) (name : String) : Except SessionError (Option String) :=
  s.whenOpen ((ClientProperty.ofName? name).bind s.request.settings.clientInfo.get?)

/-- The client properties that are set. -/
def getClientInfoAll (s : Session) : Except SessionError (List (String × String)) :=
  s.whenOpen s.request.settings.clientInfo.entries

/-- The current database. -/
def getSchema (s : Session) : Except SessionError String := s.whenOpen s.database

/-- The timeout of a request, if there is one. -/
def requestTimeout (s : Session) : Option Nat :=
  if 0 < s.networkTimeout then some s.networkTimeout else none

/-- A session in a message. -/
def shown (s : Session) : String :=
  Text.openRecord "Connection"
    [("node", s.request.node.shown), ("database", Text.quoted s.database),
      ("closed", Text.shownBool s.closed), ("auto_commit", Text.shownBool s.manager.autocommit),
      ("profile", s.profile.shown)]

end Session

/-! ## 2. Opening -/

/-- What an attempt to open a session leaves behind. -/
structure Opening where
  answer : Except SessionError Session
  ledger : Ledger
  transport : Transport
  /-- Whether the caller's signal is set afterwards. -/
  cancelled : Bool
  events : List Event

/-- The isolation level of a new session. -/
def initialIsolation (compliant : Bool) : IsolationLevel :=
  if compliant then .readCommitted else .none

/-- A new session over a profile that was negotiated. -/
def Session.ofProfile (profile : Profile) (r : Request) (t : Transport) (m : Manager)
    (compliant : Bool) : Session :=
  { transport := t
    request := r.onDatabase profile.database
    profile
    manager := m
    closed := false
    database := profile.database
    readOnly := false
    networkTimeout := 0
    holdability := Holdability.default
    isolation := initialIsolation compliant }

/-- Opens a session: checks the options, then negotiates. -/
def Session.openWith (l : Ledger) (o : Options) (t : Transport) (signal : Signal) : Opening :=
  match o.validate with
  | .error f => ⟨.error (.options f), l, t, signal == .before, []⟩
  | .ok () =>
    let n := negotiate o (Request.ofOptions o) t signal
    match n.answer with
    | .error e => ⟨.error e, l, n.transport, n.cancelled, .opening :: n.events⟩
    | .ok profile =>
      let books := Books.opened l o.compliant
      ⟨.ok (Session.ofProfile profile n.request n.transport books.manager o.compliant),
        books.ledger, n.transport, n.cancelled, .opening :: n.events⟩

end StatelessSession
