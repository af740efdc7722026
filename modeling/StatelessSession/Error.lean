import StatelessSession.Sql.Query
import StatelessSession.Transaction.Savepoint

/-!
# Errors

`TransportError` is what a transport reports; `SessionError` is what an operation of a session fails
with, one constructor per cause. Every cause is of one `ErrorKind`, which gives the text its heading
and the error its SQL state.
-/

namespace StatelessSession

/-! ## 1. Transport errors -/

/-- What a transport can report instead of an answer. -/
inductive TransportError where
  /-- The request was cancelled before an answer came. -/
  | cancelled (reason : String)
  /-- Whatever drives the request was interrupted. -/
  | interrupted (reason : String)
  | timeout (milliseconds : Nat)
  | failed (reason : String)
deriving DecidableEq, Repr

namespace TransportError

/-- The error in words. -/
def message : TransportError → String
  | .cancelled reason => "request cancelled: " ++ reason
  | .interrupted reason => "request interrupted: " ++ reason
  | .timeout ms => "request timed out after " ++ toString ms ++ " ms"
  | .failed reason => "transport failure: " ++ reason

/-- Whether somebody wanted the request to stop, as opposed to a fault. -/
def isCancellation : TransportError → Bool
  | .cancelled _ | .interrupted _ => true
  | .timeout _ | .failed _ => false

end TransportError

/-! ## 2. Kinds -/

/-- The kinds of session errors. -/
inductive ErrorKind where
  /-- A closed session, a wrong argument or a wrong state. -/
  | client
  | unsupported
  | invalidTransactionState
  | invalidSchema
  | cancelled
  | connection
  | config
  | parameter
  | execution
  | clientInfo
deriving DecidableEq, Repr

namespace ErrorKind

/-- All kinds. -/
def all : List ErrorKind :=
  [.client, .unsupported, .invalidTransactionState, .invalidSchema, .cancelled, .connection,
    .config, .parameter, .execution, .clientInfo]

/-- The name of a kind. -/
def name : ErrorKind → String
  | .client => "Client"
  | .unsupported => "Unsupported"
  | .invalidTransactionState => "InvalidTransactionState"
  | .invalidSchema => "InvalidSchema"
  | .cancelled => "Cancelled"
  | .connection => "Connection"
  | .config => "Config"
  | .parameter => "Parameter"
  | .execution => "Execution"
  | .clientInfo => "ClientInfo"

/-- What the text of an error begins with. -/
def heading : ErrorKind → String
  | .client => "Client error: "
  | .unsupported => "Unsupported feature: "
  | .invalidTransactionState => "Invalid transaction state: "
  | .invalidSchema => "Invalid schema: "
  | .cancelled => "Cancelled: "
  | .connection => "Connection error: "
  | .config => "Configuration error: "
  | .parameter => "Parameter error: "
  | .execution => "SQL execution error: "
  | .clientInfo => "Client info error: "

/-- The SQL state of a kind, if there is one. -/
def sqlState : ErrorKind → Option String
  | .unsupported => some "0A000"
  | .invalidTransactionState => some "25000"
  | .invalidSchema => some "3F000"
  | .cancelled => some "70100"
  | .connection => some "08000"
  | .parameter => some "07001"
  | .client | .config | .execution | .clientInfo => none

/-- The text of an error from what it says in detail. -/
def report (k : ErrorKind) (detail : String) : String := k.heading ++ detail

end ErrorKind

/-- What an error about client info says in detail: a reason and the properties it concerns. -/
def clientInfoDetail (reason : String) (properties : List ClientProperty) : String :=
  reason ++ " (failed properties: " ++
    String.intercalate ", " (properties.map ClientProperty.name) ++ ")"

/-! ## 3. Causes -/

/-- Why an operation of a session fails. -/
inductive SessionError where
  /-- The session is closed. -/
  | closed
  | sql (f : Sql.Fault)
  /-- The action needs manual commit. -/
  | inAutocommit (action : String)
  /-- The savepoint was set by another manager. -/
  | foreignSavepoint (s : Savepoint)
  /-- The savepoint is not in the stack of the transaction. -/
  | unknownSavepoint (s : Savepoint)
  | isolationNone
  | negativeNetworkTimeout
  | negativePingTimeout
  | unsupported (feature : String)
  /-- There is no transaction. -/
  | noTransaction
  | emptySchema
  /-- The probe was cancelled by the caller. -/
  | probeCancelled
  /-- The probe was cancelled by the transport. -/
  | probeStopped (e : TransportError)
  | probeFailed (e : TransportError)
  | noServerInfo
  | oddServerInfo (column : Nat) (v : Value)
  | missingServerInfo (column : Nat)
  | closeFailed (e : TransportError)
  | options (f : OptionsFault)
  | unknownZone (name : String)
  | parameterCount (expected given : Nat)
  | rowWidth (expected given : Nat)
  | queryFailed (id : QueryId) (e : TransportError)
  | insertFailed (id : QueryId) (e : TransportError)
  /-- Client info of a closed session cannot be set. -/
  | clientInfoClosed

namespace SessionError

/-- The kind of an error. -/
def kind : SessionError → ErrorKind
  | .closed | .sql _ | .inAutocommit _ | .foreignSavepoint _ | .unknownSavepoint _
  | .isolationNone | .negativeNetworkTimeout | .negativePingTimeout => .client
  | .unsupported _ => .unsupported
  | .noTransaction => .invalidTransactionState
  | .emptySchema => .invalidSchema
  | .probeCancelled | .probeStopped _ => .cancelled
  | .probeFailed _ | .noServerInfo | .oddServerInfo _ _ | .missingServerInfo _
  | .closeFailed _ => .connection
  | .options _ | .unknownZone _ => .config
  | .parameterCount _ _ | .rowWidth _ _ => .parameter
  | .queryFailed _ _ | .insertFailed _ _ => .execution
  | .clientInfoClosed => .clientInfo

/-- What an error says in detail. -/
def detail : SessionError → String
  | .closed => "Cannot operate on a closed connection"
  | .sql f => f.message
  | .inAutocommit action => "Cannot " ++ action ++ " in auto-commit mode"
  | .foreignSavepoint s => "Unsupported type of savepoint: " ++ s.display
  | .unknownSavepoint s => "Unknown savepoint: " ++ s.display
  | .isolationNone => "Invalid transaction isolation level"
  | .negativeNetworkTimeout => "Network timeout must be a non-negative number of milliseconds"
  | .negativePingTimeout => "Negative timeout is not allowed"
  | .unsupported feature => feature ++ " is not supported"
  | .noTransaction => "Transaction not started"
  | .emptySchema => "Non-empty schema name is required"
  | .probeCancelled => "server info query cancelled"
  | .probeStopped e => e.message
  | .probeFailed e => "Failed to query server info: " ++ e.message
  | .noServerInfo => "Server info query returned no rows"
  | .oddServerInfo i v =>
    "Unexpected value in server info column " ++ toString i ++ ": " ++ v.shown
  | .missingServerInfo i => "Server info row is missing column " ++ toString i
  | .closeFailed e => "Failed to close connection: " ++ e.message
  | .options .hostRequired => "host is required"
  | .options .clientZoneRequired =>
    "use_time_zone is required when use_server_time_zone is disabled"
  | .unknownZone name => "Invalid timezone " ++ Text.quoted name ++ ": failed to parse timezone"
  | .parameterCount expected given =>
    "Expected " ++ toString expected ++ " parameter(s) but got " ++ toString given
  | .rowWidth expected given =>
    "Expected " ++ toString expected ++ " value(s) per row but got " ++ toString given
  | .queryFailed id e => "Query " ++ id.display ++ " failed: " ++ e.message
  | .insertFailed id e => "Insert " ++ id.display ++ " failed: " ++ e.message
  | .clientInfoClosed =>
    clientInfoDetail "Cannot set client info on a closed connection" ClientProperty.all

/-- The error in words. -/
def message (e : SessionError) : String := e.kind.report e.detail

/-- The SQL state of an error. -/
def sqlState (e : SessionError) : Option String := e.kind.sqlState

end SessionError

end StatelessSession
