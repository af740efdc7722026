import StatelessSession.Error
import StatelessSession.Profile
import StatelessSession.Sql.Shape

/-!
# Log events

What a session reports while it works. Each event has a level, a message and named fields; commit
and rollback differ in nothing else.
-/

namespace StatelessSession

/-- How serious an event is. -/
inductive Level where
  | debug
  | warn
deriving DecidableEq, Repr

/-- The name of a level. -/
def Level.name : Level → String
  | .debug => "DEBUG"
  | .warn => "WARN"

/-- The value of a field of an event. -/
inductive FieldValue where
  | text (s : String)
  | count (n : Nat)
deriving DecidableEq, Repr

/-- How a transaction ends. -/
inductive Ending where
  | committed
  | rolledBack
deriving DecidableEq, Repr

/-- What happened. -/
inductive Event where
  | opening
  /-- The facts about the server were known beforehand. -/
  | serverInfoKnown
  | unknownServerZone (name : String)
  | negotiated (profile : Profile)
  /-- A feature that does not exist was accepted all the same. -/
  | featureMissing (feature : String)
  /-- A transaction was to begin while there was one. -/
  | transactionKept
  | transactionEnded (ending : Ending) (id : TransactionId) (queries : List QueryId)
  | savepointSet (id : TransactionId) (s : Savepoint)
  | savepointLeft (how : Transaction.Return) (id : TransactionId) (s : Savepoint)
      (queries : List QueryId)
  | unfitInput (use : Sql.InputUse)
  | prepared (id : QueryId) (parameters : Nat)
  | insertPrepared (id : QueryId) (columns : Nat)
  | executing (id : QueryId)
  | streaming (id : QueryId) (rows : Nat)
  | catalogIgnored (name : String)
  | propertyIgnored (name : String)
  | schemaSwitched (old new : String)
  | closeFailed (node : Node) (e : TransportError)
  | abortFailed (node : Node) (e : TransportError)

namespace Event

/-- How serious the event is. -/
def level : Event → Level
  | .unknownServerZone _ | .featureMissing _ | .transactionKept | .catalogIgnored _
  | .closeFailed _ _ | .abortFailed _ _ => .warn
  | .transactionEnded .rolledBack _ queries => if queries.isEmpty then .debug else .warn
  | _ => .debug

/-- The event in words. -/
def message : Event → String
  | .opening => "opening connection"
  | .serverInfoKnown => "using pre-negotiated server info"
  | .unknownServerZone _ => "unknown server timezone, falling back to UTC"
  | .negotiated _ => "session profile negotiated"
  | .featureMissing feature =>
    "[compliance mode] " ++ feature ++
      " is not supported. Set compliant to false to fail instead."
  | .transactionKept =>
    "[compliance mode] not able to start a new transaction, reusing the existing one"
  | .transactionEnded .committed _ _ => "transaction committed"
  | .transactionEnded .rolledBack _ queries =>
    if queries.isEmpty then "transaction rolled back"
    else "transaction rolled back, but its statements were already executed by the server"
  | .savepointSet _ _ => "savepoint set"
  | .savepointLeft .rollback _ s _ => "rolled back to " ++ s.display
  | .savepointLeft .release _ s _ => "released " ++ s.display
  | .unfitInput _ =>
    "input() is not a single literal structure, preparing as a plain statement"
  | .prepared _ _ => "prepared statement"
  | .insertPrepared _ _ => "prepared streaming insert"
  | .executing _ => "executing statement"
  | .streaming _ _ => "streaming rows to input()"
  | .catalogIgnored _ => "catalog is not supported, ignoring"
  | .propertyIgnored _ => "ignoring unknown client info property"
  | .schemaSwitched _ _ => "switching schema"
  | .closeFailed _ _ => "failed to close connection"
  | .abortFailed _ _ => "failed to close connection during abort"

/-- Query ids as one text. -/
def queryList (queries : List QueryId) : FieldValue :=
  .text (Text.bracketed (queries.map fun q => Text.quoted q.display))

/-- The fields of the event. -/
def fields : Event → List (String × FieldValue)
  | .opening | .serverInfoKnown | .featureMissing _ | .transactionKept => []
  | .unknownServerZone name => [("time_zone", .text name)]
  | .negotiated p =>
    [("database", .text p.database), ("user", .text p.user),
      ("server_time_zone", .text p.serverTimeZone.name),
      ("server_version", .text p.serverVersion.display)]
  | .transactionEnded _ id queries =>
    [("tx_id", .text id.display), ("statements", .count queries.length),
      ("query_ids", queryList queries)]
  | .savepointSet id s => [("tx_id", .text id.display), ("savepoint", .text s.display)]
  | .savepointLeft _ id s queries =>
    [("tx_id", .text id.display), ("savepoint", .text s.display),
      ("query_ids", queryList queries)]
  | .unfitInput use => [("calls", .count use.calls), ("arguments", .count use.arguments)]
  | .prepared id n => [("query_id", .text id.display), ("parameters", .count n)]
  | .insertPrepared id n => [("query_id", .text id.display), ("columns", .count n)]
  | .executing id => [("query_id", .text id.display)]
  | .streaming id n => [("query_id", .text id.display), ("rows", .count n)]
  | .catalogIgnored name => [("catalog", .text name)]
  | .propertyIgnored name => [("name", .text name)]
  | .schemaSwitched old new => [("from", .text old), ("to", .text new)]
  | .closeFailed node e | .abortFailed node e =>
    [("node", .text node.display), ("error", .text e.message)]

end Event

/-- What an operation answers, the state it leaves, and what it reported on the way. -/
structure Outcome (σ α : Type) where
  answer : Except SessionError α
  state : σ
  events : List Event

end StatelessSession
