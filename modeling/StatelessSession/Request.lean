import StatelessSession.ClientInfo
import StatelessSession.Options.Basic
import StatelessSession.Value.Basic

/-!
# Requests

A `Request` is what a transport is handed: the node, the settings that all requests of a session
share, and what this one asks for. Requests are values, so a copy is the request itself and a change
makes another request.
-/

namespace StatelessSession

/-! ## 1. Query ids -/

/-- What a statement and the log know a query by. -/
inductive QueryId where
  /-- The id with a given place in the order in which ids are handed out. -/
  | issued (number : Nat)
  /-- An id that a caller brings along. -/
  | given (text : String)
deriving DecidableEq, Repr

/-- The text of a query id. -/
def QueryId.display : QueryId → String
  | .issued n => "q" ++ toString n
  | .given s => s

/-! ## 2. Settings -/

/-- How the server writes its answer. -/
inductive Format where
  | rowBinary
  | tabSeparated
deriving DecidableEq, Repr

/-- The name of a format. -/
def Format.name : Format → String
  | .rowBinary => "RowBinaryWithNamesAndTypes"
  | .tabSeparated => "TabSeparatedWithNamesAndTypes"

/-- What travels with every request of a session. -/
structure Settings where
  database : Option String
  user : String
  password : Option String
  format : Format
  asynchronous : Bool
  compress : Bool
  decompress : Bool
  serverTimeZone : Option String
  serverVersion : Option String
  /-- Milliseconds; without a timeout the transport decides. -/
  timeout : Option Nat
  clientInfo : ClientInfo
deriving DecidableEq, Repr

/-! ## 3. Requests -/

/-- A request to one node. -/
structure Request where
  node : Node
  settings : Settings
  sql : Option String
  queryId : Option QueryId
  write : Bool
  /-- The rows of the `input` table of a write. -/
  input : List (List Value)

namespace Request

/-- The request that a session with these options starts from. -/
def ofOptions (o : Options) : Request :=
  { node := o.node
    settings :=
      { database := some o.database, user := o.user, password := o.password, format := .rowBinary,
        asynchronous := true, compress := o.compress, decompress := o.compress,
        serverTimeZone := o.serverTimeZone, serverVersion := o.serverVersion, timeout := none,
        clientInfo := ClientInfo.empty.write .applicationName o.clientName }
    sql := none, queryId := none, write := false, input := [] }

/-- The request as a write. -/
def asWrite (r : Request) : Request := { r with write := true }

/-- The request on another database. -/
def onDatabase (r : Request) (name : String) : Request :=
  { r with settings := { r.settings with database := some name } }

/-- The request with an SQL text and an id. -/
def withQuery (r : Request) (sql : String) (queryId : Option QueryId) : Request :=
  { r with sql := some sql, queryId }

/-- The request with another answer format. -/
def withFormat (r : Request) (format : Format) : Request :=
  { r with settings := { r.settings with format } }

/-- The request with another mode of waiting. -/
def withAsync (r : Request) (asynchronous : Bool) : Request :=
  { r with settings := { r.settings with asynchronous } }

/-- The request with compression of either direction on or off. -/
def withCompression (r : Request) (compress decompress : Bool) : Request :=
  { r with settings := { r.settings with compress, decompress } }

/-- The request with a timeout in milliseconds, or none. -/
def withTimeout (r : Request) (timeout : Option Nat) : Request :=
  { r with settings := { r.settings with timeout } }

/-- The request with rows for its `input` table. -/
def withInput (r : Request) (input : List (List Value)) : Request := { r with input }

/-- The request with zone and version of the server. -/
def withServerInfo (r : Request) (timeZone version : String) : Request :=
  { r with settings :=
    { r.settings with serverTimeZone := some timeZone, serverVersion := some version } }

/-- The request with other client info. -/
def withClientInfo (r : Request) (clientInfo : ClientInfo) : Request :=
  { r with settings := { r.settings with clientInfo } }

/-- Whether two requests are equal, floats of the input compared as numbers. -/
def same (r s : Request) : Bool :=
  r.node == s.node && r.settings == s.settings && r.sql == s.sql && r.queryId == s.queryId &&
    r.write == s.write && Value.sameRows r.input s.input

end Request

end StatelessSession
