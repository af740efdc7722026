import StatelessSession.Levels
import StatelessSession.Text.Blank
import StatelessSession.Text.Quoted

/-!
# Connection options

`Options` describe a session to be opened: the node, who connects, and what is known about the
server beforehand. `Options.validate` is the check before any traffic; a `Setting` is one step of
building options up from a host.
-/

namespace StatelessSession

/-! ## 1. Nodes -/

/-- The protocol that a node speaks. -/
inductive Protocol where
  | http
  | grpc
  | tcp
deriving DecidableEq, Repr

namespace Protocol

/-- All protocols. -/
def all : List Protocol := [.http, .grpc, .tcp]

/-- The name in addresses, descriptors and command-line arguments. -/
def scheme : Protocol → String
  | .http => "http"
  | .grpc => "grpc"
  | .tcp => "tcp"

/-- The name in messages. -/
def name : Protocol → String
  | .http => "Http"
  | .grpc => "Grpc"
  | .tcp => "Tcp"

/-- The port of a node that names none. -/
def defaultPort : Protocol → UInt16
  | .http => 8123
  | .grpc => 9100
  | .tcp => 9000

/-- The protocol with a name in a descriptor. -/
def ofScheme? (s : String) : Option Protocol := findByName scheme all false s

/-- The protocol that a command-line argument names. -/
def ofArgument? (ignoreCase : Bool) (s : String) : Option Protocol :=
  findByName scheme all ignoreCase s

end Protocol

/-- A server. -/
structure Node where
  host : String
  port : Option UInt16
  protocol : Protocol
deriving DecidableEq, Repr

namespace Node

/-- The node on a host, at the default port of the default protocol. -/
def ofHost (host : String) : Node := ⟨host, none, .http⟩

/-- The port that is used. -/
def effectivePort (n : Node) : UInt16 := n.port.getD n.protocol.defaultPort

/-- The address of a node. -/
def display (n : Node) : String :=
  n.protocol.scheme ++ "://" ++ n.host ++ ":" ++ toString n.effectivePort.toNat

/-- A node in a message. -/
def shown (n : Node) : String :=
  Text.record "Node"
    [("host", Text.quoted n.host),
      ("port", Text.shownOption (fun p => toString (UInt16.toNat p)) n.port),
      ("protocol", n.protocol.name)]

end Node

/-! ## 2. Options -/

/-- What a session is opened with. -/
structure Options where
  node : Node
  database : String
  user : String
  password : Option String
  /-- Whether transaction features that do not exist are accepted and logged. -/
  compliant : Bool
  serverTimeZone : Option String
  serverVersion : Option String
  useServerTimeZone : Bool
  /-- The zone of the client, if that of the server is not used. -/
  useTimeZone : Option String
  clientName : Option String
  compress : Bool
deriving DecidableEq, Repr

/-- Why options cannot be used. -/
inductive OptionsFault where
  | hostRequired
  | clientZoneRequired
deriving DecidableEq, Repr

namespace Options

/-- The options for a node with nothing else said. -/
def ofNode (node : Node) : Options :=
  { node, database := "default", user := "default", password := none, compliant := true,
    serverTimeZone := none, serverVersion := none, useServerTimeZone := true,
    useTimeZone := none, clientName := none, compress := true }

/-- Zone and version of the server, if both are known beforehand. -/
def serverInfo? (o : Options) : Option (String × String) :=
  match o.serverTimeZone, o.serverVersion with
  | some z, some v => some (z, v)
  | _, _ => none

/-- Whether zone and version of the server are known beforehand. -/
def hasServerInfo (o : Options) : Bool := o.serverInfo?.isSome

/-- The check before any traffic. -/
def validate (o : Options) : Except OptionsFault Unit :=
  if Text.isBlankText o.node.host then .error .hostRequired
  else if !o.useServerTimeZone && o.useTimeZone.all Text.isBlankText then .error .clientZoneRequired
  else .ok ()

/-- Options in a message. The password is not shown, only whether there is one. -/
def shown (o : Options) : String :=
  Text.record "ConnectionOptions"
    [("node", o.node.shown), ("database", Text.quoted o.database), ("user", Text.quoted o.user),
      ("password", Text.shownOption (fun _ => Text.quoted "<redacted>") o.password),
      ("compliant", Text.shownBool o.compliant),
      ("server_time_zone", Text.shownOption Text.quoted o.serverTimeZone),
      ("server_version", Text.shownOption Text.quoted o.serverVersion),
      ("use_server_time_zone", Text.shownBool o.useServerTimeZone),
      ("use_time_zone", Text.shownOption Text.quoted o.useTimeZone),
      ("client_name", Text.shownOption Text.quoted o.clientName),
      ("compress", Text.shownBool o.compress)]

end Options

/-! ## 3. Building options -/

/-- One step of building options. -/
inductive Setting where
  | port (n : UInt16)
  | protocol (p : Protocol)
  | database (name : String)
  | credentials (user password : String)
  | compliant (b : Bool)
  | serverInfo (timeZone version : String)
  | clientTimeZone (name : String)
  | clientName (name : String)
  | compress (b : Bool)
deriving DecidableEq, Repr

namespace Options

/-- The options after one step. -/
def set (o : Options) : Setting → Options
  | .port n => { o with node := { o.node with port := some n } }
  | .protocol p => { o with node := { o.node with protocol := p } }
  | .database name => { o with database := name }
  | .credentials user password => { o with user, password := some password }
  | .compliant b => { o with compliant := b }
  | .serverInfo timeZone version =>
    { o with serverTimeZone := some timeZone, serverVersion := some version }
  | .clientTimeZone name => { o with useServerTimeZone := false, useTimeZone := some name }
  | .clientName name => { o with clientName := some name }
  | .compress b => { o with compress := b }

/-- The options for a host after some steps. -/
def build (host : String) (settings : List Setting) : Options :=
  settings.foldl set (ofNode (Node.ofHost host))

end Options

end StatelessSession
