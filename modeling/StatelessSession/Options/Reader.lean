import StatelessSession.Json.Written
import StatelessSession.Options.Basic

/-!
# Options from a descriptor

A descriptor is a JSON text, either an object with named fields or an array of the fields in order.
An object may have fields of other names, which are ignored, but none of its own twice; an array may
end early where the rest have defaults, but has no extra items. `null` stands only for a value that
may be absent, and a port is a whole number. Any breach refuses the whole text.
-/

namespace StatelessSession

open Json (Written)

namespace Descriptor

/-! ## 1. Fields by name or by position -/

/-- The values of the named fields, in the order of `names`. -/
abbrev Fields := List (Option Written)

/-- Whether a key names one of some fields. -/
def isField (names : List String) (f : Option String × Written) : Bool := f.1.any (names.contains ·)

/-- The value of a field of an object. -/
def valueOf (fields : List (Option String × Written)) (name : String) : Option Written :=
  (fields.find? fun f => f.1 == some name).map Prod.snd

/-- Whether no key of some fields occurs twice. -/
def distinctKeys : List (Option String × Written) → Bool
  | [] => true
  | f :: r => !r.any (fun g => g.1 == f.1) && distinctKeys r

/-- The values of the named fields of a structure. -/
def fields? (names : List String) : Written → Option Fields
  | .object fields =>
    if fields.all (·.1.isSome) && distinctKeys (fields.filter (isField names)) then
      some (names.map (valueOf fields))
    else none
  | .array items =>
    if items.length ≤ names.length then
      some (items.map some ++ List.replicate (names.length - items.length) none)
    else none
  | _ => none

/-! ## 2. Values -/

/-- A text. -/
def string? : Written → Option String
  | .string s => s
  | _ => none

/-- A truth value. -/
def bool? : Written → Option Bool
  | .bool b => some b
  | _ => none

/-- A value that may be null. -/
def nullable? {α : Type} (read : Written → Option α) : Written → Option (Option α)
  | .null => some none
  | w => (read w).map some

/-- A port: a whole numeral up to 65535. -/
def port? : Written → Option UInt16
  | .number n =>
    let v := Text.value n.whole
    if n.isWhole && !n.negative && v < 65536 then some (UInt16.ofNat v) else none
  | _ => none

/-- A protocol: its name, or an object that gives the name a null. -/
def protocol? : Written → Option Protocol
  | .string (some s) => Protocol.ofScheme? s
  | .object [(some s, .null)] => Protocol.ofScheme? s
  | _ => none

/-- A field that has to be there. -/
def required {α : Type} (read : Written → Option α) (f : Option Written) : Option α := f.bind read

/-- A field that has a default. -/
def optional {α : Type} (standard : α) (read : Written → Option α) : Option Written → Option α
  | none => some standard
  | some w => read w

/-! ## 3. The two structures -/

/-- The names of the fields of a node. -/
def nodeNames : List String := ["host", "port", "protocol"]

/-- A node. -/
def node? (w : Written) : Option Node :=
  match fields? nodeNames w with
  | some [host, port, protocol] => do
    return { host := ← required string? host
             port := ← optional none (nullable? port?) port
             protocol := ← optional .http protocol? protocol }
  | _ => none

/-- The names of the fields of options. -/
def optionNames : List String :=
  ["node", "database", "user", "password", "compliant", "server_time_zone", "server_version",
    "use_server_time_zone", "use_time_zone", "client_name", "compress"]

/-- Options. -/
def options? (w : Written) : Option Options :=
  match fields? optionNames w with
  | some [node, database, user, password, compliant, serverTimeZone, serverVersion,
      useServerTimeZone, useTimeZone, clientName, compress] => do
    return { node := ← required node? node
             database := ← optional "default" string? database
             user := ← optional "default" string? user
             password := ← optional none (nullable? string?) password
             compliant := ← optional true bool? compliant
             serverTimeZone := ← optional none (nullable? string?) serverTimeZone
             serverVersion := ← optional none (nullable? string?) serverVersion
             useServerTimeZone := ← optional true bool? useServerTimeZone
             useTimeZone := ← optional none (nullable? string?) useTimeZone
             clientName := ← optional none (nullable? string?) clientName
             compress := ← optional true bool? compress }
  | _ => none

end Descriptor

/-- The options that a descriptor describes. -/
def Options.parse? (s : String) : Option Options := (Written.parse? s).bind Descriptor.options?

end StatelessSession
