import StatelessSession.Json.Basic
import StatelessSession.Sql.StringLiteral
import StatelessSession.Value.Timestamp

/-!
# Values

A `Value` is a cell of a result row or a parameter of a statement. `Value.literal` writes it as an
SQL literal, `Value.shown` as it appears in a message, and `Value.same` is equality with floats
compared as numbers.
-/

namespace StatelessSession

/-- A cell of a row or a parameter of a statement. -/
inductive Value where
  | int (n : Int64)
  | float (x : Double)
  | text (s : String)
  | bool (b : Bool)
  | timestamp (t : Timestamp)
  | null
  | json (j : Json)
  | blob (bytes : List UInt8)

namespace Value

/-! ## 1. Views -/

/-- Whether the value is the absent one. -/
def isNull : Value → Bool
  | .null => true
  | _ => false

/-- The integer that the value is. -/
def asInt : Value → Option Int64
  | .int n => some n
  | _ => none

/-- The text that the value is. -/
def asText : Value → Option String
  | .text s => some s
  | _ => none

/-- The truth value that the value is; the integers one and zero count as such. -/
def asBool : Value → Option Bool
  | .bool b => some b
  | .int n => if n = 1 then some true else if n = 0 then some false else none
  | _ => none

/-! ## 2. SQL literals -/

/-- The hexadecimal digits of a byte string. -/
def hexText (bytes : List UInt8) : List Char := bytes.flatMap Text.upperHexByte

/-- The value as an SQL literal. -/
def literal : Value → List Char
  | .int n => Text.intDigits n.toInt
  | .float x => x.sqlText
  | .text s => Sql.StringLiteral.quote s.toList
  | .bool b => (Text.shownBool b).toList
  | .timestamp t => Sql.StringLiteral.quote t.body
  | .null => "NULL".toList
  | .json j => Sql.StringLiteral.quote j.chars
  | .blob bytes => "unhex('".toList ++ hexText bytes ++ "')".toList

/-- The value as an SQL literal. -/
def sqlLiteral (v : Value) : String := String.ofList v.literal

/-! ## 3. Messages and equality -/

/-- The value in a message. -/
def shown : Value → String
  | .int n => "Int(" ++ String.ofList (Text.intDigits n.toInt) ++ ")"
  | .float x => "Float(" ++ String.ofList x.messageText ++ ")"
  | .text s => "Text(" ++ Text.quoted s ++ ")"
  | .bool b => "Bool(" ++ Text.shownBool b ++ ")"
  | .timestamp t => "Timestamp(" ++ t.shown ++ ")"
  | .null => "Null"
  | .json j => "JSON(" ++ j.shown ++ ")"
  | .blob bytes => "Blob(" ++ Text.bracketed (bytes.map fun b => toString b.toNat) ++ ")"

/-- Whether two values are equal. -/
def same : Value → Value → Bool
  | .int m, .int n => m == n
  | .float x, .float y => x.same y
  | .text s, .text t => s == t
  | .bool a, .bool b => a == b
  | .timestamp s, .timestamp t => s == t
  | .null, .null => true
  | .json j, .json k => j.same k
  | .blob a, .blob b => a == b
  | _, _ => false

/-- Whether two lists have equal items. -/
def sameList : List Value → List Value → Bool
  | [], [] => true
  | v :: r, w :: t => v.same w && sameList r t
  | _, _ => false

/-- Whether two tables have equal rows. -/
def sameRows : List (List Value) → List (List Value) → Bool
  | [], [] => true
  | v :: r, w :: t => sameList v w && sameRows r t
  | _, _ => false

end Value

end StatelessSession
