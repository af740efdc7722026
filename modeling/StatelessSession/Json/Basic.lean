import StatelessSession.Json.Number
import StatelessSession.Text.Quoted

/-!
# JSON values

A `Json` is a JSON text read: numerals are numbers, and the fields of an object are sorted by key
with the last of equal keys kept. `Json.compact` writes one without any white space, `Json.shown`
is its form in a message, and `Json.same` is equality with doubles compared as numbers.
-/

namespace StatelessSession

/-- A JSON value. The fields of an object ascend strictly by key. -/
inductive Json where
  | null
  | bool (b : Bool)
  | number (n : Json.Number)
  | string (s : String)
  | array (items : List Json)
  | object (fields : List (String × Json))

namespace Json

/-! ## 1. Reading -/

/-- Puts a field where its key belongs; one with the same key is replaced. -/
def insertField (key : String) (v : Json) : List (String × Json) → List (String × Json)
  | [] => [(key, v)]
  | (k, w) :: r =>
    if key < k then (key, v) :: (k, w) :: r
    else if key = k then (key, v) :: r
    else (k, w) :: insertField key v r

mutual

/-- The value that a text denotes; `none` for a numeral that is too large, or half of a surrogate
    pair on its own. -/
def ofWritten? : Written → Option Json
  | .null => some .null
  | .bool b => some (.bool b)
  | .number n => n.number?.map .number
  | .string s => s.map .string
  | .array items => (ofItems? items).map .array
  | .object fields => (ofFields? [] fields).map .object

/-- The items of an array, in order. -/
def ofItems? : List Written → Option (List Json)
  | [] => some []
  | v :: r =>
    match ofWritten? v with
    | none => none
    | some v => (ofItems? r).map (v :: ·)

/-- The fields of an object, put one after the other into those before. -/
def ofFields? (done : List (String × Json)) :
    List (Option String × Written) → Option (List (String × Json))
  | [] => some done
  | (key, v) :: r =>
    match key, ofWritten? v with
    | some key, some v => ofFields? (insertField key v done) r
    | _, _ => none

end

/-- The value that a JSON text denotes. -/
def parse? (s : String) : Option Json := (Written.parse? s).bind ofWritten?

/-! ## 2. Writing -/

/-- How one character is written in a JSON string. -/
def escapeChar (c : Char) : List Char :=
  if c = '"' then ['\\', '"']
  else if c = '\\' then ['\\', '\\']
  else if c = '\x08' then ['\\', 'b']
  else if c = '\x0c' then ['\\', 'f']
  else if c = '\n' then ['\\', 'n']
  else if c = '\r' then ['\\', 'r']
  else if c = '\t' then ['\\', 't']
  else if c.toNat < 0x20 then
    ['\\', 'u', '0', '0', Nat.digitChar (c.toNat / 16), Nat.digitChar (c.toNat % 16)]
  else [c]

/-- A JSON string. -/
def stringText (s : String) : List Char := '"' :: s.toList.flatMap escapeChar ++ ['"']

/-- Pieces with commas between them. -/
def commaSeparated (pieces : List (List Char)) : List Char := List.intercalate [','] pieces

mutual

/-- A value without white space. -/
def chars : Json → List Char
  | .null => ['n', 'u', 'l', 'l']
  | .bool b => (Text.shownBool b).toList
  | .number n => n.text
  | .string s => stringText s
  | .array items => '[' :: commaSeparated (itemChars items) ++ [']']
  | .object fields => '\x7b' :: commaSeparated (fieldChars fields) ++ ['\x7d']

/-- Each item of an array. -/
def itemChars : List Json → List (List Char)
  | [] => []
  | v :: r => chars v :: itemChars r

/-- Each field of an object. -/
def fieldChars : List (String × Json) → List (List Char)
  | [] => []
  | (key, v) :: r => (stringText key ++ ':' :: chars v) :: fieldChars r

end

/-- The compact text of a value. -/
def compact (j : Json) : String := String.ofList j.chars

mutual

/-- A value in a message. -/
def shown : Json → String
  | .null => "Null"
  | .bool b => "Bool(" ++ Text.shownBool b ++ ")"
  | .number n => "Number(" ++ String.ofList n.text ++ ")"
  | .string s => "String(" ++ Text.quoted s ++ ")"
  | .array items => "Array " ++ Text.bracketed (shownItems items)
  | .object fields => "Object \x7b" ++ String.intercalate ", " (shownFields fields) ++ "\x7d"

/-- Each item of an array in a message. -/
def shownItems : List Json → List String
  | [] => []
  | v :: r => shown v :: shownItems r

/-- Each field of an object in a message. -/
def shownFields : List (String × Json) → List String
  | [] => []
  | (key, v) :: r => (Text.quoted key ++ ": " ++ shown v) :: shownFields r

end

/-! ## 3. Equality -/

mutual

/-- Whether two values are equal. -/
def same : Json → Json → Bool
  | .null, .null => true
  | .bool a, .bool b => a == b
  | .number m, .number n => m.same n
  | .string s, .string t => s == t
  | .array a, .array b => sameItems a b
  | .object a, .object b => sameFields a b
  | _, _ => false

/-- Whether two arrays have equal items. -/
def sameItems : List Json → List Json → Bool
  | [], [] => true
  | v :: r, w :: t => same v w && sameItems r t
  | _, _ => false

/-- Whether two objects have equal fields. -/
def sameFields : List (String × Json) → List (String × Json) → Bool
  | [], [] => true
  | (k, v) :: r, (l, w) :: t => k == l && same v w && sameFields r t
  | _, _ => false

end

end Json

end StatelessSession
