import StatelessSession.Text.Decimal

/-!
# JSON texts as they are written

`Written` is the syntax tree of a strict JSON text before any reading of its numerals, duplicate
keys or characters: it keeps each numeral's digits, every field in order, and for a string whether
its escapes denote characters at all. `Written.parse?` accepts exactly one value with white space
around it. What a field means is decided by the readers of options and of JSON values.
-/

namespace StatelessSession.Json

/-! ## 1. Syntax trees -/

/-- A JSON numeral, digit by digit. An exponent carries whether it is negative. -/
structure Numeral where
  negative : Bool
  whole : List Char
  fraction : List Char
  exponent : Option (Bool × List Char)
deriving DecidableEq, Repr

/-- Whether a numeral has neither a fraction nor an exponent. -/
def Numeral.isWhole (n : Numeral) : Bool := n.fraction.isEmpty && n.exponent.isNone

/-- A JSON text. A string is `none` if one of its escapes is half of a surrogate pair on its own. -/
inductive Written where
  | null
  | bool (b : Bool)
  | number (n : Numeral)
  | string (s : Option String)
  | array (items : List Written)
  | object (fields : List (Option String × Written))

/-! ## 2. Strings -/

/-- One unit of a string: a character as such, or a sixteen-bit number from an escape. -/
inductive StringUnit where
  | char (c : Char)
  | escaped (n : Nat)

/-- The value of a hexadecimal digit. -/
def hexDigit? (c : Char) : Option Nat :=
  if '0' ≤ c && c ≤ '9' then some (c.toNat - 48)
  else if 'a' ≤ c && c ≤ 'f' then some (c.toNat - 87)
  else if 'A' ≤ c && c ≤ 'F' then some (c.toNat - 55)
  else none

/-- The value of four hexadecimal digits. -/
def hexQuad? (a b c d : Char) : Option Nat := do
  return ((← hexDigit? a) * 16 + (← hexDigit? b)) * 256 + ((← hexDigit? c) * 16 + (← hexDigit? d))

/-- The character after a backslash, other than for a numbered escape. -/
def shortEscape? : Char → Option Char
  | '"' => some '"'
  | '\\' => some '\\'
  | '/' => some '/'
  | 'b' => some '\x08'
  | 'f' => some '\x0c'
  | 'n' => some '\n'
  | 'r' => some '\r'
  | 't' => some '\t'
  | _ => none

/-- Puts a unit before what was read after it. -/
def consUnit (u : StringUnit) (p : List StringUnit × List Char) : List StringUnit × List Char :=
  (u :: p.1, p.2)

/-- The units up to the closing quote, and the text after it. Control characters are refused. -/
def stringUnits? : List Char → Option (List StringUnit × List Char)
  | [] => none
  | '"' :: r => some ([], r)
  | '\\' :: 'u' :: a :: b :: c :: d :: r =>
    match hexQuad? a b c d with
    | some n => (stringUnits? r).map (consUnit (.escaped n))
    | none => none
  | '\\' :: e :: r =>
    match shortEscape? e with
    | some c => (stringUnits? r).map (consUnit (.char c))
    | none => none
  | c :: r => if c.toNat < 0x20 || c = '\\' then none else (stringUnits? r).map (consUnit (.char c))

/-- Whether a number is the first half of a surrogate pair. -/
def isHighHalf (n : Nat) : Bool := 0xD800 ≤ n && n ≤ 0xDBFF

/-- Whether a number is the second half of a surrogate pair. -/
def isLowHalf (n : Nat) : Bool := 0xDC00 ≤ n && n ≤ 0xDFFF

/-- The character of a surrogate pair. -/
def joinHalves (hi lo : Nat) : Char := Char.ofNat (0x10000 + (hi - 0xD800) * 0x400 + (lo - 0xDC00))

/-- The characters of a string; `none` if half of a pair stands alone. -/
def joinUnits? : List StringUnit → Option (List Char)
  | [] => some []
  | .char c :: r => (joinUnits? r).map (c :: ·)
  | .escaped n :: .escaped m :: r =>
    if isHighHalf n then
      if isLowHalf m then (joinUnits? r).map (joinHalves n m :: ·) else none
    else if isLowHalf n then none
    else (joinUnits? (.escaped m :: r)).map (Char.ofNat n :: ·)
  | .escaped n :: r =>
    if isHighHalf n || isLowHalf n then none else (joinUnits? r).map (Char.ofNat n :: ·)

/-- A string after its opening quote. -/
def string? (s : List Char) : Option (Option String × List Char) :=
  (stringUnits? s).map fun p => ((joinUnits? p.1).map String.ofList, p.2)

/-! ## 3. Numerals -/

/-- The fraction of a numeral, with the point in front; no point, no fraction. -/
def fraction? : List Char → Option (List Char × List Char)
  | '.' :: r =>
    let ds := r.takeWhile Text.isDigit
    if ds.isEmpty then none else some (ds, r.dropWhile Text.isDigit)
  | s => some ([], s)

/-- The digits of an exponent, after its sign. -/
def exponentDigits? (negative : Bool) (s : List Char) :
    Option (Option (Bool × List Char) × List Char) :=
  let ds := s.takeWhile Text.isDigit
  if ds.isEmpty then none else some (some (negative, ds), s.dropWhile Text.isDigit)

/-- The exponent of a numeral, if there is one. -/
def exponent? : List Char → Option (Option (Bool × List Char) × List Char)
  | 'e' :: '-' :: r => exponentDigits? true r
  | 'e' :: '+' :: r => exponentDigits? false r
  | 'e' :: r => exponentDigits? false r
  | 'E' :: '-' :: r => exponentDigits? true r
  | 'E' :: '+' :: r => exponentDigits? false r
  | 'E' :: r => exponentDigits? false r
  | s => some (none, s)

/-- A numeral after its sign. A leading zero stands alone. -/
def numeral? (negative : Bool) (s : List Char) : Option (Numeral × List Char) := do
  let whole := s.takeWhile Text.isDigit
  if whole.isEmpty || (whole.head? == some '0' && whole.length != 1) then none
  else
    let (frac, s) ← fraction? (s.dropWhile Text.isDigit)
    let (expo, s) ← exponent? s
    return (⟨negative, whole, frac, expo⟩, s)

/-! ## 4. Values -/

/-- The white space of JSON. -/
def isSpace (c : Char) : Bool := c = ' ' || c = '\t' || c = '\n' || c = '\r'

/-- A text without its leading JSON white space. -/
def skipSpace (s : List Char) : List Char := s.dropWhile isSpace

/-- The text after a fixed word. -/
def after? (word : List Char) (s : List Char) : Option (List Char) :=
  if word.isPrefixOf s then some (s.drop word.length) else none

mutual

/-- A value at the front of a text, and the text after it. The number bounds the depth of the
    calls, each of which reads at least one character. -/
def value? : Nat → List Char → Option (Written × List Char)
  | 0, _ => none
  | fuel + 1, s =>
    match skipSpace s with
    | '"' :: r => (string? r).map fun p => (.string p.1, p.2)
    | '[' :: r =>
      match skipSpace r with
      | ']' :: r => some (.array [], r)
      | r => (items? fuel r).map fun p => (.array p.1, p.2)
    | '\x7b' :: r =>
      match skipSpace r with
      | '\x7d' :: r => some (.object [], r)
      | r => (fields? fuel r).map fun p => (.object p.1, p.2)
    | 'n' :: r => (after? "ull".toList r).map fun r => (.null, r)
    | 't' :: r => (after? "rue".toList r).map fun r => (.bool true, r)
    | 'f' :: r => (after? "alse".toList r).map fun r => (.bool false, r)
    | '-' :: r => (numeral? true r).map fun p => (.number p.1, p.2)
    | r => (numeral? false r).map fun p => (.number p.1, p.2)

/-- The items of an array that is not empty, up to its closing bracket. -/
def items? : Nat → List Char → Option (List Written × List Char)
  | 0, _ => none
  | fuel + 1, s =>
    match value? fuel s with
    | none => none
    | some (v, s) =>
      match skipSpace s with
      | ',' :: r => (items? fuel r).map fun p => (v :: p.1, p.2)
      | ']' :: r => some ([v], r)
      | _ => none

/-- The fields of an object that is not empty, up to its closing brace. -/
def fields? : Nat → List Char → Option (List (Option String × Written) × List Char)
  | 0, _ => none
  | fuel + 1, s =>
    match skipSpace s with
    | '"' :: r =>
      match string? r with
      | none => none
      | some (key, s) =>
        match skipSpace s with
        | ':' :: r =>
          match value? fuel r with
          | none => none
          | some (v, s) =>
            match skipSpace s with
            | ',' :: r => (fields? fuel r).map fun p => ((key, v) :: p.1, p.2)
            | '\x7d' :: r => some ([(key, v)], r)
            | _ => none
        | _ => none
    | _ => none

end

/-- The JSON text that `s` is, with nothing but white space around it. -/
def Written.parse? (s : String) : Option Written :=
  match value? (s.toList.length + 1) s.toList with
  | some (v, r) => if (skipSpace r).isEmpty then some v else none
  | none => none

end StatelessSession.Json
