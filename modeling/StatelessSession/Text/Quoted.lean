import StatelessSession.Text.Invisible

/-!
# Quoted text

The form in which messages quote a piece of text: double quotes around it, a backslash before a
double quote or a backslash, short forms for NUL, tab, line feed and carriage return, and the code
point in braces for every other character without a visible form. The record form
(`record`, `openRecord`) shows a value by its field names.
-/

namespace StatelessSession.Text

/-! ## 1. Quoting -/

/-- How one character is written inside quotes. -/
def escapeChar (c : Char) : List Char :=
  if c = '\x00' then ['\\', '0']
  else if c = '\t' then ['\\', 't']
  else if c = '\n' then ['\\', 'n']
  else if c = '\r' then ['\\', 'r']
  else if c = '"' then ['\\', '"']
  else if c = '\\' then ['\\', '\\']
  else if isInvisible c then ['\\', 'u', '\x7b'] ++ Nat.toDigits 16 c.toNat ++ ['\x7d']
  else [c]

/-- A text in double quotes. -/
def quoted (s : String) : String :=
  String.ofList ('"' :: s.toList.flatMap escapeChar ++ ['"'])

/-- A list of texts in brackets, separated by commas. -/
def bracketed (items : List String) : String := "[" ++ String.intercalate ", " items ++ "]"

/-! ## 2. Records -/

/-- Fields as `name: shown`, separated by commas. -/
def fieldList (fields : List (String × String)) : String :=
  String.intercalate ", " (fields.map fun f => f.1 ++ ": " ++ f.2)

/-- A value shown with all its fields. -/
def record (name : String) (fields : List (String × String)) : String :=
  name ++ " \x7b " ++ fieldList fields ++ " \x7d"

/-- A value shown with some of its fields; the dots say that there are more. -/
def openRecord (name : String) (fields : List (String × String)) : String :=
  name ++ " \x7b " ++ fieldList fields ++ ", .. \x7d"

/-- An optional value shown by whether it is there. -/
def shownOption {α : Type} (shown : α → String) : Option α → String
  | none => "None"
  | some a => "Some(" ++ shown a ++ ")"

/-- A truth value as a word. -/
def shownBool (b : Bool) : String := if b then "true" else "false"

end StatelessSession.Text
