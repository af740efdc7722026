import StatelessSession.Text.Blank
import StatelessSession.Text.Quoted

/-!
# Column structures

A structure such as `a Int32, b Nullable(String)` declares the columns of an `input` table.
`items` cuts it at the commas outside parentheses and quotes; `ofItem` reads a name, bare or quoted,
and a type; `ofStructure` does both. A backslash inside quotes protects the next character.
-/

namespace StatelessSession.Sql

/-- A column of an `input` table: its name and its type as written. -/
structure Column where
  name : String
  type : String
deriving DecidableEq, Repr

/-- What can be wrong with a structure. -/
inductive ColumnFault where
  /-- A closing parenthesis without an opening one. -/
  | overclosed (structureText : String)
  /-- A parenthesis or a quote that is never closed. -/
  | unclosed (structureText : String)
  | noColumns
  | emptyColumn
  | unclosedName (item : String)
  | nameOrTypeMissing (item : String)
deriving DecidableEq, Repr

/-- The fault in words. -/
def ColumnFault.message : ColumnFault → String
  | .overclosed s => "Unbalanced parentheses in column list " ++ Text.quoted s
  | .unclosed s => "Unbalanced quotes or parentheses in column list " ++ Text.quoted s
  | .noColumns => "Column list of input() must not be empty"
  | .emptyColumn => "Empty column definition in input()"
  | .unclosedName s => "Unterminated column name in " ++ Text.quoted s
  | .nameOrTypeMissing s => "Column definition " ++ Text.quoted s ++ " needs a name and a type"

namespace Column

/-- Whether the type admits nulls. -/
def isNullable (c : Column) : Bool := "Nullable(".toList.isPrefixOf c.type.toList

/-- Name and type with a colon between them. -/
def display (c : Column) : String := c.name ++ ": " ++ c.type

/-- A column in a message. -/
def shown (c : Column) : String :=
  Text.record "ColumnSpec" [("name", Text.quoted c.name), ("data_type", Text.quoted c.type)]

/-! ## 1. Cutting at commas -/

/-- Where in a structure a reader stands: outside quotes, inside a pair of them, or after a
    backslash inside them; and how many parentheses are open. They are counted in 32 bits with a
    sign, and after the largest number comes the smallest. -/
inductive Place where
  | plain (depth : Int32)
  | inQuotes (depth : Int32) (quote : Char)
  | afterBackslash (depth : Int32) (quote : Char)
deriving DecidableEq, Repr

/-- The three quotes of a structure. -/
def isQuote (c : Char) : Bool := c = '\'' || c = '"' || c = '\x60'

/-- How a structure can fail to balance. -/
inductive Imbalance where
  | overclosed
  | unclosed
deriving DecidableEq, Repr

/-- What the next character does: moves on, or ends the item, or closes what is not open. -/
inductive Move where
  | go (next : Place)
  | cut
  | refuse
deriving DecidableEq, Repr

/-- The effect of one character. -/
def Place.move : Place → Char → Move
  | .afterBackslash depth quote, _ => .go (.inQuotes depth quote)
  | .inQuotes depth quote, c =>
    if c = '\\' then .go (.afterBackslash depth quote)
    else if c = quote then .go (.plain depth)
    else .go (.inQuotes depth quote)
  | .plain depth, c =>
    if isQuote c then .go (.inQuotes depth c)
    else if c = '(' then .go (.plain (depth + 1))
    else if c = ')' then
      if depth - 1 < 0 then .refuse else .go (.plain (depth - 1))
    else if c = ',' ∧ depth = 0 then .cut
    else .go (.plain depth)

/-- Puts a character before the first of some items. -/
def prependChar (c : Char) (p : List Char × List (List Char)) : List Char × List (List Char) :=
  (c :: p.1, p.2)

/-- Ends an item before the first of some items. -/
def cutBefore (p : List Char × List (List Char)) : List Char × List (List Char) :=
  ([], p.1 :: p.2)

/-- The rest of the item that a reader stands in, and the items after it. -/
def itemsFrom : Place → List Char → Except Imbalance (List Char × List (List Char))
  | place, [] => if place = .plain 0 then .ok ([], []) else .error .unclosed
  | place, c :: r =>
    match place.move c with
    | .go next => (itemsFrom next r).map (prependChar c)
    | .cut => (itemsFrom (.plain 0) r).map cutBefore
    | .refuse => .error .overclosed

/-- The items of a structure, cut at the commas outside parentheses and quotes. -/
def items (s : List Char) : Except Imbalance (List (List Char)) :=
  (itemsFrom (.plain 0) s).map fun p => p.1 :: p.2

/-! ## 2. One column -/

/-- A column from its name and what follows the name. -/
def ofParts (item name rest : List Char) : Except ColumnFault Column :=
  let type := Text.trim rest
  if name.isEmpty || type.isEmpty then .error (.nameOrTypeMissing (String.ofList item))
  else .ok ⟨String.ofList name, String.ofList type⟩

/-- A column from an item without blanks at its ends. A quoted name ends at the next such quote,
    a bare one at the first blank. -/
def ofTrimmed (item : List Char) : Except ColumnFault Column :=
  match item with
  | [] => .error .emptyColumn
  | c :: r =>
    if c = '\x60' ∨ c = '"' then
      match r.dropWhile (· != c) with
      | [] => .error (.unclosedName (String.ofList item))
      | _ :: rest => ofParts item (r.takeWhile (· != c)) rest
    else
      ofParts item (item.takeWhile (!Text.isBlank ·)) (item.dropWhile (!Text.isBlank ·))

/-- A column from an item. -/
def ofItem (item : List Char) : Except ColumnFault Column := ofTrimmed (Text.trim item)

/-! ## 3. All columns -/

/-- The columns of all items, or the first fault. -/
def ofItems : List (List Char) → Except ColumnFault (List Column)
  | [] => .ok []
  | item :: r =>
    match ofItem item with
    | .error f => .error f
    | .ok c => (ofItems r).map (c :: ·)

/-- The columns that a structure declares. -/
def ofStructure (s : List Char) : Except ColumnFault (List Column) :=
  match items s with
  | .error .overclosed => .error (.overclosed (String.ofList s))
  | .error .unclosed => .error (.unclosed (String.ofList s))
  | .ok items =>
    if items.all (·.all Text.isBlank) then .error .noColumns else ofItems items

end Column

end StatelessSession.Sql
