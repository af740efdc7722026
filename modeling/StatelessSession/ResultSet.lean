import StatelessSession.Value.Basic

/-!
# Result sets

The rows that answer a request, under their column names. A `ColumnIndex` finds a column by its
name; it is built by entering the names from left to right, so of two equal names the last counts.
A result set without columns takes no rows.
-/

namespace StatelessSession

/-! ## 1. Column indexes -/

/-- The positions of columns by name. -/
structure ColumnIndex where
  entries : List (String × Nat)
deriving DecidableEq, Repr

namespace ColumnIndex

/-- The index without columns. -/
def empty : ColumnIndex := ⟨[]⟩

/-- Enters a column; a former one of the same name is no longer found. -/
def insert (x : ColumnIndex) (name : String) (position : Nat) : ColumnIndex :=
  ⟨(name, position) :: x.entries.filter (·.1 != name)⟩

/-- The position of a column. -/
def get? (x : ColumnIndex) (name : String) : Option Nat :=
  (x.entries.find? (·.1 == name)).map Prod.snd

/-- Enters columns from left to right, the first at `position`. -/
def insertAll (x : ColumnIndex) (position : Nat) : List String → ColumnIndex
  | [] => x
  | name :: r => (x.insert name position).insertAll (position + 1) r

/-- The index of some columns. -/
def ofColumns (names : List String) : ColumnIndex := empty.insertAll 0 names

@[simp] theorem get?_empty (name : String) : empty.get? name = none := rfl

@[simp] theorem get?_insert_self (x : ColumnIndex) (name : String) (position : Nat) :
    (x.insert name position).get? name = some position := by
  have hfirst : (x.insert name position).entries.find? (·.1 == name) = some (name, position) :=
    List.find?_cons_of_pos (beq_self_eq_true name)
  rw [get?, hfirst]
  rfl

/-- Columns of other names are found where they were. -/
theorem get?_insert_of_ne (x : ColumnIndex) {name other : String} (h : other ≠ name)
    (position : Nat) : (x.insert name position).get? other = x.get? other := by
  have hrest : (x.insert name position).entries.find? (·.1 == other) =
      (x.entries.filter (·.1 != name)).find? (·.1 == other) :=
    List.find?_cons_of_neg fun e => h (eq_of_beq e).symm
  -- what the new entry replaces goes by another name
  have hkept : ∀ e : String × Nat,
      decide ((e.1 != name) = true ∧ (e.1 == other) = true) = (e.1 == other) := fun e => by
    by_cases he : e.1 = other
    · simp [he, h]
    · simp [he]
  rw [get?, hrest, List.find?_filter, funext hkept]
  rfl

end ColumnIndex

/-! ## 2. Rows -/

/-- A row under its column names. It may be narrower or wider than they are. -/
structure Row where
  columns : List String
  values : List Value
  index : ColumnIndex

namespace Row

/-- A row with an index of its own. -/
def ofValues (columns : List String) (values : List Value) : Row :=
  ⟨columns, values, ColumnIndex.ofColumns columns⟩

/-- The position of a column. -/
def columnIndex? (r : Row) (name : String) : Option Nat := r.index.get? name

/-- The value at a position. -/
def at? (r : Row) (i : Nat) : Option Value := r.values[i]?

/-- The value in a column. -/
def get? (r : Row) (name : String) : Option Value := (r.columnIndex? name).bind r.at?

end Row

/-! ## 3. Result sets -/

/-- The names of columns with their index. -/
structure Header where
  columns : List String
  index : ColumnIndex

/-- The rows of an answer, and how many rows were affected. -/
structure ResultSet where
  header : Option Header
  rows : List Row
  affected : Nat

namespace ResultSet

/-- No columns and no rows. -/
def empty : ResultSet := ⟨none, [], 0⟩

/-- The answer to a write. -/
def ofAffected (n : Nat) : ResultSet := ⟨none, [], n⟩

/-- No rows yet under some columns. -/
def ofColumns (names : List String) : ResultSet :=
  ⟨some ⟨names, ColumnIndex.ofColumns names⟩, [], 0⟩

/-- The column names. -/
def columns? (s : ResultSet) : Option (List String) := s.header.map Header.columns

/-- Adds a row at the end, if there are columns. -/
def addRow (s : ResultSet) (values : List Value) : ResultSet :=
  match s.header with
  | none => s
  | some h =>
    { s with rows := s.rows ++ [⟨h.columns, values, h.index⟩], affected := s.affected + 1 }

/-- Adds rows in order. -/
def addRows (s : ResultSet) (rows : List (List Value)) : ResultSet := rows.foldl addRow s

/-- The first row. -/
def firstRow? (s : ResultSet) : Option Row := s.rows.head?

end ResultSet

end StatelessSession
