import StatelessSession.ResultSet

/-!
# Lookups in result sets

The rows of a result set share one index of its columns. It is entered name by name, and yet whoever
asks it for a name hears what the plain list of names says: the last position of the name, or none
if the name is not there. So a row answers by name as it does by position, and a row that is built
anew from the same names and values answers alike.

* `LastAt`, `lastAt_iff` -- the last position of a name among names.
* `ColumnIndex.Finds`, `Finds.insert`, **`finds_ofColumns`** -- an index finds every name where it
  stands last.
* `Row.Reads`, `reads_of_finds` -- what a row answers, by name and by position.
* `ResultSet.Lists`, `Lists.addRow` -- one more row; **`lists_addRows`** -- any rows from when there
  are none.

NOT here: result sets without columns, which take no rows.
-/

namespace StatelessSession

variable {names : List String} {name other : String} {i j : Nat}

/-! ## 1. Last positions -/

/-- **`i` is the last position of `name`** among some names. -/
def LastAt (names : List String) (name : String) (i : Nat) : Prop :=
  names[i]? = some name ∧ ∀ j, names[j]? = some name → j ≤ i

theorem LastAt.unique (hi : LastAt names name i) (hj : LastAt names name j) : i = j :=
  Nat.le_antisymm (hj.2 i hi.1) (hi.2 j hj.1)

theorem LastAt.mem (h : LastAt names name i) : name ∈ names := List.mem_of_getElem? h.1

/-- At its last position a name stands, and it does not stand behind it. -/
theorem lastAt_iff : LastAt names name i ↔ names[i]? = some name ∧ name ∉ names.drop (i + 1) := by
  refine and_congr_right fun _ => ?_
  constructor
  · intro hlast hmem
    obtain ⟨k, hk⟩ := List.mem_iff_getElem?.1 hmem
    rw [List.getElem?_drop] at hk
    have hle := hlast _ hk
    omega
  · intro hmem j hj
    refine Nat.le_of_not_lt fun hlt => hmem (List.mem_iff_getElem?.2 ⟨j - (i + 1), ?_⟩)
    rw [List.getElem?_drop, Nat.add_sub_cancel' hlt]
    exact hj

instance (names : List String) (name : String) (i : Nat) : Decidable (LastAt names name i) :=
  decidable_of_iff _ lastAt_iff.symm

/-- A name that comes last stands last at the end, wherever else it stands. -/
theorem lastAt_concat_self (names : List String) (name : String) :
    LastAt (names ++ [name]) name names.length := by
  refine ⟨List.getElem?_concat_length, fun j hj => ?_⟩
  have hlt := (List.getElem?_eq_some_iff.1 hj).1
  rw [List.length_append, List.length_singleton] at hlt
  exact Nat.le_of_lt_succ hlt

/-- A name at the end does not move where another one stands last. -/
theorem LastAt.concat_of_ne (h : LastAt names other i) (hne : other ≠ name) :
    LastAt (names ++ [name]) other i := by
  rw [lastAt_iff] at h ⊢
  have hlt := (List.getElem?_eq_some_iff.1 h.1).1
  rw [List.getElem?_append_left hlt, List.drop_append_of_le_length hlt]
  refine ⟨h.1, fun hmem => ?_⟩
  rcases List.mem_append.1 hmem with hmem | hmem
  · exact h.2 hmem
  · exact hne (List.mem_singleton.1 hmem)

/-! ## 2. Column indexes -/

namespace ColumnIndex

variable {x y : ColumnIndex}

/-- **An index finds some names**: it answers with last positions only, and it has an answer for
    every name that is there. -/
structure Finds (x : ColumnIndex) (names : List String) : Prop where
  found : ∀ {name i}, x.get? name = some i → LastAt names name i
  missing : ∀ {name}, x.get? name = none → name ∉ names

namespace Finds

theorem eq_some_iff (h : x.Finds names) : x.get? name = some i ↔ LastAt names name i := by
  refine ⟨h.found, fun hlast => ?_⟩
  cases hget : x.get? name with
  | none => exact absurd hlast.mem (h.missing hget)
  | some j => rw [(h.found hget).unique hlast]

theorem eq_none_iff (h : x.Finds names) : x.get? name = none ↔ name ∉ names := by
  refine ⟨h.missing, fun hmem => ?_⟩
  cases hget : x.get? name with
  | none => rfl
  | some i => exact absurd (h.found hget).mem hmem

/-- What an index says is settled by the names that it finds. -/
theorem get?_eq (hx : x.Finds names) (hy : y.Finds names) (name : String) :
    x.get? name = y.get? name := by
  cases hget : y.get? name with
  | none => exact hx.eq_none_iff.2 (hy.missing hget)
  | some i => exact hx.eq_some_iff.2 (hy.found hget)

/-- **One more name**, which takes its own former place away and no other. -/
theorem insert (h : x.Finds names) (name : String) :
    (x.insert name names.length).Finds (names ++ [name]) where
  found {other i} hget := by
    by_cases hne : other = name
    · subst hne
      rw [get?_insert_self, Option.some_inj] at hget
      rw [← hget]
      exact lastAt_concat_self names other
    · rw [get?_insert_of_ne x hne] at hget
      exact (h.found hget).concat_of_ne hne
  missing {other} hget hmem := by
    by_cases hne : other = name
    · rw [hne, get?_insert_self] at hget
      cases hget
    · rw [get?_insert_of_ne x hne] at hget
      rcases List.mem_append.1 hmem with hmem | hmem
      · exact h.missing hget hmem
      · exact hne (List.mem_singleton.1 hmem)

theorem insertAll (h : x.Finds names) (more : List String) :
    (x.insertAll names.length more).Finds (names ++ more) := by
  induction more generalizing x names with
  | nil => rw [List.append_nil]; exact h
  | cons name more ih =>
    have hrest := ih (h.insert name)
    rw [List.length_append, List.length_singleton, List.append_assoc] at hrest
    exact hrest

end Finds

theorem finds_empty : empty.Finds [] where
  found {name i} hget := by
    rw [get?_empty] at hget
    cases hget
  missing _ := List.not_mem_nil

/-- **The index of some columns finds each of them where it stands last.** -/
theorem finds_ofColumns (names : List String) : (ofColumns names).Finds names :=
  finds_empty.insertAll names

/-- A name that is empty, and one that stands twice. -/
example : (ofColumns ["a", "", "a"]).get? "a" = some 2 ∧ LastAt ["a", "", "a"] "a" 2 ∧
    (ofColumns ["a", "", "a"]).get? "" = some 1 ∧ LastAt ["a", "", "a"] "" 1 := by decide

end ColumnIndex

/-! ## 3. Rows -/

namespace Row

variable {r : Row}

/-- **Two rows answer alike**, by name and by position. -/
structure Agrees (r q : Row) : Prop where
  columnIndex : ∀ name, r.columnIndex? name = q.columnIndex? name
  byName : ∀ name, r.get? name = q.get? name
  byPosition : ∀ i, r.at? i = q.at? i

/-- **A row reads as the plain list of its columns says**: a name stands for its last position and
    a column that is not there, or that the row is too short for, has no value. Built anew, the row
    answers alike. -/
structure Reads (r : Row) (names : List String) : Prop where
  columns : r.columns = names
  position : ∀ name i, r.columnIndex? name = some i ↔ LastAt names name i
  absent : ∀ name, r.columnIndex? name = none ↔ name ∉ names
  byPosition : ∀ i, r.at? i = r.values[i]?
  byName : ∀ name i, LastAt names name i → r.get? name = r.at? i
  short : ∀ name i, LastAt names name i → (r.get? name = none ↔ r.values.length ≤ i)
  nothing : ∀ name, name ∉ names → r.get? name = none
  anew : r.Agrees (ofValues r.columns r.values)

theorem get?_of_lastAt (h : r.index.Finds names) (hlast : LastAt names name i) :
    r.get? name = r.at? i := by
  rw [get?, columnIndex?, h.eq_some_iff.2 hlast, Option.bind_some]

/-- An index that finds the columns is all that a row needs. -/
theorem reads_of_finds (hcolumns : r.columns = names) (h : r.index.Finds names) :
    r.Reads names where
  columns := hcolumns
  position _ _ := h.eq_some_iff
  absent _ := h.eq_none_iff
  byPosition _ := rfl
  byName _ _ hlast := get?_of_lastAt h hlast
  short name i hlast := by
    rw [get?_of_lastAt h hlast]
    exact List.getElem?_eq_none_iff
  nothing name hmem := by
    rw [get?, columnIndex?, h.eq_none_iff.2 hmem, Option.bind_none]
  anew := by
    have hname : ∀ name, r.index.get? name = (ColumnIndex.ofColumns r.columns).get? name := by
      rw [hcolumns]
      exact h.get?_eq (ColumnIndex.finds_ofColumns names)
    refine ⟨hname, fun name => ?_, fun _ => rfl⟩
    exact congrArg (·.bind fun i => r.values[i]?) (hname name)

end Row

/-! ## 4. Result sets -/

namespace ResultSet

variable {s : ResultSet} {rows : List (List Value)}

/-- **A result set lists rows** under the columns `names`: they stand in it with their values, in
    order, every one reads as its columns say, and as many are affected. -/
structure Lists (s : ResultSet) (names : List String) (rows : List (List Value)) : Prop where
  header : ∃ x : ColumnIndex, s.header = some ⟨names, x⟩ ∧ x.Finds names
  values : s.rows.map Row.values = rows
  first : s.firstRow?.map Row.values = rows.head?
  reads : ∀ r ∈ s.rows, r.Reads names
  affected : s.affected = rows.length

theorem lists_ofColumns (names : List String) : (ofColumns names).Lists names [] where
  header := ⟨_, rfl, ColumnIndex.finds_ofColumns names⟩
  values := rfl
  first := rfl
  reads _ hr := absurd hr List.not_mem_nil
  affected := rfl

/-- **One more row**, of any width; those before it stay as they are. -/
theorem Lists.addRow (h : s.Lists names rows) (values : List Value) :
    (s.addRow values).Lists names (rows ++ [values]) := by
  obtain ⟨x, hheader, hfinds⟩ := h.header
  have hadd : s.addRow values =
      ⟨some ⟨names, x⟩, s.rows ++ [⟨names, values, x⟩], s.affected + 1⟩ := by
    rw [ResultSet.addRow, hheader]
  have hvalues : (s.addRow values).rows.map Row.values = rows ++ [values] := by
    rw [hadd, List.map_append, h.values]
    rfl
  refine ⟨⟨x, by rw [hadd], hfinds⟩, hvalues, ?_, fun r hr => ?_, ?_⟩
  · rw [firstRow?, ← List.head?_map, hvalues]
  · rw [hadd] at hr
    rcases List.mem_append.1 hr with hr | hr
    · exact h.reads r hr
    · rw [List.mem_singleton.1 hr]
      exact Row.reads_of_finds rfl hfinds
  · rw [hadd, List.length_append, List.length_singleton, h.affected]

theorem Lists.addRows (h : s.Lists names rows) (more : List (List Value)) :
    (s.addRows more).Lists names (rows ++ more) := by
  induction more generalizing s rows with
  | nil => rw [List.append_nil]; exact h
  | cons values more ih =>
    have hrest := ih (h.addRow values)
    rw [List.append_assoc] at hrest
    exact hrest

/-- **Lookups agree with the plain list of columns**, whatever the names are and however wide the
    rows: rows that are added to a result set with columns stand in it in order and with their
    values, and each of them answers for a name as it does for the last position of the name, as if
    it had been built by itself. -/
theorem lists_addRows (names : List String) (rows : List (List Value)) :
    ((ofColumns names).addRows rows).Lists names rows :=
  (lists_ofColumns names).addRows rows

end ResultSet

end StatelessSession
