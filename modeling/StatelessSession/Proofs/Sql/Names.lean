import Mathlib.Data.List.Forall2
import StatelessSession.Proofs.Sql.Nesting

/-!
# Where the name of a column ends

A structure is read twice: once by the splitter, that cuts it into items with an eye to parentheses,
quotes and backslashes, and once more to cut the name off each item, with no eye to them. So the
name can end where the splitter stands inside parentheses or quotes, and then the type begins there.

* `Written` -- a name as it is written, and where the splitter stands after it.
* `Cut` -- a column, the place where its name ends, and what that says of its type.
* **`cut_of_ofStructure`** -- every column of a structure that is accepted is cut off its item so.
* `cut_of_ofStructure_escapedQuote` -- a name that ends inside quotes.

NOT here: structures that are read as they are meant (`Declaration`).
-/

namespace StatelessSession.Sql.Column

variable {c q : Char} {d : Int32} {s t : List Char} {place next : Place}

/-! ## 1. Names as they are written -/

/-- A text without a quote leaves the splitter inside of it. -/
theorem through_inside (hno : q ∉ s) (h : place = .inQuotes d q ∨ place = .afterBackslash d q) :
    place.through s = some (.inQuotes d q) ∨ place.through s = some (.afterBackslash d q) := by
  induction s generalizing place with
  | nil =>
    rcases h with rfl | rfl
    · exact .inl rfl
    · exact .inr rfl
  | cons c s ih =>
    rw [List.mem_cons, not_or] at hno
    rcases h with rfl | rfl
    · by_cases hb : c = '\\'
      · subst hb
        rw [Place.through_go (move_iff.2 (.backslash d q))]
        exact ih hno.2 (.inr rfl)
      · rw [Place.through_go (move_iff.2 (.quoted d (Ne.symm hno.1) hb))]
        exact ih hno.2 (.inl rfl)
    · rw [through_afterBackslash]
      exact ih hno.2 (.inl rfl)

/-- The first quote of a text is where it was put. -/
theorem eq_of_append_quote {b v : List Char} (hno : q ∉ s) (e : s ++ [q] = b ++ q :: v) :
    s = b := by
  rcases List.append_eq_append_iff.1 e with ⟨a, rfl, ha⟩ | ⟨a, rfl, ha⟩
  · cases a with
    | nil => exact (List.append_nil s).symm
    | cons x a => simp at ha
  · cases a with
    | nil => exact List.append_nil b
    | cons x a =>
      obtain ⟨rfl, -⟩ := List.cons.inj ha
      exact absurd (List.mem_append_right b List.mem_cons_self) hno

theorem through_escaped (hq : isQuote q = true) (hno : q ∉ s) (hbody : ¬ Quotation q s) :
    (Place.plain 0).through (q :: (s ++ [q])) = some (.inQuotes 0 q) := by
  rw [Place.through_go (move_iff.2 (.startQuote 0 hq)), Place.through_append]
  rcases through_inside hno (.inl rfl) with ht | ht
  · -- the quote would close what stands before it
    have hclose : (Place.inQuotes 0 q).through (s ++ [q]) = some (.plain 0) := by
      have hmove := move_iff.2 (.endQuote 0 (ne_backslash_of_isQuote hq))
      rw [Place.through_append, ht, Option.bind_some, Place.through_go hmove]
      rfl
    obtain ⟨b, v, e, hb⟩ := quotation_of_through _ hclose
    rw [eq_of_append_quote hno e] at hbody
    exact absurd hb hbody
  · rw [ht]
    rfl

/-- **A name as it is written**, and the place of the splitter after it. A bare name has no blank, a
    quoted one not its own quote. -/
inductive Written : List Char → List Char → Place → Prop where
  | bare {name : List Char} {place : Place} (hblank : ∀ c ∈ name, Text.isBlank c = false)
      (hfirst : ∀ c ∈ name.head?, c ≠ '\x60' ∧ c ≠ '"')
      (hplace : (Place.plain 0).through name = some place) : Written name name place
  /-- What stands in quotes is closed by the second quote for the splitter too. -/
  | closed {q : Char} {name : List Char} (hq : q = '\x60' ∨ q = '"') (hno : q ∉ name)
      (hbody : Quotation q name) : Written name (q :: (name ++ [q])) (.plain 0)
  /-- A backslash takes the meaning of the second quote, so it closes nothing for the
      splitter. -/
  | escaped {q : Char} {name : List Char} (hq : q = '\x60' ∨ q = '"') (hno : q ∉ name)
      (hbody : ¬ Quotation q name) : Written name (q :: (name ++ [q])) (.inQuotes 0 q)

theorem isQuote_of_name (hq : q = '\x60' ∨ q = '"') : isQuote q = true := by
  rcases hq with rfl | rfl
  · rfl
  · rfl

theorem Written.through {name written : List Char} (h : Written name written place) :
    (Place.plain 0).through written = some place := by
  cases h with
  | bare hblank hfirst hplace => exact hplace
  | closed hq hno hbody => exact passed_quotation (isQuote_of_name hq) hbody
  | escaped hq hno hbody => exact through_escaped (isQuote_of_name hq) hno hbody

theorem exists_written_quoted {name : List Char} (hq : q = '\x60' ∨ q = '"') (hno : q ∉ name) :
    ∃ place, Written name (q :: (name ++ [q])) place := by
  by_cases hbody : Quotation q name
  · exact ⟨_, .closed hq hno hbody⟩
  · exact ⟨_, .escaped hq hno hbody⟩

theorem exists_written_bare (hq : ¬ (c = '\x60' ∨ c = '"'))
    (h : Passed (c :: s)) :
    ∃ place, Written ((c :: s).takeWhile (!Text.isBlank ·)) ((c :: s).takeWhile (!Text.isBlank ·))
      place := by
  rw [Passed, ← List.takeWhile_append_dropWhile (p := (!Text.isBlank ·)) (l := c :: s),
    Place.through_append, Option.bind_eq_some_iff] at h
  obtain ⟨place, hplace, -⟩ := h
  refine ⟨place, .bare (fun x hx => ?_) (fun x hx => ?_) hplace⟩
  · simpa using List.all_eq_true.1 List.all_takeWhile x hx
  · rw [List.takeWhile_cons] at hx
    split at hx
    · cases hx
      exact not_or.1 hq
    · cases hx

/-- What stands before the first quote, and what after it. -/
theorem split_at_quote {x : Char} (h : s.dropWhile (· != q) = x :: t) :
    s = s.takeWhile (· != q) ++ q :: t ∧ q ∉ s.takeWhile (· != q) := by
  have hx : x = q := by
    have hhead := List.head?_dropWhile_not (· != q) s
    rw [h] at hhead
    simpa using hhead
  subst hx
  refine ⟨by rw [← h, List.takeWhile_append_dropWhile], fun hmem => ?_⟩
  have hne := List.all_eq_true.1 List.all_takeWhile x hmem
  rw [bne_self_eq_false] at hne
  cases hne

/-! ## 2. Columns of an accepted structure -/

/-- **How a column is cut off its item**: the name as it is written, then the rest, with the
    splitter at `place` between them. -/
structure Cut (item : List Char) (col : Column) (written rest : List Char) (place : Place) :
    Prop where
  item_eq : Text.trim item = written ++ rest
  name : Written col.name.toList written place
  name_ne_nil : col.name.toList ≠ []
  /-- A bare name ends at the first blank. -/
  bare : written = col.name.toList → ∀ c ∈ rest.head?, Text.isBlank c = true
  /-- The type is the rest, without blanks at its ends, and there is one. -/
  type_eq : col.type.toList = Text.trim rest
  type_ne_nil : col.type.toList ≠ []
  type_first : ∀ c ∈ col.type.toList.head?, Text.isBlank c = false
  type_last : ∀ c ∈ col.type.toList.getLast?, Text.isBlank c = false
  /-- The name leaves nothing open if the splitter takes it, as it is written, for one item. -/
  outside : place = .plain 0 ↔ items written = .ok [written]
  /-- The rest leads outside of everything. -/
  ends : place.through rest = some (.plain 0)
  /-- If the item is not nested deeper than can be counted, the name leaves nothing open if it is
      well nested. -/
  nested : Shallow (written ++ rest) → (place = .plain 0 ↔ Nested false written)
  /-- And the rest closes what the name leaves open. -/
  closes : Shallow (written ++ rest) → place.Rest rest
  /-- **Where the name leaves nothing open, the type is well formed**: one item. -/
  sound : place = .plain 0 → items col.type.toList = .ok [col.type.toList]
  /-- Where it leaves parentheses open, the type never is. -/
  unsound : ∀ d, d ≠ 0 → place = .plain d → items col.type.toList ≠ .ok [col.type.toList]

theorem cut_of_ofParts {item text name written rest : List Char} {col : Column}
    (hitem : Text.trim item = written ++ rest) (hpassed : Passed (Text.trim item))
    (hname : Written name written place)
    (hbare : written = name → ∀ c ∈ rest.head?, Text.isBlank c = true)
    (h : ofParts text name rest = .ok col) : Cut item col written rest place := by
  rw [ofParts] at h
  split at h
  · cases h
  rename_i hne
  rw [Bool.or_eq_true, List.isEmpty_iff, List.isEmpty_iff, not_or] at hne
  cases h
  have hrest : place.through rest = some (.plain 0) := by
    rw [Passed, hitem, Place.through_append, hname.through] at hpassed
    exact hpassed
  have houtside : place = .plain 0 ↔ Passed written := by
    rw [Passed, hname.through, Option.some.injEq]
  constructor
  case item_eq => exact hitem
  case name => rwa [String.toList_ofList]
  case outside => exact houtside.trans passed_iff_items
  case ends => exact hrest
  case nested => exact fun hs => houtside.trans (nested_iff_passed (ShallowAt.left hs)).symm
  case closes =>
    exact fun hs => rest_of_through hrest (shallow_of_through hname.through (Shallow.atStart hs))
  all_goals simp only [String.toList_ofList]
  case name_ne_nil => exact hne.1
  case bare => exact hbare
  case type_ne_nil => exact hne.2
  case type_first => exact fun c hc => Text.isBlank_head?_trim hc
  case type_last => exact fun c hc => Text.isBlank_getLast?_trim hc
  case sound =>
    intro e
    subst e
    exact passed_iff_items.1 (through_trim hrest)
  case unsound =>
    intro d hd e
    subst e
    exact fun e => not_passed_of_through hd (through_trim hrest) (passed_iff_items.2 e)

/-- **A column is cut off an item** where its name ends. -/
theorem cut_of_ofItem {item : List Char} {col : Column} (hpassed : Passed item)
    (h : ofItem item = .ok col) : ∃ written rest place, Cut item col written rest place := by
  have htrim : Passed (Text.trim item) := through_trim hpassed
  rw [ofItem] at h
  cases hitem : Text.trim item with
  | nil =>
    rw [hitem] at h
    cases h
  | cons c r =>
    rw [hitem, ofTrimmed] at h
    split at h
    · rename_i hq
      split at h
      · cases h
      rename_i x rest hdrop
      obtain ⟨hsplit, hno⟩ := split_at_quote hdrop
      obtain ⟨place, hname⟩ := exists_written_quoted hq hno
      refine ⟨_, rest, place, cut_of_ofParts ?_ htrim hname (fun e => ?_) h⟩
      · rw [hitem, List.cons_append, List.append_assoc, List.singleton_append, ← hsplit]
      · have hlength := congrArg List.length e
        rw [List.length_cons, List.length_append] at hlength
        omega
    · rename_i hq
      have hsplit : Text.trim item = (c :: r).takeWhile (!Text.isBlank ·) ++
          (c :: r).dropWhile (!Text.isBlank ·) := by
        rw [hitem, List.takeWhile_append_dropWhile]
      obtain ⟨place, hname⟩ := exists_written_bare hq (hitem ▸ htrim)
      refine ⟨_, _, place, cut_of_ofParts hsplit htrim hname (fun _ x hx => ?_) h⟩
      have hhead := List.head?_dropWhile_not (!Text.isBlank ·) (c :: r)
      rw [Option.mem_def.1 hx] at hhead
      simpa using hhead

theorem cut_of_ofItems {xs : List (List Char)} {cols : List Column}
    (hpassed : ∀ x ∈ xs, Passed x) (h : ofItems xs = .ok cols) :
    List.Forall₂ (fun item col => ∃ written rest place, Cut item col written rest place) xs
      cols := by
  induction xs generalizing cols with
  | nil =>
    cases h
    exact .nil
  | cons x xs ih =>
    obtain ⟨hx, hxs⟩ := List.forall_mem_cons.1 hpassed
    rw [ofItems] at h
    split at h
    · cases h
    · rename_i col hcol
      obtain ⟨cols, hcols, rfl⟩ := map_eq_ok_iff.1 h
      exact .cons (cut_of_ofItem hx hcol) (ih hxs hcols)

/-- **The types of an accepted structure** are not empty and have no blanks at their ends; each is
    well formed if the name before it is, and is not if the name leaves a parenthesis open. -/
theorem cut_of_ofStructure {s : List Char} {cols : List Column} (h : ofStructure s = .ok cols) :
    ∃ xs, items s = .ok xs ∧
      List.Forall₂ (fun item col => ∃ written rest place, Cut item col written rest place) xs
        cols := by
  rw [ofStructure] at h
  split at h
  · cases h
  · cases h
  · rename_i xs hxs
    split at h
    · cases h
    · exact ⟨xs, hxs, cut_of_ofItems (items_eq_ok_iff.1 hxs).2.1 h⟩

/-- A column whose name has a back quote, written with a backslash before it. -/
def escapedQuote : List Char := "\x60a\\\x60b\x60 T".toList

/-- **Its name ends inside the quotes**, and the type begins there: so it is not well formed, though
    the structure is. -/
theorem cut_of_ofStructure_escapedQuote :
    ofStructure escapedQuote = .ok [⟨"a\\", "b\x60 T"⟩] ∧ items escapedQuote = .ok [escapedQuote] ∧
      items "b\x60 T".toList ≠ .ok ["b\x60 T".toList] ∧
      ∃ written rest place, Cut escapedQuote ⟨"a\\", "b\x60 T"⟩ written rest place ∧
        place ≠ .plain 0 := by
  have hcols : ofStructure escapedQuote = .ok [⟨"a\\", "b\x60 T"⟩] := by decide +kernel
  have hitems : items escapedQuote = .ok [escapedQuote] := by decide +kernel
  have htype : items "b\x60 T".toList ≠ .ok ["b\x60 T".toList] := by decide +kernel
  obtain ⟨xs, hxs, hall⟩ := cut_of_ofStructure hcols
  cases hxs.symm.trans hitems
  obtain ⟨⟨written, rest, place, hcut⟩, -⟩ := List.forall₂_cons.1 hall
  have hplace : place ≠ .plain 0 := fun e => htype (hcut.sound e)
  exact ⟨hcols, hitems, htype, written, rest, place, hcut, hplace⟩

/-- A bare name with a parenthesis ends at a blank inside of it. -/
example : ofStructure "a( b) T".toList = .ok [⟨"a(", "b) T"⟩] := by decide +kernel

end StatelessSession.Sql.Column
