import StatelessSession.Proofs.Sql.Calls
import StatelessSession.Proofs.Sql.Literals
import StatelessSession.Proofs.Sql.Nesting

/-!
# Declared columns are read back

The way of a column from its declaration to the shape of a statement: written as an item, joined
with others to a structure, quoted as a string literal, put into an insert, cut into lexemes, found
as the argument of a call, decoded, cut into items and read.

* `Declaration` -- a column and how its name is written.
* `ofItem_item` -- an item is read as its column; `ofStructure_structureText` -- a structure as its
  columns.
* `lexemes_insertText`, `structureCall` -- the insert is cut at the seams, and its call is found.
* **`ofSql_insertSql`** -- the insert streams exactly the columns that were declared.

NOT here: whether the server knows the types.
-/

namespace StatelessSession.Sql

/-! ## 1. Declarations -/

/-- How the name of a column is written. -/
inductive NameForm where
  | bare
  | backQuoted
deriving DecidableEq, Repr

/-- The characters that a name may have: bare no white space, quotes, parentheses or commas; in back
    quotes all but the back quote and the backslash. -/
def NameForm.admits : NameForm → Char → Bool
  | .bare, c => !Text.isBlank c && Column.isInert c
  | .backQuoted, c => c != '\x60' && c != '\\'

/-- **A column as it is declared.** The type is not empty and not surrounded by white space; its
    parentheses are balanced and nested less than 2 ^ 31 deep, its quotes closed, and a comma stands
    inside of either. -/
structure Declaration where
  form : NameForm
  name : List Char
  type : List Char
  name_ne_nil : name ≠ []
  name_admitted : ∀ c ∈ name, form.admits c = true
  type_ne_nil : type ≠ []
  type_first : ∀ c ∈ type.head?, Text.isBlank c = false
  type_last : ∀ c ∈ type.getLast?, Text.isBlank c = false
  type_nested : Column.Nested false type
  type_shallow : Column.Shallow type

/-- A run of characters that pass a test, up to one that does not. -/
theorem takeWhile_dropWhile_append {p : Char → Bool} {s r : List Char} {c : Char}
    (hs : ∀ x ∈ s, p x = true) (hc : p c = false) :
    (s ++ c :: r).takeWhile p = s ∧ (s ++ c :: r).dropWhile p = c :: r := by
  rw [List.takeWhile_append_of_pos hs, List.dropWhile_append_of_pos hs]
  simp [hc]

namespace Declaration

/-- The name as it is written. -/
def writtenName (d : Declaration) : List Char :=
  match d.form with
  | .bare => d.name
  | .backQuoted => '\x60' :: (d.name ++ ['\x60'])

/-- Name and type. -/
def item (d : Declaration) : List Char := d.writtenName ++ ' ' :: d.type

/-- The column that is declared. -/
def column (d : Declaration) : Column := ⟨String.ofList d.name, String.ofList d.type⟩

/-- The items of some columns, with a comma and a blank between them. -/
def structureText (ds : List Declaration) : List Char :=
  List.intercalate ", ".toList (ds.map item)

variable (d : Declaration) {ds : List Declaration}

/-! ## 2. Items -/

theorem writtenName_first : ∃ c ∈ d.writtenName.head?, Text.isBlank c = false := by
  obtain ⟨c, r, hc⟩ := List.exists_cons_of_ne_nil d.name_ne_nil
  unfold writtenName
  cases hf : d.form with
  | bare =>
    have hadm := d.name_admitted c (by rw [hc]; exact List.mem_cons_self)
    rw [hf] at hadm
    simp only [NameForm.admits, Bool.and_eq_true, Bool.not_eq_true'] at hadm
    exact ⟨c, by rw [hc]; rfl, hadm.1⟩
  | backQuoted => exact ⟨'\x60', rfl, rfl⟩

theorem item_first : ∃ c ∈ d.item.head?, Text.isBlank c = false := by
  obtain ⟨c, hc, hblank⟩ := d.writtenName_first
  refine ⟨c, ?_, hblank⟩
  rw [item, List.head?_append, hc]
  rfl

theorem trim_item : Text.trim d.item = d.item := by
  refine Text.trim_eq_self (fun c hc => ?_) fun c hc => ?_
  · obtain ⟨c', hc', hblank⟩ := d.item_first
    cases Option.some.inj (hc.symm.trans hc')
    exact hblank
  · obtain ⟨a, r, hr⟩ := List.exists_cons_of_ne_nil d.type_ne_nil
    refine d.type_last c ?_
    rw [item, hr, List.getLast?_append, List.getLast?_cons_cons] at hc
    rw [hr]
    cases hl : (a :: r).getLast? with
    | none => simp at hl
    | some x =>
      rw [hl] at hc
      exact hc

theorem trim_type : Text.trim (' ' :: d.type) = d.type := by
  rw [Text.trim_cons_of_isBlank rfl, Text.trim_eq_self d.type_first d.type_last]

/-- A name and what follows it are read as the column. -/
theorem ofParts_type (text : List Char) :
    Column.ofParts text d.name (' ' :: d.type) = .ok d.column := by
  have hname : d.name.isEmpty = false := by simpa using d.name_ne_nil
  have htype : d.type.isEmpty = false := by simpa using d.type_ne_nil
  rw [Column.ofParts, d.trim_type]
  simp [hname, htype, column]

/-- **An item is read as the column that it declares.** -/
theorem ofTrimmed_item : Column.ofTrimmed d.item = .ok d.column := by
  cases hf : d.form with
  | bare =>
    have hadm : ∀ c ∈ d.name, (!Text.isBlank c) = true ∧ Column.isInert c = true := fun c hc => by
      have hadm := d.name_admitted c hc
      rw [hf] at hadm
      simpa [NameForm.admits] using hadm
    obtain ⟨c, r, hc⟩ := List.exists_cons_of_ne_nil d.name_ne_nil
    obtain ⟨-, hinert⟩ := hadm c (by rw [hc]; exact List.mem_cons_self)
    have hquote : ¬ (c = '\x60' ∨ c = '"') := by
      intro h
      rcases h with rfl | rfl
      · exact absurd hinert (by decide)
      · exact absurd hinert (by decide)
    obtain ⟨htake, hdrop⟩ := takeWhile_dropWhile_append (p := (!Text.isBlank ·))
      (r := d.type) (c := ' ') (fun x hx => (hadm x hx).1) rfl
    have hitem : d.item = d.name ++ ' ' :: d.type := by rw [item, writtenName, hf]
    rw [← hitem] at htake hdrop
    have hcons : d.item = c :: (r ++ ' ' :: d.type) := by rw [hitem, hc]; rfl
    rw [← d.ofParts_type d.item, ← htake, ← hdrop]
    rw [hcons, Column.ofTrimmed, if_neg hquote, ← hcons, htake]
  | backQuoted =>
    have hadm : ∀ c ∈ d.name, (c != '\x60') = true := fun c hc => by
      have hadm := d.name_admitted c hc
      rw [hf] at hadm
      simp only [NameForm.admits, Bool.and_eq_true] at hadm
      exact hadm.1
    obtain ⟨htake, hdrop⟩ := takeWhile_dropWhile_append (p := (· != '\x60'))
      (r := ' ' :: d.type) (c := '\x60') hadm rfl
    have hitem : d.item = '\x60' :: (d.name ++ '\x60' :: ' ' :: d.type) := by
      rw [item, writtenName, hf]
      simp
    rw [hitem, Column.ofTrimmed, if_pos (.inl rfl), hdrop, htake]
    exact d.ofParts_type _

theorem ofItem_item : Column.ofItem d.item = .ok d.column := by
  rw [Column.ofItem, d.trim_item, d.ofTrimmed_item]

/-- A blank before the item does not count. -/
theorem ofItem_blank_item : Column.ofItem (' ' :: d.item) = .ok d.column := by
  rw [Column.ofItem, Text.trim_cons_of_isBlank rfl, d.trim_item, d.ofTrimmed_item]

theorem passed_writtenName : Column.Passed d.writtenName := by
  unfold writtenName
  cases hf : d.form with
  | bare =>
    refine Column.passed_inert fun c hc => ?_
    have hadm := d.name_admitted c hc
    rw [hf] at hadm
    simp only [NameForm.admits, Bool.and_eq_true] at hadm
    exact hadm.2
  | backQuoted =>
    have hname : Column.Quotation '\x60' d.name := by
      refine .ofPlain fun c hc => ?_
      have hadm := d.name_admitted c hc
      rw [hf] at hadm
      simpa [NameForm.admits] using hadm
    exact Column.passed_quotation rfl hname

/-- **The splitter passes an item.** -/
theorem passed_item : Column.Passed d.item := by
  have htype : Column.Passed d.type := (Column.nested_iff_passed d.type_shallow).1 d.type_nested
  exact d.passed_writtenName.append (htype.blank rfl)

/-! ## 3. Structures -/

/-- The blank after a comma belongs to the next item. -/
theorem intercalate_comma_blank (x : List Char) (xs : List (List Char)) :
    List.intercalate ", ".toList (x :: xs) = List.intercalate [','] (x :: xs.map (' ' :: ·)) := by
  induction xs generalizing x with
  | nil => rfl
  | cons y ys ih =>
    rw [List.intercalate_cons_cons, ih, List.map_cons, List.intercalate_cons_cons,
      Column.intercalate_cons_head]
    simp

theorem items_structureText (ds : List Declaration) :
    Column.items (structureText (d :: ds)) =
      .ok (d.item :: ds.map fun d => ' ' :: d.item) := by
  rw [structureText, List.map_cons, intercalate_comma_blank, List.map_map]
  refine Column.items_eq_ok_iff.2 ⟨List.cons_ne_nil _ _, ?_, rfl⟩
  refine List.forall_mem_cons.2 ⟨d.passed_item, fun x hx => ?_⟩
  obtain ⟨d', -, rfl⟩ := List.mem_map.1 hx
  exact d'.passed_item.blank rfl

theorem ofItems_map_item {f : Declaration → List Char}
    (hf : ∀ d, Column.ofItem (f d) = .ok d.column) (ds : List Declaration) :
    Column.ofItems (ds.map f) = .ok (ds.map column) := by
  induction ds with
  | nil => rfl
  | cons d ds ih =>
    rw [List.map_cons, Column.ofItems, hf]
    dsimp only
    rw [ih]
    rfl

/-- **A structure is read as the columns that it declares**, in their order. -/
theorem ofStructure_structureText (hne : ds ≠ []) :
    Column.ofStructure (structureText ds) = .ok (ds.map column) := by
  obtain ⟨d, ds, rfl⟩ := List.exists_cons_of_ne_nil hne
  have hblank : (d.item :: ds.map fun d => ' ' :: d.item).all (·.all Text.isBlank) = false := by
    obtain ⟨c, hc, hblank⟩ := d.item_first
    have hall : d.item.all Text.isBlank = false :=
      List.all_eq_false.2 ⟨c, List.mem_of_head? hc, by simp [hblank]⟩
    rw [List.all_cons, hall, Bool.false_and]
  rw [Column.ofStructure, d.items_structureText]
  dsimp only
  rw [hblank, if_neg Bool.false_ne_true, Column.ofItems, d.ofItem_item]
  dsimp only
  rw [ofItems_map_item ofItem_blank_item]
  rfl

end Declaration

/-! ## 4. The insert -/

/-- One space. -/
def Lexeme.space : Lexeme := ⟨.blank, [' ']⟩

/-- The lexemes of an insert into a table from `input` with a structure. -/
def insertLexemes (table structureText : List Char) : List Lexeme :=
  [.word "insert".toList, .space, .word "into".toList, .space, .word table, .space,
    .word "select".toList, .space, .symbol '*', .space, .word "from".toList, .space,
    .word "input".toList, .symbol '(', .string (StringLiteral.encode structureText), .symbol ')']

/-- **An insert that reads declared columns** from `input`. -/
def insertSql (table : List Char) (ds : List Declaration) : String :=
  "insert into " ++ String.ofList table ++ " select * from input(" ++
    (Value.text (String.ofList (Declaration.structureText ds))).sqlLiteral ++ ")"

theorem insertSql_eq (table : List Char) (ds : List Declaration) :
    insertSql table ds =
      String.ofList (joined (insertLexemes table (Declaration.structureText ds))) := by
  have hliteral : ∀ s,
      (Value.text (String.ofList s)).sqlLiteral.toList = StringLiteral.quote s := by
    intro s
    show (String.ofList (StringLiteral.quote (String.ofList s).toList)).toList = _
    rw [String.toList_ofList, String.toList_ofList]
  have hinto : "insert into ".toList = "insert".toList ++ ' ' :: ("into".toList ++ [' ']) := by
    decide
  have hselect : " select * from input(".toList =
      ' ' :: ("select".toList ++ ' ' :: '*' :: ' ' :: ("from".toList ++ ' ' ::
        ("input".toList ++ ['(']))) := by decide
  have hclose : ")".toList = [')'] := by decide
  refine String.toList_injective ?_
  simp only [insertSql, String.toList_append, String.toList_ofList, hliteral, hinto, hselect,
    hclose, insertLexemes, joined_cons, joined_nil, Lexeme.word, Lexeme.symbol, Lexeme.string,
    Lexeme.space, StringLiteral.quote, List.append_assoc, List.cons_append, List.nil_append]

variable {table s : List Char}

/-- The insert is cut at the seams, whatever the structure and even if the table is called like a
    keyword. -/
theorem lexemes_insertText (hne : table ≠ []) (hw : ∀ c ∈ table, isWordChar c = true) :
    lexemes (joined (insertLexemes table s)) = .ok (insertLexemes table s) := by
  have hspace : Lexeme.space.piece.Good := ⟨[], .blank rfl⟩
  have hword : ∀ w : String, w.toList ≠ [] → w.toList.all isWordChar = true →
      (Lexeme.word w.toList).piece.Good := fun w hw ha => good_word hw (List.all_eq_true.1 ha)
  have htable : (Lexeme.word table).piece.Good := good_word hne hw
  have hstar : (Lexeme.symbol '*').piece.Good := good_symbol (by decide) rfl
  have hopen : (Lexeme.symbol '(').piece.Good := good_symbol (by decide) rfl
  have hliteral : (Lexeme.string (StringLiteral.encode s)).piece.Good :=
    good_string (quoteBody_encode s)
  have hclose : (Lexeme.symbol ')').piece.Good := good_symbol (by decide) rfl
  -- neither the name of the table nor the structure shows in the kinds
  have hkinds : (insertLexemes table s).map Lexeme.kind =
      (insertLexemes [] []).map Lexeme.kind := rfl
  refine lexemes_of_isCalm ?_ (by rw [hkinds]; decide) (by rw [hkinds]; decide)
  simp only [insertLexemes, List.forall_mem_cons]
  exact ⟨hword "insert" (by decide) (by decide), hspace, hword "into" (by decide) (by decide),
    hspace, htable, hspace, hword "select" (by decide) (by decide), hspace, hstar, hspace,
    hword "from" (by decide) (by decide), hspace, hword "input" (by decide) (by decide), hopen,
    hliteral, hclose, nofun⟩

theorem parse_insertText (hne : table ≠ []) (hw : ∀ c ∈ table, isWordChar c = true) :
    Query.parse (String.ofList (joined (insertLexemes table s))) =
      .ok ⟨insertLexemes table s⟩ := by
  have hblank : Text.isBlankText (String.ofList (joined (insertLexemes table s))) = false := by
    rw [Text.isBlankText, String.toList_ofList]
    rfl
  rw [Query.parse, hblank, if_neg Bool.false_ne_true, String.toList_ofList,
    lexemes_insertText hne hw]
  rfl

/-- **The call is found**, whatever the table is called. -/
def structureCall (table s : List Char) : StructureCall (tokens (insertLexemes table s)) where
  lead := []
  insertWord := _
  intoWord := _
  middle := [_, _, _]
  fromWord := _
  inputWord := _
  opening := _
  literal := _
  closing := _
  after := []
  tokens_eq := rfl
  isInsert := by rfl
  isInto := by rfl
  firstInsert := not_adjacent_of_tail nofun
  isFrom := by rfl
  isInput := by rfl
  firstFrom := by
    refine not_adjacent_of_tail fun t ht => ?_
    rcases ht with _ | ⟨_, _ | ⟨_, _ | ⟨_, ht⟩⟩⟩
    · rfl
    · rfl
    · rfl
    · cases ht
  isOpening := rfl
  isLiteral := rfl
  isClosing := rfl

/-- **Declared columns are read back.** An insert into a table from `input` with the structure of
    some declared columns as a string literal streams exactly these columns, in their order. -/
theorem ofSql_insertSql {ds : List Declaration} (htable : table ≠ [])
    (hw : ∀ c ∈ table, isWordChar c = true) (hds : ds ≠ []) :
    Shape.ofSql (insertSql table ds) = .ok (.streaming (ds.map Declaration.column)) := by
  rw [insertSql_eq]
  refine (ofSql_streaming_iff (parse_insertText htable hw)).2 ⟨rfl, structureCall table _, ?_, ?_⟩
  · show Column.ofStructure (StringLiteral.decode (StringLiteral.quote _)) = _
    rw [StringLiteral.decode_quote, Declaration.ofStructure_structureText hds]
  · exact nofun

/-- A column whose type has quotes, and in them a comma, a parenthesis and an escaped quote. -/
def enumDeclaration : Declaration where
  form := .bare
  name := "e".toList
  type := "Enum8('x,y)' = 1, 'it\\'s' = 2)".toList
  name_ne_nil := by decide
  name_admitted := List.all_eq_true.1 (by decide)
  type_ne_nil := by decide
  type_first := by
    intro c hc
    cases hc
    rfl
  type_last := by
    intro c hc
    cases hc
    rfl
  type_nested := (Column.nested_iff_passed (Column.shallow_of_length (by decide))).2 (by
    decide +kernel)
  type_shallow := Column.shallow_of_length (by decide)

/-- A column whose name has to be quoted, with a nested type. -/
def mapDeclaration : Declaration where
  form := .backQuoted
  name := "my col, '(".toList
  type := "Map(String, Array(UInt8))".toList
  name_ne_nil := by decide
  name_admitted := List.all_eq_true.1 (by decide)
  type_ne_nil := by decide
  type_first := by
    intro c hc
    cases hc
    rfl
  type_last := by
    intro c hc
    cases hc
    rfl
  type_nested := (Column.nested_iff_passed (Column.shallow_of_length (by decide))).2 (by
    decide +kernel)
  type_shallow := Column.shallow_of_length (by decide)

/-- Both are read back from an insert into a table that is called `input`. -/
theorem ofSql_insertSql_enum_map :
    "input".toList ≠ [] ∧ (∀ c ∈ "input".toList, isWordChar c = true) ∧
      [enumDeclaration, mapDeclaration] ≠ [] ∧
      insertSql "input".toList [enumDeclaration, mapDeclaration] =
        "insert into input select * from input('e Enum8(\\'x,y)\\' = 1, " ++
          "\\'it\\\\\\'s\\' = 2), \x60my col, \\'(\x60 Map(String, Array(UInt8))')" ∧
      Shape.ofSql (insertSql "input".toList [enumDeclaration, mapDeclaration]) =
        .ok (.streaming [⟨"e", "Enum8('x,y)' = 1, 'it\\'s' = 2)"⟩,
          ⟨"my col, '(", "Map(String, Array(UInt8))"⟩]) := by
  have htable : "input".toList ≠ [] := by decide
  have hword : ∀ c ∈ "input".toList, isWordChar c = true := List.all_eq_true.1 (by decide)
  have hds : [enumDeclaration, mapDeclaration] ≠ [] := List.cons_ne_nil _ _
  have hcolumns : [enumDeclaration, mapDeclaration].map Declaration.column =
      [⟨"e", "Enum8('x,y)' = 1, 'it\\'s' = 2)"⟩, ⟨"my col, '(", "Map(String, Array(UInt8))"⟩] := by
    decide +kernel
  refine ⟨htable, hword, hds, by decide +kernel, ?_⟩
  rw [ofSql_insertSql htable hword hds, hcolumns]

end StatelessSession.Sql
