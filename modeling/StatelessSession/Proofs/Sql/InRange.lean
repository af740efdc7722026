import StatelessSession.Proofs.Sql.Binding
import StatelessSession.Proofs.Sql.Cuts
import StatelessSession.Proofs.Sql.Indices

/-!
# Every cut is in range

The reader of SQL as a whole on top of a scanner over bytes, with indices into the tokens and slices
of the text wherever something is looked at. Each step of it can fail, and none does, for any text:
it comes to the query, the shape, the bound text and the columns that are found without an index. If
the program is built to stop at a full counter, it can stop at one on texts of 2 GiB and more.

* `length_tokens_le`, `byteSize_decode_le` -- there are no more tokens, and no more bytes in a
  literal, than bytes in the text.
* `answers_parseAt`, `bindAt?_eq`, `answers_shapeAt` -- queries, bound texts, shapes.
* `TokensInRange`, `InRange` -- what is in range for the tokens, and for the text.
* **`inRange`** -- every text is in range.
-/

namespace StatelessSession.Sql

variable {s : String} {q : Query} {ts : List Token} {ls : List Lexeme} {o : Overflow}

/-! ## 1. Sizes -/

theorem byteSize_le_of_isInfix {u v : List Char} (h : u <:+: v) : byteSize u ≤ byteSize v := by
  obtain ⟨a, b, rfl⟩ := h
  rw [byteSize_append, byteSize_append]
  omega

theorem length_tokensFrom_le (n : Nat) (gap : List Char) (ls : List Lexeme) :
    (tokensFrom n gap ls).length ≤ ls.length := by
  induction ls generalizing n gap with
  | nil => exact Nat.le_refl 0
  | cons l ls ih =>
    obtain ⟨kind, text⟩ := l
    cases kind with
    | token kind => exact Nat.succ_le_succ (ih _ _)
    | blank | lineComment | blockComment => exact Nat.le_succ_of_le (ih _ _)

theorem length_le_byteSize (h : ∀ l ∈ ls, l.text ≠ []) : ls.length ≤ byteSize (joined ls) := by
  induction ls with
  | nil => exact Nat.zero_le _
  | cons l ls ih =>
    obtain ⟨hl, hls⟩ := List.forall_mem_cons.1 h
    have hpos : byteSize l.text ≠ 0 := fun h0 => hl (eq_nil_of_byteSize h0)
    have hrest := ih hls
    rw [joined_cons, byteSize_append, List.length_cons]
    omega

/-- **A token takes a byte** at least. -/
theorem length_tokens_le (h : lexemes s.toList = .ok ls) : (tokens ls).length ≤ s.utf8ByteSize := by
  have hgood := ((lexemes_joined_iff ls).1 (by rwa [joined_lexemes h])).1
  have hlen := length_le_byteSize fun l hl => text_ne_nil_of_good (hgood l hl)
  rw [joined_lexemes h, byteSize_toList] at hlen
  exact Nat.le_trans (length_tokensFrom_le 0 [] ls) hlen

/-- An escape takes no fewer bytes than what it stands for. -/
theorem utf8Size_escaped_le (c : Char) : (StringLiteral.escaped c).utf8Size ≤ c.utf8Size := by
  unfold StringLiteral.escaped
  split
  all_goals exact Nat.le_refl _

theorem byteSize_decodeBody_le (u : List Char) :
    byteSize (StringLiteral.decodeBody u) ≤ byteSize u := by
  fun_induction StringLiteral.decodeBody u with
  | case1 => exact Nat.le_refl _
  | case2 => exact Nat.le_refl _
  | case3 c r ih =>
    have hc := utf8Size_escaped_le c
    simp only [byteSize_cons]
    omega
  | case4 r ih =>
    simp only [byteSize_cons]
    omega
  | case5 c r _ _ ih =>
    simp only [byteSize_cons]
    omega

/-- **A literal stands for no more bytes** than it takes. -/
theorem byteSize_decode_le (literal : List Char) :
    byteSize (StringLiteral.decode literal) ≤ byteSize literal := by
  refine Nat.le_trans (byteSize_decodeBody_le _) (byteSize_le_of_isInfix ?_)
  unfold StringLiteral.body
  split
  · split
    · exact (List.dropLast_prefix _).isInfix.trans (List.suffix_cons _ _).isInfix
    · exact List.infix_refl _
  · exact List.infix_refl _

/-! ## 2. Queries -/

/-- A query by the bytes of its tokens. -/
structure Scanned where
  sql : String
  tokens : List (Extent TokenKind)

/-- The placeholders, by the bytes at which they stand. -/
def Scanned.placeholders (q : Scanned) : List Nat :=
  (q.tokens.filter (·.kind == .placeholder)).map Extent.start

/-- A query without what is between its tokens. -/
def Query.scanned (q : Query) : Scanned := ⟨q.sql, q.tokens.map Token.extent⟩

/-- Reads a query with the scanner over bytes. -/
def parseAt (o : Overflow) (s : String) : Except Halt (Except String Scanned) :=
  if Text.isBlankText s then .ok (.error Fault.empty.message)
  else do
    match ← tokenizeAt o s with
    | .error message => return .error message
    | .ok xs =>
      if xs.isEmpty then return .error Fault.noStatement.message else return .ok ⟨s, xs⟩

theorem answers_parseAt (o : Overflow) (s : String) :
    Answers o s.utf8ByteSize (parseAt o s)
      (((Query.parse s).map Query.scanned).mapError Fault.message) := by
  rw [parseAt, Query.parse]
  split
  · exact .ok _
  · refine .bind (answers_tokenizeAt o s) (.inl ?_)
    rw [scan]
    cases h : lexemes s.toList with
    | error f => rfl
    | ok ls =>
      have hsql : String.ofList (joined ls) = s := by
        rw [joined_lexemes h, String.ofList_toList]
      show (if ((tokens ls).map Token.extent).isEmpty then
          Except.ok (Except.error Fault.noStatement.message)
        else Except.ok (Except.ok (Scanned.mk s ((tokens ls).map Token.extent)))) = _
      rw [List.isEmpty_map]
      by_cases hempty : (tokens ls).isEmpty = true
      · simp [hempty, Except.map, Except.mapError]
      · simp [hempty, Except.map, Except.mapError, Query.scanned, Query.sql, hsql, Query.tokens]

/-- **The placeholders are the same bytes.** -/
theorem placeholders_scanned (q : Query) : q.scanned.placeholders = q.placeholders := by
  rw [Scanned.placeholders, Query.scanned, Query.placeholders, List.filter_map, List.map_map]
  rfl

/-! ## 3. Bound texts -/

/-- The text of a query with values in the place of its placeholders, cut at their bytes. -/
def Scanned.bindAt? (q : Scanned) (params : List Value) : Option (Except SessionError String) :=
  if params.length = q.placeholders.length then do
    let text ← renderAt? q.sql.toList 0 (q.placeholders.zip (params.map Value.literal))
    return .ok (String.ofList text)
  else some (.error (.parameterCount q.placeholders.length params.length))

theorem text_of_placeholder {l : Lexeme} (h : lexemes (joined ls) = .ok ls) (hl : l ∈ ls)
    (hk : l.kind = .token .placeholder) : l.text = ['?'] := by
  have hbytes := (((lexemes_joined_iff ls).1 h).1 l hl).bytes_placeholder hk
  exact utf8_injective hbytes

theorem bindAt?_eq (hq : Query.parse s = .ok q) (params : List Value) :
    q.scanned.bindAt? params = some (q.bind params) := by
  have hls := lexemes_of_parse hq
  have hmarks : q.placeholders = marksFrom 0 q.lexemes := marksFrom_eq 0 [] q.lexemes
  have hcount : q.parameterCount = q.placeholders.length := (List.length_map _).symm
  rw [Scanned.bindAt?, placeholders_scanned, Query.bind, Query.render?, List.length_map, hcount]
  by_cases hlen : params.length = q.placeholders.length
  · have htext : renderAt? (joined q.lexemes) 0
          ((marksFrom 0 q.lexemes).zip (params.map Value.literal)) =
        some (Query.substitute q.lexemes (params.map Value.literal)) :=
      renderAt?_eq (fun l hl hk => text_of_placeholder hls hl hk) [] [] rfl
        (by rw [List.length_map, hlen, hmarks])
    rw [if_pos hlen, if_pos hlen, Query.scanned, Query.sql, String.toList_ofList, hmarks]
    exact congrArg (Option.bind · _) htext
  · rw [if_neg hlen, if_neg hlen]

/-! ## 4. Shapes -/

/-- The shape of a statement by the bytes of its tokens. -/
inductive ScannedShape where
  | parameterized (query : Scanned) (unfit : Option InputUse)
  | streaming (columns : List Column)

/-- A shape without what is between the tokens of its query. -/
def Shape.scanned : Shape → ScannedShape
  | .parameterized q unfit => .parameterized q.scanned unfit
  | .streaming columns => .streaming columns

/-- The shape of a query without placeholders. -/
def Scanned.ofCallsAt (o : Overflow) (q : Scanned) :
    Option (List (List Argument)) → Except Halt (Except String ScannedShape)
  | none => .ok (.ok (.parameterized q none))
  | some [[.literal text]] => do
    match ← Column.ofStructureAt o (StringLiteral.decode text) with
    | .error f => return .error (Fault.columns f).message
    | .ok columns => return .ok (.streaming columns)
  | some calls => .ok (.ok (.parameterized q (some ⟨calls.length, calls.flatten.length⟩)))

/-- The shape of a statement with indices and slices. -/
def shapeAt (o : Overflow) (s : String) : Except Halt (Except String ScannedShape) := do
  match ← parseAt o s with
  | .error message => return .error message
  | .ok q =>
    if q.placeholders.isEmpty then do
      let calls ← inputCallsAt o s.toList q.tokens
      q.ofCallsAt o calls
    else return .ok (.parameterized q none)

/-- The structure among some calls takes no more bytes than all of the text. -/
theorem answers_ofCallsAt (q : Query) {calls : Option (List (List Argument))} {size : Nat}
    (hsize : ∀ text, calls = some [[.literal text]] → byteSize text ≤ size) :
    Answers o size (q.scanned.ofCallsAt o calls)
      (((Shape.ofCalls q calls).map Shape.scanned).mapError Fault.message) := by
  unfold Scanned.ofCallsAt
  split
  · exact .ok _
  · rename_i text
    have hle := Nat.le_trans (byteSize_decode_le text) (hsize text rfl)
    refine .bind ((Column.answers_ofStructureAt o _).mono hle) (.inl ?_)
    rw [Shape.ofCalls]
    cases Column.ofStructure (StringLiteral.decode text) <;> rfl
  · rename_i calls hno
    rw [Shape.ofCalls]
    · exact .ok _
    · exact hno

theorem lexemes_toList_of_parse (hq : Query.parse s = .ok q) :
    lexemes s.toList = .ok q.lexemes := by
  have hls := lexemes_of_parse hq
  have hsql := congrArg String.toList (Query.sql_parse hq)
  rw [Query.sql, String.toList_ofList] at hsql
  rwa [hsql] at hls

theorem isEmpty_placeholders (q : Query) : q.placeholders.isEmpty = !q.hasParameter := by
  rw [Query.placeholders, Query.hasParameter, List.isEmpty_map, Bool.eq_iff_iff]
  simp

/-- The literal of a call is a part of the text. -/
theorem byteSize_literal_le (h : Sliced s.toList ts) {text : List Char}
    (hcalls : inputCalls? ts = some [[.literal text]]) : byteSize text ≤ s.utf8ByteSize := by
  obtain ⟨c, rfl, -⟩ := inputCalls?_eq_literal_iff.1 hcalls
  obtain ⟨u, v, e, -, -⟩ := slice?_eq_some_iff.1 (h.text c.literal_mem)
  rw [← byteSize_toList, e]
  exact byteSize_le_of_isInfix ⟨u, v, by simp⟩

theorem answers_shapeAt (o : Overflow) (s : String) :
    Answers o s.utf8ByteSize (shapeAt o s)
      (((Shape.ofSql s).map Shape.scanned).mapError Fault.message) := by
  refine .bind (answers_parseAt o s) ?_
  cases hq : Query.parse s with
  | error f =>
    rw [Shape.ofSql, hq]
    exact .ok _
  | ok q =>
    have hlexemes := lexemes_toList_of_parse hq
    have hsliced : Sliced s.toList q.tokens := sliced_tokens hlexemes
    have hcalls := (answers_inputCallsAt o hsliced).mono (length_tokens_le hlexemes)
    show Answers o s.utf8ByteSize
      (if q.scanned.placeholders.isEmpty then
        inputCallsAt o s.toList (q.tokens.map Token.extent) >>= q.scanned.ofCallsAt o
      else .ok (.ok (ScannedShape.parameterized q.scanned none))) _
    rw [placeholders_scanned, isEmpty_placeholders, ofSql_of_parse hq]
    cases q.hasParameter with
    | true => exact .ok _
    | false => exact hcalls.bind (answers_ofCallsAt q fun text => byteSize_literal_le hsliced)

/-! ## 5. The whole -/

/-- **What is in range for the tokens of a text**: their bytes, and every index with which they are
    searched and read. -/
structure TokensInRange (o : Overflow) (s : String) (ts : List Token) : Prop where
  /-- A token starts and stops at characters of the text, in order. -/
  bounds : ∀ t ∈ ts, t.start < t.stop ∧ (⟨t.start⟩ : String.Pos.Raw).IsValid s ∧
    (⟨t.stop⟩ : String.Pos.Raw).IsValid s
  apart : ts.Pairwise fun t u => t.stop ≤ u.start
  /-- From the start of a token to the stop of it or a later one is a slice. -/
  spans : Sliced s.toList ts
  keywords : ∀ first ks, afterKeywordsAt? s.toList (ts.map Token.extent) first ks =
    some (if ks = [] then none
      else (afterKeywords? ks (ts.drop first)).map fun rest => ts.length - rest.length)
  arguments : ∀ first,
    Answers o s.utf8ByteSize (argumentsAt o s.toList (ts.map Token.extent) first)
      ((readArguments? (ts.drop first)).map fun p => (p.1, ts.length - p.2.length))
  nextCall : ∀ name first, nextCallAt? s.toList (ts.map Token.extent) name first =
    some ((nextCall? name (ts.drop first)).map fun rest => ts.length - rest.length)
  calls : ∀ name first,
    Answers o s.utf8ByteSize
      (callsAt o s.toList (ts.map Token.extent) name (ts.length + 1) first)
      (callsFrom name (ts.drop first))

theorem tokensInRange (o : Overflow) (h : lexemes s.toList = .ok ls) :
    TokensInRange o s (tokens ls) := by
  have hsliced := sliced_tokens h
  have hlaid := laid_tokensFrom ls 0 []
  have hle := length_tokens_le h
  constructor
  case bounds =>
    intro t ht
    have hsome := Option.isSome_of_eq_some (hsliced.text ht)
    obtain ⟨-, hstart, hstop⟩ := (isSome_slice?_iff s).1 hsome
    have hgood := ((lexemes_joined_iff ls).1 (by rwa [joined_lexemes h])).1 _
      (mem_lexemes_of_mem_tokens ht)
    have hpos : byteSize t.text ≠ 0 := fun h0 => text_ne_nil_of_good hgood (eq_nil_of_byteSize h0)
    exact ⟨Nat.lt_add_of_pos_right (Nat.pos_of_ne_zero hpos), hstart, hstop⟩
  case apart => exact hlaid.increasing.2
  case spans => exact hsliced
  case keywords => exact afterKeywordsAt?_eq hsliced
  case arguments => exact fun first => (answers_argumentsAt o hsliced first).mono hle
  case nextCall => exact nextCallAt?_eq hsliced
  case calls => exact fun name first => (answers_callsAt o hsliced name (by omega)).mono hle

/-- **What is in range for a text**, as SQL and as the structure of an `input` table. -/
structure InRange (o : Overflow) (s : String) : Prop where
  /-- The scanner reads no byte that is not there. -/
  tokenize : Answers o s.utf8ByteSize (tokenizeAt o s) ((scan s).mapError LexFault.message)
  tokens : ∀ ls, lexemes s.toList = .ok ls → TokensInRange o s (tokens ls)
  parse : Answers o s.utf8ByteSize (parseAt o s)
    (((Query.parse s).map Query.scanned).mapError Fault.message)
  /-- Placeholders are cut from left to right, each of one byte. -/
  placeholders : ∀ q, Query.parse s = .ok q → q.placeholders.Pairwise (· < ·) ∧
    ∀ n ∈ q.placeholders, slice? s.toList n (n + 1) = some ['?']
  bind : ∀ q, Query.parse s = .ok q → ∀ params, q.scanned.bindAt? params = some (q.bind params)
  shape : Answers o s.utf8ByteSize (shapeAt o s)
    (((Shape.ofSql s).map Shape.scanned).mapError Fault.message)
  columns : Answers o s.utf8ByteSize (Column.ofStructureAt o s.toList) (Column.ofStructure s.toList)
  /-- A name that is not closed is never found. -/
  names : ∀ t, Column.ofStructure s.toList ≠ .error (.unclosedName t)
  /-- Nothing is ever out of range. -/
  inBounds : tokenizeAt o s ≠ .error .range ∧ parseAt o s ≠ .error .range ∧
    shapeAt o s ≠ .error .range ∧ Column.ofStructureAt o s.toList ≠ .error .range
  /-- Where counters start over, and on every text of less than 2 GiB, there is an answer. -/
  returns : o = .wraps ∨ s.utf8ByteSize < 2 ^ 31 →
    (∃ x, tokenizeAt o s = .ok x) ∧ (∃ x, parseAt o s = .ok x) ∧ (∃ x, shapeAt o s = .ok x) ∧
      ∃ x, Column.ofStructureAt o s.toList = .ok x

theorem placeholders_increasing (hq : Query.parse s = .ok q) :
    q.placeholders.Pairwise (· < ·) ∧
      ∀ n ∈ q.placeholders, slice? s.toList n (n + 1) = some ['?'] := by
  have hrange := tokensInRange .wraps (lexemes_toList_of_parse hq)
  rw [Query.placeholders]
  constructor
  · refine List.pairwise_map.2 ((hrange.apart.filter _).imp_of_mem fun ht _ h => ?_)
    exact Nat.lt_of_lt_of_le (hrange.bounds _ (List.mem_filter.1 ht).1).1 h
  · intro n hn
    obtain ⟨t, ht, rfl⟩ := List.mem_map.1 hn
    obtain ⟨hmem, hk⟩ := List.mem_filter.1 ht
    have htext : t.text = ['?'] := text_of_placeholder (lexemes_of_parse hq)
      (mem_lexemes_of_mem_tokens hmem) (congrArg _ (beq_iff_eq.1 hk))
    have hslice := hrange.spans.text hmem
    rwa [Token.stop, htext] at hslice

theorem answers_columns (o : Overflow) (s : String) :
    Answers o s.utf8ByteSize (Column.ofStructureAt o s.toList) (Column.ofStructure s.toList) := by
  rw [← byteSize_toList]
  exact Column.answers_ofStructureAt o s.toList

/-- **Every text is in range**: no index and no slice fails, whatever the text, and what is found
    with them is what is found without. Only a counter can be full, on a text of 2 GiB, if the
    program is built to stop there. -/
theorem inRange (o : Overflow) (s : String) : InRange o s where
  tokenize := answers_tokenizeAt o s
  tokens _ h := tokensInRange o h
  parse := answers_parseAt o s
  placeholders _ hq := placeholders_increasing hq
  bind _ hq params := bindAt?_eq hq params
  shape := answers_shapeAt o s
  columns := answers_columns o s
  names := Column.ofStructure_ne_unclosedName s.toList
  inBounds := ⟨(answers_tokenizeAt o s).ne_range, (answers_parseAt o s).ne_range,
    (answers_shapeAt o s).ne_range, (answers_columns o s).ne_range⟩
  returns hsize := ⟨⟨_, (answers_tokenizeAt o s).eq_ok hsize⟩,
    ⟨_, (answers_parseAt o s).eq_ok hsize⟩, ⟨_, (answers_shapeAt o s).eq_ok hsize⟩,
    ⟨_, (answers_columns o s).eq_ok hsize⟩⟩

end StatelessSession.Sql
