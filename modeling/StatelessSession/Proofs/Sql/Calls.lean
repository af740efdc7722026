import Mathlib.Control.Monad.Basic
import StatelessSession.Sql.Shape

/-!
# Calls of `input` and the shape of a statement

Which statements stream is decided by a search: for `insert into`, from there for `from input`, and
from there for the argument lists of calls. Here the search is replaced by what it finds: the tokens
of the statement taken apart at these places.

* `afterKeywords?_pair_iff`, `afterKeywords?_pair_eq_none_iff` -- what the first run of two keywords
  is, and when there is none.
* `readArguments?_literal_iff` -- a list whose only argument is a string literal is three tokens.
* `callSites` -- every call of a function, by the tokens from its opening parenthesis on.
* `StructureCall` -- the tokens of a statement around the call that declares its columns.
* **`ofSql_streaming_iff`** -- a statement streams if and only if it has such a call, whose columns
  can be read, and no other that the search gets to see.
* **`ofSql_of_two_calls`** -- so with two calls it may still stream: the search sees no call before
  the one with the structure, and none after it whose list is never closed.

NOT here: which columns a structure declares.
-/

namespace StatelessSession.Sql

variable {k k' name : String} {ts rest : List Token} {t : Token}

/-! ## 1. Two keywords -/

/-- Two keywords stand next to each other among some tokens. -/
def Adjacent (k k' : String) (ts : List Token) : Prop :=
  ∃ u t t' v, ts = u ++ t :: t' :: v ∧ t.isKeyword k = true ∧ t'.isKeyword k' = true

theorem not_adjacent_nil : ¬ Adjacent k k' [] := by
  intro ⟨u, t, t', v, e, _⟩
  cases u <;> cases e

theorem adjacent_cons :
    Adjacent k k' (t :: ts) ↔
      (t.isKeyword k = true ∧ ∃ t' ∈ ts.head?, t'.isKeyword k' = true) ∨ Adjacent k k' ts := by
  constructor
  · intro ⟨u, t₁, t₂, v, e, h₁, h₂⟩
    cases u with
    | nil =>
      obtain ⟨rfl, rfl⟩ := List.cons.inj e
      exact .inl ⟨h₁, t₂, rfl, h₂⟩
    | cons x u =>
      obtain ⟨rfl, rfl⟩ := List.cons.inj e
      exact .inr ⟨u, t₁, t₂, v, rfl, h₁, h₂⟩
  · intro h
    rcases h with ⟨h₁, t', ht', h₂⟩ | ⟨u, t₁, t₂, v, rfl, h₁, h₂⟩
    · cases ts with
      | nil => cases ht'
      | cons x ts =>
        cases ht'
        exact ⟨[], t, t', ts, rfl, h₁, h₂⟩
    · exact ⟨t :: u, t₁, t₂, v, rfl, h₁, h₂⟩

/-- The second keyword would have to be behind the first token. -/
theorem not_adjacent_of_tail (h : ∀ t ∈ ts.tail, t.isKeyword k' = false) :
    ¬ Adjacent k k' ts := by
  intro ⟨u, t, t', v, e, _, h'⟩
  subst e
  have hmem : t' ∈ (u ++ t :: t' :: v).tail := by
    cases u <;> simp
  rw [h t' hmem] at h'
  cases h'

/-- Looking for two keywords side by side. -/
def decideAdjacent (k k' : String) : (ts : List Token) → Decidable (Adjacent k k' ts)
  | [] => isFalse not_adjacent_nil
  | _ :: ts =>
    have := decideAdjacent k k' ts
    decidable_of_iff _ adjacent_cons.symm

instance (k k' : String) (ts : List Token) : Decidable (Adjacent k k' ts) := decideAdjacent k k' ts

theorem dropKeywords?_pair_iff :
    dropKeywords? [k, k'] (t :: ts) = some rest ↔
      ∃ t', ts = t' :: rest ∧ t.isKeyword k = true ∧ t'.isKeyword k' = true := by
  cases ts with
  | nil => simp [dropKeywords?]
  | cons t' ts =>
    by_cases h₁ : t.isKeyword k = true
    · simp only [dropKeywords?, h₁, if_true, List.cons.injEq, true_and]
      constructor
      · intro h
        split at h
        · rename_i h₂
          cases h
          exact ⟨t', ⟨rfl, rfl⟩, h₂⟩
        · cases h
      · intro ⟨t₂, ⟨e, erest⟩, h₂⟩
        subst e erest
        rw [if_pos h₂]
    · simp [dropKeywords?, h₁]

theorem dropKeywords?_pair_eq_none (h : dropKeywords? [k, k'] (t :: ts) = none) :
    ¬ (t.isKeyword k = true ∧ ∃ t' ∈ ts.head?, t'.isKeyword k' = true) := by
  intro ⟨h₁, t', ht', h₂⟩
  cases ts with
  | nil => cases ht'
  | cons x ts =>
    cases ht'
    rw [dropKeywords?_pair_iff.2 ⟨t', rfl, h₁, h₂⟩] at h
    cases h

/-- The first two keywords next to each other, and the tokens that follow. -/
def FirstPair (k k' : String) (ts rest : List Token) : Prop :=
  ∃ u t t', ts = u ++ t :: t' :: rest ∧ t.isKeyword k = true ∧ t'.isKeyword k' = true ∧
    ¬ Adjacent k k' (u ++ [t])

/-- **The first run of two keywords** has them nowhere next to each other before. -/
theorem afterKeywords?_pair_iff :
    afterKeywords? [k, k'] ts = some rest ↔ FirstPair k k' ts rest := by
  unfold FirstPair
  -- the token after one of `u` is the same whether or not the list ends at `t`
  have hhead : ∀ (u v : List Token) (t y : Token),
      y ∈ (u ++ [t]).head? ↔ y ∈ (u ++ t :: v).head? := by
    intro u v t y
    cases u <;> rfl
  induction ts with
  | nil => simp [afterKeywords?]
  | cons x ts ih =>
    rw [afterKeywords?]
    cases hd : dropKeywords? [k, k'] (x :: ts) with
    | some rest' =>
      obtain ⟨x', rfl, h₁, h₂⟩ := dropKeywords?_pair_iff.1 hd
      constructor
      · intro h
        cases h
        exact ⟨[], x, x', rfl, h₁, h₂, not_adjacent_of_tail nofun⟩
      · intro ⟨u, t, t', e, _, _, hno⟩
        cases u with
        | nil =>
          cases e
          rfl
        | cons y u =>
          -- a later run would have this one before it
          rw [List.cons_append, List.cons.injEq] at e
          obtain ⟨rfl, e⟩ := e
          have hx' : x' ∈ (u ++ [t]).head? := by
            rw [hhead u (t' :: rest), ← e]
            rfl
          exact absurd (adjacent_cons.2 (.inl ⟨h₁, x', hx', h₂⟩)) hno
    | none =>
      have hnone := dropKeywords?_pair_eq_none hd
      refine Iff.trans ih ?_
      constructor
      · intro ⟨u, t, t', e, h₁, h₂, hno⟩
        subst e
        refine ⟨x :: u, t, t', rfl, h₁, h₂, fun hadj => ?_⟩
        rcases adjacent_cons.1 hadj with ⟨hx, y, hy, h'⟩ | hadj
        · exact hnone ⟨hx, y, (hhead u (t' :: rest) t y).1 hy, h'⟩
        · exact hno hadj
      · intro ⟨u, t, t', e, h₁, h₂, hno⟩
        cases u with
        | nil =>
          obtain ⟨rfl, rfl⟩ := List.cons.inj e
          exact absurd ⟨h₁, t', rfl, h₂⟩ hnone
        | cons y u =>
          obtain ⟨rfl, rfl⟩ := List.cons.inj e
          exact ⟨u, t, t', rfl, h₁, h₂, fun hadj => hno (adjacent_cons.2 (.inr hadj))⟩

theorem afterKeywords?_pair_eq_none_iff :
    afterKeywords? [k, k'] ts = none ↔ ¬ Adjacent k k' ts := by
  induction ts with
  | nil => exact iff_of_true rfl not_adjacent_nil
  | cons t ts ih =>
    rw [afterKeywords?, adjacent_cons]
    cases hd : dropKeywords? [k, k'] (t :: ts) with
    | some rest =>
      obtain ⟨t', rfl, h₁, h₂⟩ := dropKeywords?_pair_iff.1 hd
      exact iff_of_false nofun (not_not_intro (.inl ⟨h₁, t', rfl, h₂⟩))
    | none =>
      rw [or_iff_right (dropKeywords?_pair_eq_none hd)]
      exact ih

/-! ## 2. Argument lists -/

theorem ofTokens_eq_literal_iff {text : List Char} :
    Argument.ofTokens ts = .literal text ↔ ∃ l, ts = [l] ∧ l.kind = .string ∧ l.text = text := by
  match ts with
  | [] => simp [Argument.ofTokens]
  | [l] =>
    by_cases h : l.kind = .string
    · simp [Argument.ofTokens, h]
    · simp [Argument.ofTokens, h]
  | _ :: _ :: _ => simp [Argument.ofTokens]

/-- What is read as a single literal has no argument before it, and its tokens are those that were
    read since the list was opened. -/
theorem argumentsFrom_literal {depth : UInt32} {current : List Token} {done : List Argument}
    {text : List Char} (h : argumentsFrom depth current done ts = some ([.literal text], rest)) :
    done = [] ∧ ∃ u c, ts = u ++ c :: rest ∧ c.isSymbol ')' = true ∧
      Argument.ofTokens (current.reverse ++ u) = .literal text := by
  fun_induction argumentsFrom depth current done ts with
  | case1 => cases h
  | case2 depth current done t ts _ ih =>
    obtain ⟨hd, u, c, rfl, hc, ha⟩ := ih h
    exact ⟨hd, t :: u, c, rfl, hc, by simpa using ha⟩
  | case3 => cases h
  | case4 depth current done t ts _ hclose _ =>
    simp only [Option.some.injEq, Prod.mk.injEq, List.reverse_cons] at h
    obtain ⟨hargs, rfl⟩ := h
    have hlen := congrArg List.length hargs
    simp only [List.length_append, List.length_reverse, List.length_cons, List.length_nil] at hlen
    have hdone : done = [] := List.eq_nil_of_length_eq_zero (by omega)
    subst hdone
    refine ⟨rfl, [], t, rfl, hclose.1, ?_⟩
    simpa using hargs
  | case5 depth current done t ts _ _ _ ih =>
    obtain ⟨hd, u, c, rfl, hc, ha⟩ := ih h
    exact ⟨hd, t :: u, c, rfl, hc, by simpa using ha⟩
  | case6 depth current done t ts _ _ _ _ ih =>
    -- there is an argument before the comma
    cases (ih h).1
  | case7 depth current done t ts _ _ _ _ ih =>
    obtain ⟨hd, u, c, rfl, hc, ha⟩ := ih h
    exact ⟨hd, t :: u, c, rfl, hc, by simpa using ha⟩

/-- **A list whose only argument is a string literal** is a parenthesis, the literal and a
    parenthesis. -/
theorem readArguments?_literal_iff {text : List Char} :
    readArguments? ts = some ([.literal text], rest) ↔
      ∃ o l c, ts = o :: l :: c :: rest ∧ o.isSymbol '(' = true ∧ l.kind = .string ∧
        l.text = text ∧ c.isSymbol ')' = true := by
  constructor
  · intro h
    cases ts with
    | nil => cases h
    | cons o ts =>
      rw [readArguments?] at h
      split at h
      · rename_i ho
        obtain ⟨-, u, c, rfl, hc, ha⟩ := argumentsFrom_literal h
        obtain ⟨l, rfl, hk, htext⟩ := ofTokens_eq_literal_iff.1 ha
        exact ⟨o, l, c, rfl, ho, hk, htext, hc⟩
      · cases h
  · rintro ⟨o, l, c, rfl, ho, hk, htext, hc⟩
    have hck : c.kind = .symbol ')' := by simpa [Token.isSymbol] using hc
    have hlast : argumentsFrom 0 [l] [] (c :: rest) = some ([.literal text], rest) := by
      simp [argumentsFrom, Token.opens, Token.isSymbol, hck, Argument.ofTokens, hk, htext]
    rw [readArguments?, if_pos ho, ← hlast, argumentsFrom]
    simp [Token.opens, Token.closes, Token.isSymbol, hk]

/-! ## 3. Calls -/

/-- The calls that are read: one whose list is closed, and those after it. -/
theorem callsFrom_eq (name : String) (ts : List Token) :
    callsFrom name ts =
      match readArguments? ts with
      | none => []
      | some (args, rest) => args :: ((nextCall? name rest).map (callsFrom name)).getD [] := by
  rw [callsFrom]
  split
  · rename_i h
    rw [h]
  · rename_i args rest h
    rw [h]
    dsimp only
    congr 1
    split
    · rename_i h'
      rw [h']
      rfl
    · rename_i h'
      rw [h']
      rfl

theorem callsFrom_eq_nil_iff : callsFrom name ts = [] ↔ readArguments? ts = none := by
  rw [callsFrom_eq]
  split
  · rename_i h
    simp [h]
  · rename_i h
    simp [h]

/-- **One call is read**, with these arguments: no other is found after it, or the list of the next
    one is never closed. -/
theorem callsFrom_eq_singleton_iff {args : List Argument} :
    callsFrom name ts = [args] ↔
      ∃ rest, readArguments? ts = some (args, rest) ∧
        ∀ site ∈ nextCall? name rest, readArguments? site = none := by
  rw [callsFrom_eq]
  cases readArguments? ts with
  | none => simp
  | some p =>
    obtain ⟨args', rest⟩ := p
    have hmore : ((nextCall? name rest).map (callsFrom name)).getD [] = [] ↔
        ∀ site ∈ nextCall? name rest, readArguments? site = none := by
      cases nextCall? name rest with
      | none => simp
      | some site => simp [callsFrom_eq_nil_iff]
    simp only [List.cons.injEq, hmore, Option.some.injEq, Prod.mk.injEq]
    constructor
    · intro ⟨e, hall⟩
      exact ⟨rest, ⟨e, rfl⟩, hall⟩
    · intro ⟨_, ⟨e, erest⟩, hall⟩
      subst erest
      exact ⟨e, hall⟩

/-- Every call of a function, by the tokens from its opening parenthesis on. -/
def callSites (name : String) : List Token → List (List Token)
  | [] => []
  | t :: ts =>
    if t.isKeyword name && ts.head?.any (·.isSymbol '(') then ts :: callSites name ts
    else callSites name ts

theorem nextCall?_eq_head? (name : String) (ts : List Token) :
    nextCall? name ts = (callSites name ts).head? := by
  induction ts with
  | nil => rfl
  | cons t ts ih =>
    rw [nextCall?, callSites]
    split
    · rfl
    · exact ih

theorem callSites_cons_of_not (h : t.isKeyword name = false) :
    callSites name (t :: ts) = callSites name ts := by
  rw [callSites, h]
  simp

/-- The calls among tokens in two parts, the second of which does not begin with the parenthesis of
    one. -/
theorem length_callSites_append {u : List Token} (h : ts.head?.any (·.isSymbol '(') = false) :
    (callSites name (u ++ ts)).length =
      (callSites name u).length + (callSites name ts).length := by
  induction u with
  | nil => simp [callSites]
  | cons t u ih =>
    have hhead : (u ++ ts).head?.any (·.isSymbol '(') = u.head?.any (·.isSymbol '(') := by
      cases u with
      | nil => exact h
      | cons x u => rfl
    rw [List.cons_append, callSites, callSites, hhead]
    split
    · simp only [List.length_cons, ih]
      omega
    · exact ih

/-! ## 4. The call with the structure -/

/-- **The tokens of a statement around the call that declares its columns**: the first
    `insert into`, the first `from input` after it, and a string literal in parentheses. -/
structure StructureCall (ts : List Token) where
  lead : List Token
  insertWord : Token
  intoWord : Token
  middle : List Token
  fromWord : Token
  inputWord : Token
  opening : Token
  literal : Token
  closing : Token
  after : List Token
  tokens_eq : ts = lead ++ insertWord :: intoWord :: (middle ++ fromWord :: inputWord ::
    opening :: literal :: closing :: after)
  isInsert : insertWord.isKeyword "insert" = true
  isInto : intoWord.isKeyword "into" = true
  firstInsert : ¬ Adjacent "insert" "into" (lead ++ [insertWord])
  isFrom : fromWord.isKeyword "from" = true
  isInput : inputWord.isKeyword "input" = true
  firstFrom : ¬ Adjacent "from" "input" (middle ++ [fromWord])
  isOpening : opening.isSymbol '(' = true
  isLiteral : literal.kind = .string
  isClosing : closing.isSymbol ')' = true

namespace StructureCall

theorem literal_mem (c : StructureCall ts) : c.literal ∈ ts :=
  (congrArg (c.literal ∈ ·) c.tokens_eq).mpr (by simp)

/-- The columns that the literal declares. -/
def columns (c : StructureCall ts) : Except ColumnFault (List Column) :=
  Column.ofStructure (StringLiteral.decode c.literal.text)

/-- The calls of `input` before this one. -/
def earlier (c : StructureCall ts) : List (List Token) :=
  callSites "input" (c.lead ++ c.insertWord :: c.intoWord :: (c.middle ++ [c.fromWord]))

/-- The calls of `input` after this one. -/
def later (c : StructureCall ts) : List (List Token) := callSites "input" c.after

theorem not_isKeyword_of_kind {l : Token} (h : l.kind ≠ .word) : l.isKeyword name = false := by
  simp [Token.isKeyword, h]

theorem not_isSymbol_of_isKeyword {c : Char} (h : t.isKeyword name = true) :
    t.isSymbol c = false := by
  have hk : t.kind = .word := by
    simp only [Token.isKeyword, Bool.and_eq_true, beq_iff_eq] at h
    exact h.1
  rw [Token.isSymbol, hk]
  rfl

/-- From its name on, the first call is this one and the others are after it. -/
theorem callSites_inputWord (c : StructureCall ts) :
    callSites "input" (c.inputWord :: c.opening :: c.literal :: c.closing :: c.after) =
      (c.opening :: c.literal :: c.closing :: c.after) :: c.later := by
  have hopen : c.opening.kind ≠ .word := fun h => by
    have ho := c.isOpening
    simp [Token.isSymbol, h] at ho
  have hliteral : c.literal.kind ≠ .word := fun h => by
    have hl := c.isLiteral
    simp [h] at hl
  have hclose : c.closing.kind ≠ .word := fun h => by
    have hc := c.isClosing
    simp [Token.isSymbol, h] at hc
  rw [callSites, c.isInput, List.head?_cons, Option.any_some, c.isOpening, Bool.and_self,
    if_pos rfl, callSites_cons_of_not (not_isKeyword_of_kind hopen),
    callSites_cons_of_not (not_isKeyword_of_kind hliteral),
    callSites_cons_of_not (not_isKeyword_of_kind hclose)]
  rfl

/-- **Every call of `input` is before this one, this one or after it.** -/
theorem length_callSites (c : StructureCall ts) :
    (callSites "input" ts).length = c.earlier.length + 1 + c.later.length := by
  have hsplit : ts = (c.lead ++ c.insertWord :: c.intoWord :: (c.middle ++ [c.fromWord])) ++
      c.inputWord :: c.opening :: c.literal :: c.closing :: c.after := by
    refine c.tokens_eq.trans ?_
    simp
  have hword : (c.inputWord :: c.opening :: c.literal :: c.closing :: c.after).head?.any
      (·.isSymbol '(') = false := not_isSymbol_of_isKeyword c.isInput
  have hlen := congrArg (fun us => (callSites "input" us).length) hsplit
  simp only [length_callSites_append hword, c.callSites_inputWord, List.length_cons] at hlen
  simp only [earlier]
  omega

end StructureCall

/-- **The search finds one call with one literal** if and only if there is a call with a structure
    and none after it that can be read. -/
theorem inputCalls?_eq_literal_iff {text : List Char} :
    inputCalls? ts = some [[.literal text]] ↔
      ∃ c : StructureCall ts, c.literal.text = text ∧
        ∀ site ∈ c.later.head?, readArguments? site = none := by
  simp only [inputCalls?, Option.bind_eq_bind, Option.bind_eq_some_iff, Option.pure_def,
    Option.some.injEq, callsFrom_eq_singleton_iff, readArguments?_literal_iff,
    afterKeywords?_pair_iff, FirstPair, nextCall?_eq_head?]
  constructor
  · intro ⟨_, ⟨lead, ins, into, e, h₁, h₂, h₃⟩, _, ⟨middle, fr, inp, e', h₄, h₅, h₆⟩, after,
      ⟨o, l, c, e'', ho, hl, htext, hc⟩, hlater⟩
    subst e e' e''
    exact ⟨⟨lead, ins, into, middle, fr, inp, o, l, c, after, rfl, h₁, h₂, h₃, h₄, h₅, h₆, ho, hl,
      hc⟩, htext, hlater⟩
  · intro ⟨c, htext, hlater⟩
    exact ⟨_, ⟨c.lead, c.insertWord, c.intoWord, c.tokens_eq, c.isInsert, c.isInto, c.firstInsert⟩,
      _, ⟨c.middle, c.fromWord, c.inputWord, rfl, c.isFrom, c.isInput, c.firstFrom⟩, c.after,
      ⟨c.opening, c.literal, c.closing, rfl, c.isOpening, c.isLiteral, htext, c.isClosing⟩, hlater⟩

/-! ## 5. Shapes -/

variable {s : String} {q : Query} {columns : List Column}

theorem ofCalls_streaming_iff {calls : Option (List (List Argument))} :
    Shape.ofCalls q calls = .ok (.streaming columns) ↔
      ∃ text, calls = some [[.literal text]] ∧
        Column.ofStructure (StringLiteral.decode text) = .ok columns := by
  unfold Shape.ofCalls
  split
  · simp
  · rename_i text
    split
    · rename_i hcolumns
      simp [hcolumns]
    · rename_i hcolumns
      simp [hcolumns]
  · rename_i calls hno
    constructor
    · intro h
      cases h
    · intro ⟨text, e, _⟩
      exact absurd e (by simpa using hno text)

/-- A statement that does not stream is the query that was read, or has a structure at fault. -/
theorem ofCalls_cases (q : Query) (calls : Option (List (List Argument))) :
    (∃ columns, Shape.ofCalls q calls = .ok (.streaming columns)) ∨
      (∃ use, Shape.ofCalls q calls = .ok (.parameterized q use)) ∨
        ∃ f, Shape.ofCalls q calls = .error (.columns f) := by
  unfold Shape.ofCalls
  split
  · exact .inr (.inl ⟨_, rfl⟩)
  · split
    · exact .inr (.inr ⟨_, rfl⟩)
    · exact .inl ⟨_, rfl⟩
  · exact .inr (.inl ⟨_, rfl⟩)

theorem ofSql_of_parse (hq : Query.parse s = .ok q) :
    Shape.ofSql s = if q.hasParameter then .ok (.parameterized q none)
      else Shape.ofCalls q (inputCalls? q.tokens) := by
  rw [Shape.ofSql, hq]

/-- **A statement streams if and only if** it has no placeholder, it calls `input` with a structure
    that can be read, and there is no call after that one or the list of the next is never
    closed. -/
theorem ofSql_streaming_iff (hq : Query.parse s = .ok q) :
    Shape.ofSql s = .ok (.streaming columns) ↔
      q.hasParameter = false ∧ ∃ c : StructureCall q.tokens, c.columns = .ok columns ∧
        ∀ site ∈ c.later.head?, readArguments? site = none := by
  rw [ofSql_of_parse hq]
  cases q.hasParameter with
  | true => simp
  | false =>
    simp only [Bool.false_eq_true, if_false, true_and, ofCalls_streaming_iff,
      inputCalls?_eq_literal_iff]
    constructor
    · intro ⟨text, ⟨c, htext, hlater⟩, hcolumns⟩
      subst htext
      exact ⟨c, hcolumns, hlater⟩
    · intro ⟨c, hcolumns, hlater⟩
      exact ⟨_, ⟨c, rfl, hlater⟩, hcolumns⟩

theorem ofSql_cases (hq : Query.parse s = .ok q) :
    (∃ columns, Shape.ofSql s = .ok (.streaming columns)) ∨
      (∃ use, Shape.ofSql s = .ok (.parameterized q use)) ∨
        ∃ f, Shape.ofSql s = .error (.columns f) := by
  rw [ofSql_of_parse hq]
  split
  · exact .inr (.inl ⟨_, rfl⟩)
  · exact ofCalls_cases q _

/-- No other call is seen: all of them stand before this one, or the list of the next one after it
    is never closed. -/
def StructureCall.Alone (c : StructureCall ts) : Prop :=
  (c.later = [] ∧ c.earlier ≠ []) ∨ ∃ site ∈ c.later.head?, readArguments? site = none

/-- **With two calls of `input` or more** a statement still streams if and only if one of them
    declares the columns and the others are not seen. Otherwise it is the query that was read, or
    has a structure at fault. -/
theorem ofSql_of_two_calls (hq : Query.parse s = .ok q)
    (htwo : 2 ≤ (callSites "input" q.tokens).length) :
    (∀ columns, Shape.ofSql s = .ok (.streaming columns) ↔
      q.hasParameter = false ∧ ∃ c : StructureCall q.tokens, c.columns = .ok columns ∧ c.Alone) ∧
    ((∃ columns, Shape.ofSql s = .ok (.streaming columns)) ∨
      (∃ use, Shape.ofSql s = .ok (.parameterized q use)) ∨
        ∃ f, Shape.ofSql s = .error (.columns f)) := by
  refine ⟨fun columns => ?_, ofSql_cases hq⟩
  have halone : ∀ c : StructureCall q.tokens,
      c.Alone ↔ ∀ site ∈ c.later.head?, readArguments? site = none := by
    intro c
    have hlen := c.length_callSites
    rw [StructureCall.Alone]
    cases hlater : c.later with
    | nil =>
      have hearlier : c.earlier ≠ [] := fun e => by
        rw [e, hlater] at hlen
        simp only [List.length_nil] at hlen
        omega
      simp [hearlier]
    | cons site sites => simp
  rw [ofSql_streaming_iff hq]
  simp only [halone]

/-- An insert that reads from `input` and begins a second call, which is never closed. -/
def openSecondCall : String := "insert into t select * from input('a Int8') join input('b Int8'"

/-- It streams by the first call. -/
theorem ofSql_openSecondCall :
    ∃ q, Query.parse openSecondCall = .ok q ∧ 2 ≤ (callSites "input" q.tokens).length ∧
      Shape.ofSql openSecondCall = .ok (.streaming [⟨"a", "Int8"⟩]) ∧
      ∃ c : StructureCall q.tokens, c.columns = .ok [⟨"a", "Int8"⟩] ∧ c.Alone := by
  have hshape : Shape.ofSql openSecondCall = .ok (.streaming [⟨"a", "Int8"⟩]) := by decide +kernel
  have hcount : (Query.parse openSecondCall).map
      (fun q => (callSites "input" q.tokens).length) = .ok 2 := by decide +kernel
  obtain ⟨q, hq, hlen⟩ := map_eq_ok_iff.1 hcount
  have htwo : 2 ≤ (callSites "input" q.tokens).length := Nat.le_of_eq hlen.symm
  obtain ⟨hstreams, -⟩ := ofSql_of_two_calls hq htwo
  obtain ⟨-, c, hcolumns, halone⟩ := (hstreams _).1 hshape
  exact ⟨q, hq, htwo, hshape, c, hcolumns, halone⟩

end StatelessSession.Sql
