import StatelessSession.Error
import StatelessSession.Proofs.Sql.Calls

/-!
# The decision on a statement

How a statement is executed is decided in a row: by a placeholder, by the first `insert into`, by
the first `from input` after it, by what stands in parentheses there, and by the calls of `input`
that follow. Here the decision is written down as a relation, one case for each way it can go, and
the program is shown to decide by it: of every text that can be read, with one result.

* `OpensLiteral`, `Calls`, `StructureCall.Decisive` -- what the cases ask.
* `Decides` -- the cases.
* `ofSql_of_decides`, `decides_ofSql` -- each case leads to its result, and there is always one.
* **`ofSql_decided`** -- the whole decision, and which errors there are.
* `ofSql_openSecondFault` -- a text with a second call that fails by the structure of its first.

NOT here: what makes a text unreadable, and what makes a structure faulty.
-/

namespace StatelessSession.Sql

variable {name : String} {ts : List Token} {q : Query} {s : String}

/-! ## 1. What the cases ask -/

/-- A string literal in parentheses comes first. -/
def OpensLiteral (ts : List Token) : Prop :=
  ∃ o l c rest, ts = o :: l :: c :: rest ∧ o.isSymbol '(' = true ∧ l.kind = .string ∧
    c.isSymbol ')' = true

theorem opensLiteral_iff :
    OpensLiteral ts ↔ ∃ text rest, readArguments? ts = some ([.literal text], rest) := by
  simp only [readArguments?_literal_iff]
  constructor
  · intro ⟨o, l, c, rest, e, ho, hl, hc⟩
    exact ⟨l.text, rest, o, l, c, e, ho, hl, rfl, hc⟩
  · intro ⟨_, rest, o, l, c, e, ho, hl, _, hc⟩
    exact ⟨o, l, c, rest, e, ho, hl, hc⟩

/-- The name of a function stands before a parenthesis. -/
def Calls (name : String) (ts : List Token) : Prop :=
  ∃ u t o v, ts = u ++ t :: o :: v ∧ t.isKeyword name = true ∧ o.isSymbol '(' = true

theorem calls_cons {t : Token} :
    Calls name (t :: ts) ↔
      (t.isKeyword name = true ∧ ∃ o ∈ ts.head?, o.isSymbol '(' = true) ∨ Calls name ts := by
  constructor
  · intro ⟨u, t', o, v, e, ht, ho⟩
    cases u with
    | nil =>
      obtain ⟨rfl, rfl⟩ := List.cons.inj e
      exact .inl ⟨ht, o, rfl, ho⟩
    | cons x u => exact .inr ⟨u, t', o, v, (List.cons.inj e).2, ht, ho⟩
  · intro h
    rcases h with ⟨ht, o, ho, hopens⟩ | ⟨u, t', o, v, rfl, ht, ho⟩
    · cases ts with
      | nil => cases ho
      | cons x ts =>
        cases ho
        exact ⟨[], t, o, ts, rfl, ht, hopens⟩
    · exact ⟨t :: u, t', o, v, rfl, ht, ho⟩

/-- **There are no calls** of a function where its name is nowhere before a parenthesis. -/
theorem callSites_eq_nil_iff : callSites name ts = [] ↔ ¬ Calls name ts := by
  induction ts with
  | nil =>
    refine iff_of_true rfl ?_
    rintro ⟨u, t, o, v, e, -, -⟩
    cases u <;> cases e
  | cons t ts ih =>
    rw [callSites, calls_cons]
    by_cases ht : t.isKeyword name = true ∧ ∃ o ∈ ts.head?, o.isSymbol '(' = true
    · have hopens : (t.isKeyword name && ts.head?.any (·.isSymbol '(')) = true := by
        simpa [Option.any_eq_true] using ht
      rw [if_pos hopens]
      exact iff_of_false (List.cons_ne_nil _ _) (not_not_intro (.inl ht))
    · have hnone : ¬ (t.isKeyword name && ts.head?.any (·.isSymbol '(')) = true := by
        simpa [Option.any_eq_true] using ht
      rw [if_neg hnone, or_iff_right ht]
      exact ih

/-- The calls among the last tokens are the last calls. -/
theorem callSites_suffix (u v : List Token) : callSites name v <:+ callSites name (u ++ v) := by
  induction u with
  | nil => exact List.suffix_rfl
  | cons t u ih =>
    rw [List.cons_append, callSites]
    split
    · exact ih.trans (List.suffix_cons _ _)
    · exact ih

/-- What the search finds, if both pairs of words are there. -/
theorem inputCalls?_of_firstPair {rest site : List Token}
    (hinsert : FirstPair "insert" "into" ts rest) (hfrom : FirstPair "from" "input" rest site) :
    inputCalls? ts = some (callsFrom "input" site) := by
  simp only [inputCalls?, afterKeywords?_pair_iff.2 hinsert, afterKeywords?_pair_iff.2 hfrom,
    Option.bind_eq_bind, Option.bind_some, Option.pure_def]

namespace StructureCall

/-- The tokens of the call, from its parenthesis on. -/
def site (c : StructureCall ts) : List Token := c.opening :: c.literal :: c.closing :: c.after

/-- No further call is read: there is none, or the list of the next is never closed. -/
def Decisive (c : StructureCall ts) : Prop := ∀ site ∈ c.later.head?, readArguments? site = none

/-- What the columns make of the statement. -/
def shape (c : StructureCall ts) : Except Fault Shape :=
  (c.columns.mapError .columns).map .streaming

theorem readArguments?_site (c : StructureCall ts) :
    readArguments? c.site = some ([.literal c.literal.text], c.after) :=
  readArguments?_literal_iff.2
    ⟨c.opening, c.literal, c.closing, rfl, c.isOpening, c.isLiteral, rfl, c.isClosing⟩

theorem firstInsertInto (c : StructureCall ts) :
    FirstPair "insert" "into" ts (c.middle ++ c.fromWord :: c.inputWord :: c.site) :=
  ⟨c.lead, c.insertWord, c.intoWord, c.tokens_eq, c.isInsert, c.isInto, c.firstInsert⟩

theorem firstFromInput (c : StructureCall ts) :
    FirstPair "from" "input" (c.middle ++ c.fromWord :: c.inputWord :: c.site) c.site :=
  ⟨c.middle, c.fromWord, c.inputWord, rfl, c.isFrom, c.isInput, c.firstFrom⟩

/-- The search finds the call, and what comes after it. -/
theorem inputCalls?_eq (c : StructureCall ts) :
    inputCalls? ts = some (callsFrom "input" c.site) :=
  inputCalls?_of_firstPair c.firstInsertInto c.firstFromInput

/-- **The literal is all that is read** if and only if no further call is. -/
theorem callsFrom_site_iff (c : StructureCall ts) {text : List Char} :
    callsFrom "input" c.site = [[.literal text]] ↔ c.literal.text = text ∧ c.Decisive := by
  rw [callsFrom_eq_singleton_iff, c.readArguments?_site]
  simp only [nextCall?_eq_head?]
  constructor
  · intro ⟨_, e, hlater⟩
    cases e
    exact ⟨rfl, hlater⟩
  · rintro ⟨rfl, hlater⟩
    exact ⟨c.after, rfl, hlater⟩

/-- If the last call of all is never closed, it is another one, and comes later. -/
theorem calls_after (c : StructureCall ts)
    (hlast : (callSites "input" ts).getLast?.bind readArguments? = none) :
    Calls "input" c.after := by
  by_contra hno
  have hlater : c.later = [] := callSites_eq_nil_iff.2 hno
  have hsuffix : [c.site] <:+ callSites "input" ts := by
    have hthis : callSites "input" (c.inputWord :: c.site) = [c.site] :=
      c.callSites_inputWord.trans (by rw [hlater, site])
    have happend : ts = (c.lead ++ c.insertWord :: c.intoWord :: (c.middle ++ [c.fromWord])) ++
        c.inputWord :: c.site := c.tokens_eq.trans (by simp [site])
    calc [c.site]
      _ = callSites "input" (c.inputWord :: c.site) := hthis.symm
      _ <:+ _ := callSites_suffix _ _
      _ = callSites "input" ts := congrArg _ happend.symm
  obtain ⟨sites, hsites⟩ := hsuffix
  rw [← hsites, List.getLast?_concat, Option.bind_some, c.readArguments?_site] at hlast
  cases hlast

end StructureCall

/-! ## 2. The cases -/

/-- How often the tokens from a parenthesis on call `input`. -/
def InputUse.ofSite (site : List Token) : InputUse :=
  ⟨(callsFrom "input" site).length, (callsFrom "input" site).flatten.length⟩

/-- **The decision on a query**, case by case. -/
inductive Decides (q : Query) : Except Fault Shape → Prop where
  /-- A placeholder decides at once. -/
  | placeholder (hp : q.hasParameter = true) : Decides q (.ok (.parameterized q none))
  /-- There is no `insert into`. -/
  | noInsert (hp : q.hasParameter = false) (hno : ¬ Adjacent "insert" "into" q.tokens) :
      Decides q (.ok (.parameterized q none))
  /-- There is no `from input` after the first one. -/
  | noInput {rest : List Token} (hp : q.hasParameter = false)
      (hinsert : FirstPair "insert" "into" q.tokens rest)
      (hno : ¬ Adjacent "from" "input" rest) : Decides q (.ok (.parameterized q none))
  /-- The first one after it is not followed by a string literal in parentheses. -/
  | noLiteral {rest site : List Token} (hp : q.hasParameter = false)
      (hinsert : FirstPair "insert" "into" q.tokens rest)
      (hfrom : FirstPair "from" "input" rest site) (hno : ¬ OpensLiteral site) :
      Decides q (.ok (.parameterized q (some (.ofSite site))))
  /-- It is, but a further call is read. -/
  | further (hp : q.hasParameter = false) (c : StructureCall q.tokens) (hno : ¬ c.Decisive) :
      Decides q (.ok (.parameterized q (some (.ofSite c.site))))
  /-- It is, and the literal decides. -/
  | literal (hp : q.hasParameter = false) (c : StructureCall q.tokens) (hc : c.Decisive) :
      Decides q c.shape

/-- Calls that are not one literal make no columns. -/
theorem ofCalls_of_ne {calls : List (List Argument)} (h : ∀ text, calls ≠ [[.literal text]]) :
    Shape.ofCalls q (some calls) =
      .ok (.parameterized q (some ⟨calls.length, calls.flatten.length⟩)) := by
  unfold Shape.ofCalls
  split
  · rename_i e
    cases e
  · rename_i text e
    exact absurd (Option.some.inj e) (h text)
  · rename_i e
    cases e
    rfl

theorem ofCalls_literal (q : Query) (c : StructureCall ts) :
    Shape.ofCalls q (some [[.literal c.literal.text]]) = c.shape := by
  rw [StructureCall.shape, StructureCall.columns, Shape.ofCalls]
  cases Column.ofStructure (StringLiteral.decode c.literal.text) with
  | error f => rfl
  | ok columns => rfl

/-- **Each case leads to its result.** -/
theorem ofSql_of_decides (hq : Query.parse s = .ok q) {r : Except Fault Shape}
    (h : Decides q r) : Shape.ofSql s = r := by
  rw [ofSql_of_parse hq]
  cases h with
  | placeholder hp => rw [if_pos hp]
  | noInsert hp hno =>
    have hcalls : inputCalls? q.tokens = none := by
      rw [inputCalls?, afterKeywords?_pair_eq_none_iff.2 hno]
      rfl
    rw [hp, hcalls]
    rfl
  | noInput hp hinsert hno =>
    have hcalls : inputCalls? q.tokens = none := by
      simp only [inputCalls?, afterKeywords?_pair_iff.2 hinsert,
        afterKeywords?_pair_eq_none_iff.2 hno, Option.bind_eq_bind, Option.bind_some,
        Option.bind_none]
    rw [hp, hcalls]
    rfl
  | @noLiteral _ site hp hinsert hfrom hno =>
    have hne : ∀ text, callsFrom "input" site ≠ [[.literal text]] := by
      intro text e
      obtain ⟨rest, hread, -⟩ := callsFrom_eq_singleton_iff.1 e
      exact hno (opensLiteral_iff.2 ⟨text, rest, hread⟩)
    rw [hp, inputCalls?_of_firstPair hinsert hfrom]
    exact ofCalls_of_ne hne
  | further hp c hno =>
    rw [hp, c.inputCalls?_eq]
    exact ofCalls_of_ne fun text e => hno (c.callsFrom_site_iff.1 e).2
  | literal hp c hc =>
    rw [hp, c.inputCalls?_eq, c.callsFrom_site_iff.2 ⟨rfl, hc⟩]
    exact ofCalls_literal q c

/-- **There is always a case.** -/
theorem exists_decides (q : Query) : ∃ r, Decides q r := by
  cases hp : q.hasParameter with
  | true => exact ⟨_, .placeholder hp⟩
  | false =>
    cases hinsert : afterKeywords? ["insert", "into"] q.tokens with
    | none => exact ⟨_, .noInsert hp (afterKeywords?_pair_eq_none_iff.1 hinsert)⟩
    | some rest =>
      have hinsert := afterKeywords?_pair_iff.1 hinsert
      cases hfrom : afterKeywords? ["from", "input"] rest with
      | none => exact ⟨_, .noInput hp hinsert (afterKeywords?_pair_eq_none_iff.1 hfrom)⟩
      | some site =>
        have hfrom := afterKeywords?_pair_iff.1 hfrom
        by_cases hopens : OpensLiteral site
        · obtain ⟨u, t, t', e, h₁, h₂, h₃⟩ := hinsert
          obtain ⟨v, t'', t''', e', h₄, h₅, h₆⟩ := hfrom
          obtain ⟨o, l, c, after, e'', ho, hl, hc⟩ := hopens
          subst e' e''
          let call : StructureCall q.tokens :=
            ⟨u, t, t', v, t'', t''', o, l, c, after, e, h₁, h₂, h₃, h₄, h₅, h₆, ho, hl, hc⟩
          by_cases hd : call.Decisive
          · exact ⟨_, .literal hp call hd⟩
          · exact ⟨_, .further hp call hd⟩
        · exact ⟨_, .noLiteral hp hinsert hfrom hopens⟩

theorem decides_ofSql (hq : Query.parse s = .ok q) : Decides q (Shape.ofSql s) := by
  obtain ⟨r, hr⟩ := exists_decides q
  rw [ofSql_of_decides hq hr]
  exact hr

/-! ## 3. The decision -/

theorem StructureCall.shape_eq_error_iff {c : StructureCall ts} {f : Fault} :
    c.shape = .error f ↔ ∃ f', c.columns = .error f' ∧ f = .columns f' := by
  unfold shape
  cases c.columns with
  | error f' =>
    constructor
    · intro h
      cases h
      exact ⟨f', rfl, rfl⟩
    · rintro ⟨_, e, rfl⟩
      cases e
      rfl
  | ok columns => exact iff_of_false nofun fun ⟨_, e, _⟩ => nomatch e

/-- Only a text that is not read and a literal that decides can fail. -/
theorem ofSql_eq_error_iff {f : Fault} :
    Shape.ofSql s = .error f ↔ Query.parse s = .error f ∨
      ∃ q, Query.parse s = .ok q ∧ q.hasParameter = false ∧ ∃ c : StructureCall q.tokens,
        c.Decisive ∧ ∃ f', c.columns = .error f' ∧ f = .columns f' := by
  cases hq : Query.parse s with
  | error f' =>
    rw [Shape.ofSql, hq]
    simp
  | ok q =>
    constructor
    · intro h
      have hd := decides_ofSql hq
      rw [h] at hd
      generalize hr : (Except.error f : Except Fault Shape) = r at hd
      cases hd with
      | literal hp c hc => exact .inr ⟨q, rfl, hp, c, hc, c.shape_eq_error_iff.1 hr.symm⟩
      | _ => cases hr
    · rintro (h | ⟨q', hq', hp, c, hc, hf⟩)
      · cases h
      · cases hq'
        rw [ofSql_of_decides hq (.literal hp c hc)]
        exact c.shape_eq_error_iff.2 hf

/-- **How a text is decided.** -/
structure Decided (s : String) : Prop where
  /-- A text that is not read fails by that. -/
  unread : ∀ f, Query.parse s = .error f → Shape.ofSql s = .error f
  /-- One that is read is decided by the cases, and in one way. -/
  decides : ∀ q, Query.parse s = .ok q → ∀ r, Shape.ofSql s = r ↔ Decides q r
  /-- A string literal decides by its columns if no call comes after it. -/
  single : ∀ q, Query.parse s = .ok q → q.hasParameter = false →
    ∀ c : StructureCall q.tokens, ¬ Calls "input" c.after → Shape.ofSql s = c.shape
  /-- So does one that is followed by a call whose list is never closed, whatever comes then. -/
  unclosed : ∀ q, Query.parse s = .ok q → q.hasParameter = false →
    ∀ (c : StructureCall q.tokens) (site : List Token), c.later.head? = some site →
      readArguments? site = none → Shape.ofSql s = c.shape
  /-- All errors there are. -/
  errors : ∀ f, Shape.ofSql s = .error f ↔ Query.parse s = .error f ∨
    ∃ q, Query.parse s = .ok q ∧ q.hasParameter = false ∧ ∃ c : StructureCall q.tokens,
      c.Decisive ∧ ∃ f', c.columns = .error f' ∧ f = .columns f'
  kind : ∀ f, Shape.ofSql s = .error f → (SessionError.sql f).kind = .client

/-- **Every text is decided** by its placeholders, its first `insert into`, the first `from input`
    after it, the literal there, and the next call after that. -/
theorem ofSql_decided (s : String) : Decided s where
  unread f h := by rw [Shape.ofSql, h]
  decides q hq r := by
    refine ⟨fun e => ?_, ofSql_of_decides hq⟩
    rw [← e]
    exact decides_ofSql hq
  single q hq hp c hno := by
    refine ofSql_of_decides hq (.literal hp c fun site hs => ?_)
    rw [StructureCall.later, callSites_eq_nil_iff.2 hno] at hs
    cases hs
  unclosed q hq hp c site hsite hopen := by
    refine ofSql_of_decides hq (.literal hp c fun site' hs => ?_)
    rw [hsite] at hs
    cases hs
    exact hopen
  errors _ := ofSql_eq_error_iff
  kind _ _ := rfl

/-- An insert that reads from `input` by a column without a type, and begins a second call. -/
def openSecondFault : String := "insert into t select * from input('a') join input('b'"

/-- **It fails by the columns of its first call**, though every call that could declare columns has
    another after it. -/
theorem ofSql_openSecondFault :
    ∃ q, Query.parse openSecondFault = .ok q ∧
      (∀ c : StructureCall q.tokens, Calls "input" c.after) ∧
      Shape.ofSql openSecondFault = .error (.columns (.nameOrTypeMissing "a")) ∧
      ∃ c : StructureCall q.tokens, c.columns = .error (.nameOrTypeMissing "a") := by
  have hshape : Shape.ofSql openSecondFault = .error (.columns (.nameOrTypeMissing "a")) := by
    decide +kernel
  have hlast : (Query.parse openSecondFault).map
      (fun q => (callSites "input" q.tokens).getLast?.bind readArguments?) = .ok none := by
    decide +kernel
  obtain ⟨q, hq, hlast⟩ := map_eq_ok_iff.1 hlast
  refine ⟨q, hq, fun c => c.calls_after hlast, hshape, ?_⟩
  rcases ((ofSql_decided openSecondFault).errors _).1 hshape with h | ⟨q', hq', -, c, -, f, hf, e⟩
  · rw [hq] at h
    cases h
  · cases hq.symm.trans hq'
    cases e
    exact ⟨c, hf⟩

end StatelessSession.Sql
