import Mathlib.Data.List.Forall2
import StatelessSession.Proofs.Sql.Vacant

/-!
# Layout and letter case do not decide

How a statement is executed is decided by its tokens: by the kinds of all of them, the letters of
words in either case, and the texts of string literals. Where a token stands and what stands between
two of them does not matter, nor how a quoted name is spelt.

* `Token.Agrees` -- two tokens with the same meaning for the decision.
* `Token.gist` -- what is left of a token without the rest; one lemma for every function that
  decides, up to `inputCalls?_gist`.
* `SameDecision` -- two decisions that are the same.
* `Lexeme.Recased` -- a lexeme with its letters in another case; `lexemes_recased`.
* **`ofSql_indifferent`** -- statements whose tokens agree are decided alike, and so is a statement
  in another layout or in other letters.

NOT here: which decision it is (`Decision`).
-/

namespace StatelessSession.Sql

variable {c : Char} {l m : Lexeme} {ls ms : List Lexeme} {t u : Token} {ts us : List Token}

/-! ## 1. Letters -/

/-- What holds of ASCII by trial and of all beyond it holds of every character. -/
theorem char_cases {P : Char → Prop} (hascii : ∀ n < 0x80, P (Char.ofNat n))
    (hhigh : ∀ c : Char, 0x80 ≤ c.toNat → P c) (c : Char) : P c := by
  by_cases hc : c.toNat < 0x80
  · have h := hascii c.toNat hc
    rwa [Char.ofNat_toNat] at h
  · exact hhigh c (Nat.le_of_not_lt hc)

theorem toLower_toLower (c : Char) : c.toLower.toLower = c.toLower :=
  char_cases (P := fun c => c.toLower.toLower = c.toLower) (by decide)
    (fun c hc => by rw [toLower_of_high hc, toLower_of_high hc]) c

theorem map_toLower_toLower (s : List Char) :
    (s.map Char.toLower).map Char.toLower = s.map Char.toLower := by
  rw [List.map_map]
  exact List.map_congr_left fun c _ => toLower_toLower c

theorem isWordChar_toLower (c : Char) : isWordChar c.toLower = isWordChar c :=
  char_cases (P := fun c => isWordChar c.toLower = isWordChar c) (by decide)
    (fun c hc => by rw [toLower_of_high hc]) c

theorem isBlank_toLower (c : Char) : Text.isBlank c.toLower = Text.isBlank c :=
  char_cases (P := fun c => Text.isBlank c.toLower = Text.isBlank c) (by decide)
    (fun c hc => by rw [toLower_of_high hc]) c

/-! ## 2. What the decision sees of a token -/

/-- **Two tokens agree**: they are of one kind, as words they are the same but for the case of
    letters of ASCII, and as string literals they are the same. -/
structure Token.Agrees (t u : Token) : Prop where
  kind : t.kind = u.kind
  word : t.kind = .word → t.text.map Char.toLower = u.text.map Char.toLower
  string : t.kind = .string → t.text = u.text

/-- What counts of a text. -/
def seen : TokenKind → List Char → List Char
  | .word, s => s.map Char.toLower
  | .string, s => s
  | _, _ => []

/-- A token without its place, its gap, and all that does not count of its text. -/
def Token.gist (t : Token) : Token := ⟨t.kind, seen t.kind t.text, 0, []⟩

theorem agrees_iff_gist : t.Agrees u ↔ t.gist = u.gist := by
  obtain ⟨kind, text, start, gap⟩ := t
  obtain ⟨kind', text', start', gap'⟩ := u
  constructor
  · rintro ⟨hkind, hword, hstring⟩
    dsimp only at hkind
    subst hkind
    cases kind with
    | word => rw [Token.gist, Token.gist, seen, seen, hword rfl]
    | string => rw [Token.gist, Token.gist, seen, seen, hstring rfl]
    | _ => rfl
  · intro h
    obtain ⟨hkind, htext, -, -⟩ := Token.mk.inj h
    dsimp only at hkind htext
    subst hkind
    refine ⟨rfl, fun hk => ?_, fun hk => ?_⟩
    · cases hk
      exact htext
    · cases hk
      exact htext

theorem forall₂_agrees_iff :
    List.Forall₂ Token.Agrees ts us ↔ ts.map Token.gist = us.map Token.gist := by
  rw [← List.forall₂_eq_eq_eq, List.forall₂_map_left_iff, List.forall₂_map_right_iff]
  constructor
  · exact fun h => h.imp fun _ _ => agrees_iff_gist.1
  · exact fun h => h.imp fun _ _ => agrees_iff_gist.2

@[simp] theorem isSymbol_gist (t : Token) (c : Char) : t.gist.isSymbol c = t.isSymbol c := rfl

@[simp] theorem opens_gist (t : Token) : t.gist.opens = t.opens := rfl

@[simp] theorem closes_gist (t : Token) : t.gist.closes = t.closes := rfl

@[simp] theorem isKeyword_gist (t : Token) (keyword : String) :
    t.gist.isKeyword keyword = t.isKeyword keyword := by
  obtain ⟨kind, text, start, gap⟩ := t
  cases kind with
  | word => rw [Token.isKeyword, Token.gist, seen, map_toLower_toLower, Token.isKeyword]
  | _ => rfl

theorem map_gist_gist (ts : List Token) :
    (ts.map Token.gist).map Token.gist = ts.map Token.gist := by
  rw [List.map_map]
  refine List.map_congr_left fun t _ => ?_
  obtain ⟨kind, text, start, gap⟩ := t
  cases kind with
  | word => rw [Function.comp, Token.gist, Token.gist, seen, seen, map_toLower_toLower]
  | _ => rfl

/-! ## 3. Keywords and calls -/

theorem dropKeywords?_gist (keywords : List String) (ts : List Token) :
    dropKeywords? keywords (ts.map Token.gist) =
      (dropKeywords? keywords ts).map (List.map Token.gist) := by
  induction keywords generalizing ts with
  | nil => rfl
  | cons k ks ih =>
    cases ts with
    | nil => rfl
    | cons t ts =>
      rw [List.map_cons, dropKeywords?, dropKeywords?, isKeyword_gist]
      split
      · exact ih ts
      · rfl

theorem afterKeywords?_gist (keywords : List String) (ts : List Token) :
    afterKeywords? keywords (ts.map Token.gist) =
      (afterKeywords? keywords ts).map (List.map Token.gist) := by
  induction ts with
  | nil => rfl
  | cons t ts ih =>
    have hdrop := dropKeywords?_gist keywords (t :: ts)
    rw [List.map_cons] at hdrop
    rw [List.map_cons, afterKeywords?, afterKeywords?, hdrop]
    cases dropKeywords? keywords (t :: ts) with
    | none => exact ih
    | some rest => rfl

/-- What counts of an argument: whether it is a string literal, and which. -/
def Argument.gist : Argument → Argument
  | .literal text => .literal text
  | .expression _ => .expression []

theorem gist_ofTokens (ts : List Token) :
    (Argument.ofTokens (ts.map Token.gist)).gist = (Argument.ofTokens ts).gist := by
  match ts with
  | [] => rfl
  | [t] =>
    obtain ⟨kind, text, start, gap⟩ := t
    cases kind <;> rfl
  | _ :: _ :: _ => rfl

/-- What counts of a list of arguments and of the tokens after it. -/
def gistOfList (p : List Argument × List Token) : List Argument × List Token :=
  (p.1.map Argument.gist, p.2.map Token.gist)

theorem gist_pushed (current : List Token) {done done' : List Argument}
    (hdone : done'.map Argument.gist = done.map Argument.gist) :
    (Argument.ofTokens (current.map Token.gist).reverse :: done').map Argument.gist =
      (Argument.ofTokens current.reverse :: done).map Argument.gist := by
  rw [List.map_cons, List.map_cons, hdone, ← List.map_reverse, gist_ofTokens]

/-- **A list of arguments is read alike**, whatever the gaps between its tokens. -/
theorem argumentsFrom_gist (depth : UInt32) (current : List Token) {done done' : List Argument}
    (hdone : done'.map Argument.gist = done.map Argument.gist) (ts : List Token) :
    (argumentsFrom depth (current.map Token.gist) done' (ts.map Token.gist)).map gistOfList =
      (argumentsFrom depth current done ts).map gistOfList := by
  have hnothing (current : List Token) {done done' : List Argument}
      (hdone : done'.map Argument.gist = done.map Argument.gist) :
      ((current.map Token.gist).isEmpty && done'.isEmpty) =
        (current.isEmpty && done.isEmpty) := by
    have hempty := congrArg List.isEmpty hdone
    rw [List.isEmpty_map, List.isEmpty_map] at hempty
    rw [List.isEmpty_map, hempty]
  fun_induction argumentsFrom depth current done ts generalizing done' with
  | case1 => rfl
  | case2 depth current done t ts ho ih =>
    rw [List.map_cons, argumentsFrom, opens_gist, if_pos ho]
    exact ih hdone
  | case3 depth current done t ts ho hclose hempty =>
    rw [List.map_cons, argumentsFrom, opens_gist, isSymbol_gist, if_neg ho, if_pos hclose,
      hnothing current hdone, if_pos hempty]
    rw [Option.map_some, Option.map_some, gistOfList, gistOfList, map_gist_gist]
  | case4 depth current done t ts ho hclose hempty =>
    rw [List.map_cons, argumentsFrom, opens_gist, isSymbol_gist, if_neg ho, if_pos hclose,
      hnothing current hdone, if_neg hempty]
    rw [Option.map_some, Option.map_some, gistOfList, gistOfList, map_gist_gist, List.map_reverse,
      List.map_reverse, gist_pushed current hdone]
  | case5 depth current done t ts ho hclose hinner ih =>
    rw [List.map_cons, argumentsFrom, opens_gist, isSymbol_gist, closes_gist, if_neg ho,
      if_neg hclose, if_pos hinner]
    exact ih hdone
  | case6 depth current done t ts ho hclose hinner hcomma ih =>
    rw [List.map_cons, argumentsFrom, opens_gist, isSymbol_gist, closes_gist, isSymbol_gist,
      if_neg ho, if_neg hclose, if_neg hinner, if_pos hcomma]
    exact ih (gist_pushed current hdone)
  | case7 depth current done t ts ho hclose hinner hcomma ih =>
    rw [List.map_cons, argumentsFrom, opens_gist, isSymbol_gist, closes_gist, isSymbol_gist,
      if_neg ho, if_neg hclose, if_neg hinner, if_neg hcomma]
    exact ih hdone

theorem readArguments?_gist (ts : List Token) :
    (readArguments? (ts.map Token.gist)).map gistOfList = (readArguments? ts).map gistOfList := by
  cases ts with
  | nil => rfl
  | cons t ts =>
    rw [List.map_cons, readArguments?, readArguments?, isSymbol_gist]
    split
    · exact argumentsFrom_gist 0 [] rfl ts
    · rfl

theorem nextCall?_gist (name : String) (ts : List Token) :
    nextCall? name (ts.map Token.gist) = (nextCall? name ts).map (List.map Token.gist) := by
  induction ts with
  | nil => rfl
  | cons t ts ih =>
    have hopens : (ts.map Token.gist).head?.any (·.isSymbol '(') =
        ts.head?.any (·.isSymbol '(') := by
      cases ts with
      | nil => rfl
      | cons u ts => rfl
    rw [List.map_cons, nextCall?, nextCall?, isKeyword_gist, hopens]
    split
    · rfl
    · exact ih

/-- Two searches with the same gist both fail or find what has the same gist. -/
theorem cases_of_map_eq {α β : Type} {f : α → β} {x y : Option α} (h : x.map f = y.map f) :
    x = none ∧ y = none ∨ ∃ a b, x = some a ∧ y = some b ∧ f a = f b := by
  cases x with
  | none =>
    cases y with
    | none => exact .inl ⟨rfl, rfl⟩
    | some b => cases h
  | some a =>
    cases y with
    | none => cases h
    | some b => exact .inr ⟨a, b, rfl, rfl, Option.some.inj h⟩

/-- **Tokens that agree call a function alike**, up to the spelling of what is no literal. -/
theorem callsFrom_congr (name : String) (h : ts.map Token.gist = us.map Token.gist) :
    (callsFrom name ts).map (List.map Argument.gist) =
      (callsFrom name us).map (List.map Argument.gist) := by
  induction hn : ts.length using Nat.strongRecOn generalizing ts us with
  | ind n ih =>
    have hread : (readArguments? ts).map gistOfList = (readArguments? us).map gistOfList := by
      rw [← readArguments?_gist ts, h, readArguments?_gist]
    rw [callsFrom_eq name ts, callsFrom_eq name us]
    rcases cases_of_map_eq hread with ⟨hts, hus⟩ | ⟨⟨args, rest⟩, ⟨args', rest'⟩, hts, hus, hp⟩
    · rw [hts, hus]
    obtain ⟨hargs, hrest⟩ := Prod.mk.inj hp
    dsimp only at hargs hrest
    have hnext : (nextCall? name rest).map (List.map Token.gist) =
        (nextCall? name rest').map (List.map Token.gist) := by
      rw [← nextCall?_gist, hrest, nextCall?_gist]
    rw [hts, hus]
    dsimp only
    rw [List.map_cons, List.map_cons, hargs]
    congr 1
    rcases cases_of_map_eq hnext with ⟨hcall, hcall'⟩ | ⟨site, site', hcall, hcall', hsite⟩
    · rw [hcall, hcall']
    · rw [hcall, hcall']
      have hlt : site.length < n := by
        have hone := readArguments?_length_lt hts
        have htwo := nextCall?_length_lt hcall
        omega
      exact ih site.length hlt hsite rfl

/-- What counts of calls. -/
def gistOfCalls (calls : List (List Argument)) : List (List Argument) :=
  calls.map (List.map Argument.gist)

/-- **The calls of `input` that decide are the same.** -/
theorem inputCalls?_congr (h : ts.map Token.gist = us.map Token.gist) :
    (inputCalls? ts).map gistOfCalls = (inputCalls? us).map gistOfCalls := by
  have hafter (keywords : List String) {ts us : List Token}
      (h : ts.map Token.gist = us.map Token.gist) :
      (afterKeywords? keywords ts).map (List.map Token.gist) =
        (afterKeywords? keywords us).map (List.map Token.gist) := by
    rw [← afterKeywords?_gist, h, afterKeywords?_gist]
  simp only [inputCalls?, Option.bind_eq_bind, Option.pure_def]
  rcases cases_of_map_eq (hafter ["insert", "into"] h) with ⟨hts, hus⟩ | ⟨ts', us', hts, hus, h'⟩
  · rw [hts, hus]
  rw [hts, hus, Option.bind_some, Option.bind_some]
  rcases cases_of_map_eq (hafter ["from", "input"] h') with
    ⟨hsite, hsite'⟩ | ⟨site, site', hsite, hsite', h''⟩
  · rw [hsite, hsite']
  · rw [hsite, hsite', Option.bind_some, Option.bind_some]
    exact congrArg some (callsFrom_congr "input" h'')

/-! ## 4. The decision -/

/-- The places of the placeholders among the tokens of a query. -/
def Query.placeholderPlaces (q : Query) : List Nat :=
  (q.tokens.map Token.kind).idxsOf .placeholder

/-- **Two decisions are the same**: the same fault, a stream into the same columns, or queries with
    as many placeholders at the same places among their tokens, and the same use of `input`. -/
inductive SameDecision : Except Fault Shape → Except Fault Shape → Prop where
  | fault (f : Fault) : SameDecision (.error f) (.error f)
  | streaming (columns : List Column) :
      SameDecision (.ok (.streaming columns)) (.ok (.streaming columns))
  | parameterized {q q' : Query} (unfit : Option InputUse)
      (hcount : q.parameterCount = q'.parameterCount)
      (hplaces : q.placeholderPlaces = q'.placeholderPlaces) :
      SameDecision (.ok (.parameterized q unfit)) (.ok (.parameterized q' unfit))

theorem gistOfCalls_eq_literal_iff {calls : List (List Argument)} {text : List Char} :
    gistOfCalls calls = [[.literal text]] ↔ calls = [[.literal text]] := by
  constructor
  · intro h
    obtain ⟨args, rfl, hargs⟩ := List.map_eq_singleton_iff.1 h
    obtain ⟨arg, rfl, harg⟩ := List.map_eq_singleton_iff.1 hargs
    cases arg with
    | literal text' =>
      cases harg
      rfl
    | expression text' => cases harg
  · intro h
    subst h
    rfl

theorem use_of_gistOfCalls {calls calls' : List (List Argument)}
    (h : gistOfCalls calls = gistOfCalls calls') :
    (⟨calls.length, calls.flatten.length⟩ : InputUse) =
      ⟨calls'.length, calls'.flatten.length⟩ := by
  have hlength : calls.length = calls'.length := by
    have hmap := congrArg List.length h
    rwa [gistOfCalls, gistOfCalls, List.length_map, List.length_map] at hmap
  have hflatten : calls.flatten.length = calls'.flatten.length := by
    have hmap := congrArg (fun calls => calls.flatten.length) h
    rwa [gistOfCalls, gistOfCalls, ← List.map_flatten, ← List.map_flatten, List.length_map,
      List.length_map] at hmap
  rw [hlength, hflatten]

section Decision

variable {q q' : Query}

theorem kinds_of_gist (h : ts.map Token.gist = us.map Token.gist) :
    ts.map Token.kind = us.map Token.kind := by
  have hkinds := congrArg (List.map Token.kind) h
  rwa [List.map_map, List.map_map] at hkinds

theorem sameDecision_parameterized (h : q.tokens.map Token.gist = q'.tokens.map Token.gist)
    (unfit : Option InputUse) :
    SameDecision (.ok (.parameterized q unfit)) (.ok (.parameterized q' unfit)) := by
  have hkinds := kinds_of_gist h
  have hcount (q : Query) :
      q.parameterCount = (q.tokens.map Token.kind).countP (· == .placeholder) := by
    rw [Query.parameterCount, ← List.countP_eq_length_filter, List.countP_map]
    rfl
  refine .parameterized unfit ?_ ?_
  · rw [hcount, hcount, hkinds]
  · rw [Query.placeholderPlaces, Query.placeholderPlaces, hkinds]

theorem hasParameter_congr (h : q.tokens.map Token.gist = q'.tokens.map Token.gist) :
    q.hasParameter = q'.hasParameter := by
  have hany (q : Query) :
      q.hasParameter = (q.tokens.map Token.kind).any (· == .placeholder) := by
    rw [Query.hasParameter, List.any_map]
    rfl
  rw [hany, hany, kinds_of_gist h]

theorem ofCalls_congr {calls calls' : Option (List (List Argument))}
    (h : q.tokens.map Token.gist = q'.tokens.map Token.gist)
    (hcalls : calls.map gistOfCalls = calls'.map gistOfCalls) :
    SameDecision (Shape.ofCalls q calls) (Shape.ofCalls q' calls') := by
  rcases cases_of_map_eq hcalls with ⟨rfl, rfl⟩ | ⟨cs, cs', rfl, rfl, hcs⟩
  · exact sameDecision_parameterized h none
  by_cases hone : ∃ text, cs = [[.literal text]]
  · obtain ⟨text, rfl⟩ := hone
    have hone' : cs' = [[.literal text]] := gistOfCalls_eq_literal_iff.1 hcs.symm
    subst hone'
    rw [Shape.ofCalls, Shape.ofCalls]
    cases Column.ofStructure (StringLiteral.decode text) with
    | error f => exact .fault _
    | ok columns => exact .streaming columns
  · have hne (text : List Char) : cs ≠ [[.literal text]] := fun e => hone ⟨text, e⟩
    have hne' (text : List Char) : cs' ≠ [[.literal text]] := fun e =>
      hne text (gistOfCalls_eq_literal_iff.1 (hcs.trans (gistOfCalls_eq_literal_iff.2 e)))
    rw [ofCalls_of_ne hne, ofCalls_of_ne hne', use_of_gistOfCalls hcs]
    exact sameDecision_parameterized h _

/-- **Statements whose tokens agree are decided alike.** -/
theorem sameDecision_of_gist {s s' : String} (hq : Query.parse s = .ok q)
    (hq' : Query.parse s' = .ok q') (h : q.tokens.map Token.gist = q'.tokens.map Token.gist) :
    SameDecision (Shape.ofSql s) (Shape.ofSql s') := by
  rw [ofSql_of_parse hq, ofSql_of_parse hq', hasParameter_congr h]
  split
  · exact sameDecision_parameterized h none
  · exact ofCalls_congr h (inputCalls?_congr h)

end Decision

/-! ## 5. Other layouts -/

/-- What counts of what a token says. -/
def gistOf (p : TokenKind × List Char) : Token := ⟨p.1, seen p.1 p.2, 0, []⟩

theorem gist_tokens (ls : List Lexeme) :
    (tokens ls).map Token.gist = (ls.filterMap Lexeme.content?).map gistOf := by
  rw [tokens, ← content_tokensFrom ls 0 [], List.map_map]
  rfl

/-- Lexemes that read back are a query if one is a token and not all is white space. -/
theorem parse_joined (hms : lexemes (joined ms) = .ok ms) (hne : tokens ms ≠ [])
    (hblank : ¬ ∀ c ∈ joined ms, Text.isBlank c = true) :
    Query.parse (String.ofList (joined ms)) = .ok ⟨ms⟩ := by
  have hall : Text.isBlankText (String.ofList (joined ms)) = false := by
    rw [Text.isBlankText, String.toList_ofList]
    exact Bool.eq_false_iff.2 fun h => hblank (List.all_eq_true.1 h)
  have hsome : (tokens ms).isEmpty = false := by
    rw [List.isEmpty_eq_false_iff]
    exact hne
  have hread : lexemes (String.ofList (joined ms)).toList = .ok ms := by
    rw [String.toList_ofList]
    exact hms
  rw [parse_of_lexemes hread, hall, hsome]
  rfl

theorem parse_blank {s : List Char} (h : ∀ c ∈ s, Text.isBlank c = true) :
    Query.parse (String.ofList s) = .error .empty := by
  rw [Query.parse, Text.isBlankText, String.toList_ofList, if_pos (List.all_eq_true.2 h)]

/-- A text whose tokens are white space is made of white space and comments. -/
theorem vacant_of_same (hls : lexemes (joined ls) = .ok ls)
    (hsame : ms.filterMap Lexeme.content? = ls.filterMap Lexeme.content?)
    (hblank : ∀ c ∈ joined ms, Text.isBlank c = true) :
    Vacant Counted Text.isBlank (joined ls) := by
  refine vacant_of_lexemesFrom hls (fun _ hc => isBlank_of_isSqlBlank hc) ?_
  intro l hl kind hk c hc
  have hcontent : (kind, l.text) ∈ ms.filterMap Lexeme.content? := by
    rw [hsame]
    refine List.mem_filterMap.2 ⟨l, hl, ?_⟩
    rw [Lexeme.content?, hk]
  obtain ⟨m, hm, hmt⟩ := List.mem_filterMap.1 hcontent
  have htext : m.text = l.text := by
    rw [Lexeme.content?] at hmt
    split at hmt
    · exact (Prod.mk.inj (Option.some.inj hmt)).2
    · cases hmt
  exact hblank c (List.mem_flatMap.2 ⟨m, hm, htext ▸ hc⟩)

/-! ## 6. Other letters -/

/-- **A lexeme in other letters**: the same, or a word whose letters of ASCII have another case. -/
def Lexeme.Recased (l m : Lexeme) : Prop :=
  l = m ∨ l.kind = .token .word ∧ m.kind = .token .word ∧
    l.text.map Char.toLower = m.text.map Char.toLower

theorem isWordChar_of_good (h : l.piece.Good) (hk : l.kind = .token .word) :
    ∀ c ∈ l.text, isWordChar c = true := by
  obtain ⟨kind, text⟩ := l
  cases hk
  obtain ⟨v, hv⟩ := h
  have hv : IsLexeme Counted (.token .word) (utf8 text) v := hv
  have hbytes : ∀ x ∈ utf8 text, isWordByte x = true := by
    generalize utf8 text = u at hv
    cases hv with
    | word hu _ => exact hu
  intro c hc
  rcases utf8_char c with ⟨hn, he⟩ | ⟨hn, -⟩
  · rw [← isWordByte_toUInt8 hn]
    refine hbytes _ (List.mem_flatMap.2 ⟨c, hc, ?_⟩)
    rw [he]
    exact List.mem_singleton_self _
  · exact isWordChar_of_high hn

theorem forall_of_map_toLower {p : Char → Bool} (hp : ∀ c, p c.toLower = p c) {s s' : List Char}
    (h : s.map Char.toLower = s'.map Char.toLower) (hs : ∀ c ∈ s, p c = true) :
    ∀ c ∈ s', p c = true := by
  have hs' : ∀ c ∈ s'.map Char.toLower, p c = true := by
    rw [← h]
    exact List.forall_mem_map.2 fun c hc => (hp c).trans (hs c hc)
  exact fun c hc => (hp c).symm.trans (List.forall_mem_map.1 hs' c hc)

/-- What was a word is one. -/
theorem good_recased (hr : l.Recased m) (h : l.piece.Good) : m.piece.Good := by
  rcases hr with rfl | ⟨hl, hm, htext⟩
  · exact h
  · obtain ⟨kind, text⟩ := m
    cases hm
    refine good_word (fun e => ?_) ?_
    · rw [e, List.map_nil, List.map_eq_nil_iff] at htext
      exact text_ne_nil_of_good h htext
    · exact forall_of_map_toLower isWordChar_toLower htext (isWordChar_of_good h hl)

/-- What one word may follow, every word may follow. -/
theorem before_of_words {p q q' : Piece} (hp : p.Good) (hq : q.Good) (hq' : q'.Good)
    (hk : q.kind = .token .word) (hk' : q'.kind = .token .word) (h : p.Before q) : p.Before q' := by
  obtain ⟨x, hx, hword⟩ := hq'.head_word.1 hk'
  have hhead {y : UInt8} (hy : isWordByte y = false) : q'.bytes.head? ≠ some y := fun e => by
    cases hx.symm.trans e
    rw [hy] at hword
    cases hword
  cases hpk : p.kind with
  | blank =>
    rw [Piece.Before, hpk]
    trivial
  | blockComment =>
    rw [Piece.Before, hpk]
    trivial
  | lineComment =>
    rw [Piece.Before, hpk] at h
    rw [Piece.Before, hpk]
    exact .inl (h.resolve_right hq.ne_nil)
  | token kind =>
    cases kind with
    | placeholder =>
      rw [Piece.Before, hpk]
      trivial
    | word =>
      -- two words never stand next to each other
      rw [Piece.Before, hpk] at h
      obtain ⟨y, hy, hyword⟩ := hq.head_word.1 hk
      rw [h y hy] at hyword
      cases hyword
    | string =>
      rw [Piece.Before, hpk]
      exact hhead (by decide)
    | quotedName =>
      rw [Piece.Before, hpk]
      intro y hy
      rcases isNameQuote_iff.1 (hp.head_quotedName hpk y hy) with rfl | rfl
      · exact hhead (by decide)
      · exact hhead (by decide)
    | symbol c =>
      rw [Piece.Before, hpk]
      intro y _
      exact ⟨fun e => hhead (by decide) e.2, fun e => hhead (by decide) e.2⟩

theorem before_recased {l' m' : Lexeme} (hr : l.Recased m) (hr' : l'.Recased m')
    (hgood : l.piece.Good) (hgood' : l'.piece.Good) (h : l.piece.Before l'.piece) :
    m.piece.Before m'.piece := by
  have hleft : m.piece.Before l'.piece := by
    rcases hr with rfl | ⟨hl, hm, -⟩
    · exact h
    · rw [Piece.Before, show l.piece.kind = .token .word from hl] at h
      rw [Piece.Before, show m.piece.kind = .token .word from hm]
      exact h
  rcases hr' with rfl | ⟨hl', hm', htext⟩
  · exact hleft
  · exact before_of_words (good_recased hr hgood) hgood'
      (good_recased (.inr ⟨hl', hm', htext⟩) hgood') hl' hm' hleft

/-- **Lexemes in other letters read back as themselves.** -/
theorem lexemes_recased (hr : List.Forall₂ Lexeme.Recased ls ms)
    (h : lexemes (joined ls) = .ok ls) : lexemes (joined ms) = .ok ms := by
  rw [lexemes_joined_iff] at h ⊢
  obtain ⟨hgood, hchain⟩ := h
  induction hr with
  | nil => exact ⟨nofun, .nil⟩
  | @cons l m ls ms hlm hr ih =>
    obtain ⟨hl, hgood⟩ := List.forall_mem_cons.1 hgood
    obtain ⟨hnext, hchain⟩ := List.isChain_cons.1 hchain
    obtain ⟨hgood', hchain'⟩ := ih hgood hchain
    refine ⟨List.forall_mem_cons.2 ⟨good_recased hlm hl, hgood'⟩, List.isChain_cons.2 ⟨?_, hchain'⟩⟩
    intro m' hm'
    cases hr with
    | nil => cases hm'
    | @cons l' _ ls ms hlm' hr =>
      cases hm'
      exact before_recased hlm hlm' hl (hgood l' List.mem_cons_self) (hnext l' rfl)

theorem content_recased (hr : List.Forall₂ Lexeme.Recased ls ms) :
    (ls.filterMap Lexeme.content?).map gistOf = (ms.filterMap Lexeme.content?).map gistOf := by
  induction hr with
  | nil => rfl
  | @cons l m ls ms hlm hr ih =>
    rcases hlm with rfl | ⟨hl, hm, htext⟩
    · rw [List.filterMap_cons, List.filterMap_cons]
      cases l.content? with
      | none => exact ih
      | some p => rw [List.map_cons, List.map_cons, ih]
    · have hlc : l.content? = some (.word, l.text) := by rw [Lexeme.content?, hl]
      have hmc : m.content? = some (.word, m.text) := by rw [Lexeme.content?, hm]
      rw [List.filterMap_cons_some hlc, List.filterMap_cons_some hmc, List.map_cons, List.map_cons,
        ih, gistOf, gistOf, seen, seen, htext]

theorem isBlank_recased (hr : List.Forall₂ Lexeme.Recased ls ms)
    (h : ∀ c ∈ joined ms, Text.isBlank c = true) : ∀ c ∈ joined ls, Text.isBlank c = true := by
  induction hr with
  | nil => exact nofun
  | @cons l m ls ms hlm hr ih =>
    rw [joined_cons, List.forall_mem_append] at h ⊢
    refine ⟨?_, ih h.2⟩
    rcases hlm with rfl | ⟨-, -, htext⟩
    · exact h.1
    · exact forall_of_map_toLower isBlank_toLower htext.symm h.1

/-! ## 7. Layout and letters do not decide -/

/-- **What does not change the decision** on the statement `s`, read as the query `q`. -/
structure Indifferent (s : String) (q : Query) : Prop where
  /-- Any statement whose tokens agree with its own, one by one, is decided alike. -/
  agrees : ∀ s' q', Query.parse s' = .ok q' → List.Forall₂ Token.Agrees q.tokens q'.tokens →
    SameDecision (Shape.ofSql s) (Shape.ofSql s')
  /-- Other blanks and complete comments between the same tokens, as long as they stay apart, make a
      statement that is decided alike. What is not read at all is white space only, and that is left
      of no text but one of white space and comments. -/
  layout : ∀ ms, (∀ m ∈ ms, m.piece.Good) → (ms.IsChain fun l m => l.piece.Before m.piece) →
    ms.filterMap Lexeme.content? = q.lexemes.filterMap Lexeme.content? →
      (Query.parse (String.ofList (joined ms)) = .ok ⟨ms⟩ ∧
        SameDecision (Shape.ofSql s) (Shape.ofSql (String.ofList (joined ms)))) ∨
      Vacant Counted Text.isBlank s.toList ∧
        (s.utf8ByteSize < 2 ^ 33 → Vacant CommentBody Text.isBlank s.toList) ∧
        Query.parse (String.ofList (joined ms)) = .error .empty
  /-- Words in other letters make a statement that is decided alike. -/
  letters : ∀ ms, List.Forall₂ Lexeme.Recased q.lexemes ms →
    Query.parse (String.ofList (joined ms)) = .ok ⟨ms⟩ ∧
      SameDecision (Shape.ofSql s) (Shape.ofSql (String.ofList (joined ms)))

/-- **How a statement is executed does not depend on its layout, nor on the case of its words.** -/
theorem ofSql_indifferent {s : String} {q : Query} (hq : Query.parse s = .ok q) :
    Indifferent s q := by
  have hls := lexemes_of_parse hq
  have htext : joined q.lexemes = s.toList := by
    rw [← Query.sql_parse hq, Query.sql, String.toList_ofList]
  have hread : lexemes s.toList = .ok q.lexemes := by
    rw [← htext]
    exact hls
  have hne : tokens q.lexemes ≠ [] := (tokens_ne_nil_of_parse hread hq).2
  have hsome : ¬ ∀ c ∈ joined q.lexemes, Text.isBlank c = true := by
    intro h
    rw [htext] at h
    have herror := (parse_eq_error_iff hread).2 (.inl ⟨rfl, h⟩)
    cases hq.symm.trans herror
  have htokens {ms : List Lexeme} (h : (tokens ms).map Token.gist =
      (tokens q.lexemes).map Token.gist) : tokens ms ≠ [] := by
    intro e
    rw [e, List.map_nil, eq_comm, List.map_eq_nil_iff] at h
    exact hne h
  constructor
  case agrees =>
    intro s' q' hq' hagree
    exact sameDecision_of_gist hq hq' (forall₂_agrees_iff.1 hagree)
  case layout =>
    intro ms hgood hchain hsame
    have hms : lexemes (joined ms) = .ok ms := (lexemes_joined_iff ms).2 ⟨hgood, hchain⟩
    have hgist : (tokens ms).map Token.gist = (tokens q.lexemes).map Token.gist := by
      rw [gist_tokens, gist_tokens, hsame]
    by_cases hblank : ∀ c ∈ joined ms, Text.isBlank c = true
    · have hvacant : Vacant Counted Text.isBlank s.toList := htext ▸ vacant_of_same hls hsame hblank
      refine .inr ⟨hvacant, fun hsize => (vacant_counted_iff ?_).2 hvacant, parse_blank hblank⟩
      rwa [byteSize_toList]
    · have hq' := parse_joined hms (htokens hgist) hblank
      exact .inl ⟨hq', sameDecision_of_gist hq hq' hgist.symm⟩
  case letters =>
    intro ms hr
    have hms := lexemes_recased hr hls
    have hgist : (tokens ms).map Token.gist = (tokens q.lexemes).map Token.gist := by
      rw [gist_tokens, gist_tokens, content_recased hr]
    have hq' := parse_joined hms (htokens hgist) fun h => hsome (isBlank_recased hr h)
    exact ⟨hq', sameDecision_of_gist hq hq' hgist.symm⟩

/-- An insert that streams, in capitals. -/
def capitals : String := "INSERT INTO t SELECT * FROM input('a Int8')"

/-- The same in other letters, with comments in the place of blanks. -/
def commented : String := "insert/**/into t -- rows\nselect * From INPUT ( 'a Int8' )"

/-- **Both stream into the same columns.** -/
theorem ofSql_indifferent_commented :
    ∃ q q', Query.parse capitals = .ok q ∧ Query.parse commented = .ok q' ∧
      List.Forall₂ Token.Agrees q.tokens q'.tokens ∧
      SameDecision (Shape.ofSql capitals) (Shape.ofSql commented) ∧
      Shape.ofSql commented = .ok (.streaming [⟨"a", "Int8"⟩]) := by
  have hboth : (Query.parse capitals).map (fun q => q.tokens.map Token.gist) =
      (Query.parse commented).map (fun q => q.tokens.map Token.gist) := by decide +kernel
  have hok : (Query.parse capitals).isOk = true := by decide +kernel
  obtain ⟨q, hq⟩ := exists_eq_ok hok
  rw [hq] at hboth
  obtain ⟨q', hq', hgist⟩ := map_eq_ok_iff.1 hboth.symm
  have hagree : List.Forall₂ Token.Agrees q.tokens q'.tokens := forall₂_agrees_iff.2 hgist.symm
  exact ⟨q, q', hq, hq', hagree, (ofSql_indifferent hq).agrees commented q' hq' hagree,
    by decide +kernel⟩

end StatelessSession.Sql
