import StatelessSession.Proofs.Sql.Literals
import StatelessSession.Statement

/-!
# Binding values to placeholders

A query with values bound to its placeholders is the text of its lexemes with the lexemes of a
literal in the place of each placeholder. Whether the text reads back as these lexemes depends on
where a literal meets what was around the placeholder, with nothing between them.

* `fill` -- the lexemes; `joined_fill` -- their text is the bound text.
* `content_fill` -- their tokens are those of the query, each placeholder replaced.
* `Separate` -- no two tokens of a clash meet; `peaceful_iff_separate` -- the same of lexemes.
* **`bind_iff_separate`** -- the bound text has these tokens if and only if they are separate.

NOT here: what the server makes of the tokens.
-/

namespace StatelessSession.Sql

/-! ## 1. Lexemes in the place of placeholders -/

/-- Lexemes with those of a literal in the place of each placeholder, as long as there are
    literals. -/
def fill : List Lexeme → List (List Lexeme) → List Lexeme
  | [], _ => []
  | ⟨.token .placeholder, _⟩ :: ls, t :: ts => t ++ fill ls ts
  | l :: ls, ts => l :: fill ls ts

/-- The text of a query with literals in it is the text of its lexemes with those of the literals
    in it. -/
theorem joined_fill (ls : List Lexeme) (ts : List (List Lexeme)) :
    joined (fill ls ts) = Query.substitute ls (ts.map joined) := by
  fun_induction fill ls ts with
  | case1 ts => simp [Query.substitute]
  | case2 text ls t ts ih => simp [Query.substitute, joined, ← ih]
  | case3 l ls ts hn ih =>
    rw [joined_cons, ih, Query.substitute]
    intro text t us hts hl
    cases ts with
    | nil => cases hts
    | cons t' ts => exact hn text t' ts rfl hl

/-- Every lexeme in the result is one of the query or of a literal. -/
theorem mem_fill {ls : List Lexeme} {ts : List (List Lexeme)} {l : Lexeme} (h : l ∈ fill ls ts) :
    l ∈ ls ∨ ∃ t ∈ ts, l ∈ t := by
  fun_induction fill ls ts with
  | case1 ts => cases h
  | case2 text ls t ts ih =>
    rcases List.mem_append.1 h with h | h
    · exact .inr ⟨t, List.mem_cons_self, h⟩
    · rcases ih h with h | ⟨t', ht, h⟩
      · exact .inl (List.mem_cons_of_mem _ h)
      · exact .inr ⟨t', List.mem_cons_of_mem _ ht, h⟩
  | case3 m ls ts hn ih =>
    rcases List.mem_cons.1 h with rfl | h
    · exact .inl List.mem_cons_self
    · rcases ih h with h | h
      · exact .inl (List.mem_cons_of_mem _ h)
      · exact .inr h

/-- The first lexeme of the result is the first of the query, or the first of a literal that stands
    where the query has a placeholder. -/
theorem head?_fill {ls : List Lexeme} {ts : List (List Lexeme)} (hts : ∀ t ∈ ts, t ≠ [])
    {m : Lexeme} (h : m ∈ (fill ls ts).head?) :
    m ∈ ls.head? ∨ ∃ text, ⟨.token .placeholder, text⟩ ∈ ls.head? ∧ ∃ t ∈ ts, m ∈ t.head? := by
  fun_induction fill ls ts with
  | case1 ts => cases h
  | case2 text ls t ts ih =>
    have hne := hts t List.mem_cons_self
    refine .inr ⟨text, rfl, t, List.mem_cons_self, ?_⟩
    cases t with
    | nil => exact absurd rfl hne
    | cons l t => exact h
  | case3 l ls ts hn ih => exact .inl h

/-! ## 2. Reading the result -/

/-- Lexemes that do not clash. -/
def Peaceful (ls : List Lexeme) : Prop := ls.IsChain fun l m => ¬ Clash l.kind m.kind

/-- Lexemes that are read from a text do not clash. -/
theorem peaceful_of_lexemes {ls : List Lexeme} (h : lexemes (joined ls) = .ok ls) :
    Peaceful ls := by
  obtain ⟨hgood, hchain⟩ := (lexemes_joined_iff ls).1 h
  refine List.IsChain.imp_of_mem_imp (fun l m hl hm hb => ?_) hchain
  exact not_clash_of_before (hgood l hl) (hgood m hm) hb

/-- **Literals in the place of placeholders are read as such unless they clash** with what is next
    to them. -/
theorem before_fill {ls : List Lexeme} {ts : List (List Lexeme)}
    (hls : ls.IsChain fun l m => l.piece.Before m.piece) (hgood : ∀ l ∈ ls, l.piece.Good)
    (hts : ∀ t ∈ ts, IsLiteral t) (hp : Peaceful (fill ls ts)) :
    (fill ls ts).IsChain fun l m => l.piece.Before m.piece := by
  have hgoodAll : ∀ l ∈ fill ls ts, l.piece.Good := fun l hl => by
    rcases mem_fill hl with hl | ⟨t, ht, hl⟩
    · exact hgood l hl
    · exact (hts t ht).good l hl
  fun_induction fill ls ts with
  | case1 ts => exact .nil
  | case2 text ls t ts ih =>
    obtain ⟨-, hls⟩ := List.isChain_cons.1 hls
    obtain ⟨-, hpf, hcross⟩ := List.isChain_append.1 hp
    have ht := hts t List.mem_cons_self
    refine List.isChain_append.2 ⟨ht.chain, ih hls ?_ ?_ hpf ?_, fun l hl m hm => ?_⟩
    · exact fun l hl => hgood l (List.mem_cons_of_mem _ hl)
    · exact fun t ht => hts t (List.mem_cons_of_mem _ ht)
    · exact fun l hl => hgoodAll l (List.mem_append_right _ hl)
    · -- the last lexeme of the literal and what follows it, be it the next literal
      obtain ⟨l', hl', hc⟩ := ht.last
      cases Option.some.inj (hl'.symm.trans hl)
      exact admits_closing (ht.good l (List.mem_of_getLast? hl))
        (hgoodAll m (List.mem_append_right _ (List.mem_of_head? hm))) hc (hcross l hl m hm)
  | case3 l ls ts hn ih =>
    obtain ⟨hl, hls⟩ := List.isChain_cons.1 hls
    obtain ⟨hcross, hpf⟩ := List.isChain_cons.1 hp
    refine List.isChain_cons.2 ⟨fun m hm => ?_, ih hls ?_ hts hpf ?_⟩
    · rcases head?_fill (fun t ht => (hts t ht).ne_nil) hm with hm' | ⟨text, htext, t, ht, hm'⟩
      · exact hl m hm'
      · -- a literal now stands where a placeholder stood
        obtain ⟨m', hm'', ho⟩ := (hts t ht).first
        cases Option.some.inj (hm''.symm.trans hm')
        have hmark := hl _ htext
        have hg := hgood _ (List.mem_cons_of_mem _ (List.mem_of_head? htext))
        rw [Piece.Before, hg.bytes_placeholder rfl] at hmark
        exact admits_opening (hgood l List.mem_cons_self)
          ((hts t ht).good m (List.mem_of_head? hm')) hmark ho (hcross m hm)
    · exact fun l hl => hgood l (List.mem_cons_of_mem _ hl)
    · exact fun l hl => hgoodAll l (List.mem_cons_of_mem _ hl)

/-- **The result reads back as its lexemes if and only if none of them clash.** -/
theorem lexemes_fill_iff {ls : List Lexeme} {ts : List (List Lexeme)}
    (hls : lexemes (joined ls) = .ok ls) (hts : ∀ t ∈ ts, IsLiteral t) :
    lexemes (joined (fill ls ts)) = .ok (fill ls ts) ↔ Peaceful (fill ls ts) := by
  obtain ⟨hgood, hchain⟩ := (lexemes_joined_iff ls).1 hls
  constructor
  · exact peaceful_of_lexemes
  · intro hp
    refine (lexemes_joined_iff _).2 ⟨fun l hl => ?_, before_fill hchain hgood hts hp⟩
    rcases mem_fill hl with hl | ⟨t, ht, hl⟩
    · exact hgood l hl
    · exact (hts t ht).good l hl

/-! ## 3. Tokens -/

/-- **No two tokens of a clash meet** with nothing between them. -/
def Separate (ts : List Token) : Prop :=
  ts.IsChain fun t u => u.gap = [] → ¬ Clash (.token t.kind) (.token u.kind)

instance (ts : List Token) : Decidable (Separate ts) :=
  inferInstanceAs (Decidable (ts.IsChain fun t u =>
    u.gap = [] → ¬ Clash (.token t.kind) (.token u.kind)))

/-- Tokens after a blank or a comment have it in their gap. -/
theorem gap_ne_nil_of_head? {ls : List Lexeme} {start : Nat} {gap : List Char} (hgap : gap ≠ []) :
    ∀ u ∈ (tokensFrom start gap ls).head?, u.gap ≠ [] := by
  have hmore : ∀ text, gap ++ text ≠ [] := fun text h => hgap (List.append_eq_nil_iff.1 h).1
  induction ls generalizing start gap with
  | nil => exact nofun
  | cons l ls ih =>
    obtain ⟨kind, text⟩ := l
    cases kind with
    | token kind =>
      intro u hu
      cases hu
      exact hgap
    | blank => exact ih (hmore text) fun t h => hmore _ ((List.append_assoc ..).symm.trans h)
    | lineComment => exact ih (hmore text) fun t h => hmore _ ((List.append_assoc ..).symm.trans h)
    | blockComment => exact ih (hmore text) fun t h => hmore _ ((List.append_assoc ..).symm.trans h)

/-- Blanks and comments clash with nothing. -/
theorem not_clash_of_not_token {k k' : LexemeKind} (h : ∀ kind, k ≠ .token kind) :
    ¬ Clash k k' ∧ ¬ Clash k' k := by
  have hclash : ¬ (k = .token .word ∨ k = .token .string ∨ k = .token (.symbol '-')) := by
    intro hk
    rcases hk with hk | hk | hk
    · exact h _ hk
    · exact h _ hk
    · exact h _ hk
  refine ⟨fun hk => hclash hk.2, fun hk => hclash ?_⟩
  rw [← hk.1]
  exact hk.2

/-- A token and the lexeme after it clash if and only if it clashes with a token right after it. -/
theorem head_clash_iff {ls : List Lexeme} (hne : ∀ l ∈ ls, l.text ≠ []) (kind : TokenKind)
    (start : Nat) :
    (∀ m ∈ ls.head?, ¬ Clash (.token kind) m.kind) ↔
      ∀ u ∈ (tokensFrom start [] ls).head?, u.gap = [] → ¬ Clash (.token kind) (.token u.kind) := by
  cases ls with
  | nil => exact iff_of_true nofun nofun
  | cons m ls =>
    obtain ⟨k, text⟩ := m
    have htext : [] ++ text ≠ [] := hne _ List.mem_cons_self
    cases k with
    | token k =>
      rw [tokensFrom_token]
      simp
    | _ =>
      refine iff_of_true (fun m hm => ?_) fun u hu hgap => ?_
      · cases hm
        refine (not_clash_of_not_token ?_).2
        exact nofun
      · exact absurd hgap (gap_ne_nil_of_head? htext u hu)

/-- Lexemes are at peace if and only if their tokens are separate. -/
theorem peaceful_iff_separate {ls : List Lexeme} (hne : ∀ l ∈ ls, l.text ≠ []) (start : Nat)
    (gap : List Char) : Peaceful ls ↔ Separate (tokensFrom start gap ls) := by
  induction ls generalizing start gap with
  | nil => exact iff_of_true .nil .nil
  | cons l ls ih =>
    have hls : ∀ l ∈ ls, l.text ≠ [] := fun l hl => hne l (List.mem_cons_of_mem _ hl)
    obtain ⟨kind, text⟩ := l
    rw [Peaceful, List.isChain_cons]
    cases kind with
    | token kind =>
      rw [tokensFrom_token, Separate, List.isChain_cons]
      exact and_congr (head_clash_iff hls kind _) (ih hls _ _)
    | blank =>
      rw [tokensFrom_blank, ← ih hls]
      refine and_iff_right fun m _ => (not_clash_of_not_token ?_).1
      exact nofun
    | lineComment =>
      rw [tokensFrom_lineComment, ← ih hls]
      refine and_iff_right fun m _ => (not_clash_of_not_token ?_).1
      exact nofun
    | blockComment =>
      rw [tokensFrom_blockComment, ← ih hls]
      refine and_iff_right fun m _ => (not_clash_of_not_token ?_).1
      exact nofun

/-- What a token says, wherever it stands. -/
def Token.content (t : Token) : TokenKind × List Char := (t.kind, t.text)

/-- What a lexeme says if it is a token. -/
def Lexeme.content? (l : Lexeme) : Option (TokenKind × List Char) :=
  match l.kind with
  | .token kind => some (kind, l.text)
  | _ => none

theorem content_tokensFrom (ls : List Lexeme) (start : Nat) (gap : List Char) :
    (tokensFrom start gap ls).map Token.content = ls.filterMap Lexeme.content? := by
  induction ls generalizing start gap with
  | nil => rfl
  | cons l ls ih =>
    obtain ⟨kind, text⟩ := l
    cases kind with
    | token kind =>
      rw [tokensFrom_token, List.map_cons, ih]
      rfl
    | blank => exact ih _ _
    | lineComment => exact ih _ _
    | blockComment => exact ih _ _

theorem mem_lexemes_of_mem_tokens {ls : List Lexeme} {t : Token} (h : t ∈ tokens ls) :
    ⟨.token t.kind, t.text⟩ ∈ ls := by
  have hcontent : t.content ∈ ls.filterMap Lexeme.content? := by
    rw [← content_tokensFrom ls 0 []]
    exact List.mem_map_of_mem h
  obtain ⟨⟨kind, text⟩, hl, hlt⟩ := List.mem_filterMap.1 hcontent
  cases kind with
  | token kind =>
    cases hlt
    exact hl
  | _ => cases hlt

/-- Tokens with others in the place of each placeholder, as long as there are others. -/
def replaced : List (TokenKind × List Char) → List (List (TokenKind × List Char)) →
    List (TokenKind × List Char)
  | [], _ => []
  | (.placeholder, _) :: ts, u :: us => u ++ replaced ts us
  | t :: ts, us => t :: replaced ts us

/-- **Filling in literals replaces the placeholders among the tokens** and no others. -/
theorem content_fill (ls : List Lexeme) (ts : List (List Lexeme)) :
    (fill ls ts).filterMap Lexeme.content? =
      replaced (ls.filterMap Lexeme.content?) (ts.map fun t => t.filterMap Lexeme.content?) := by
  fun_induction fill ls ts with
  | case1 ts => simp [replaced]
  | case2 text ls t ts ih =>
    rw [List.filterMap_append, ih]
    rfl
  | case3 l ls ts hn ih =>
    obtain ⟨kind, text⟩ := l
    cases kind with
    | token kind =>
      have hcons : ∀ us : List Lexeme, (⟨.token kind, text⟩ :: us).filterMap Lexeme.content? =
          (kind, text) :: us.filterMap Lexeme.content? := fun us => rfl
      rw [hcons, hcons, ih, replaced]
      intro x t us hts hk
      cases ts with
      | nil => cases hts
      | cons t' ts =>
        cases hk
        exact hn text t' ts rfl rfl
    | blank => exact ih
    | lineComment => exact ih
    | blockComment => exact ih

/-! ## 4. Bound queries -/

theorem exists_literals (params : List Value) :
    ∃ literals : List (List Lexeme), literals.map joined = params.map Value.literal ∧
      ∀ ls ∈ literals, IsLiteral ls := by
  induction params with
  | nil => exact ⟨[], rfl, nofun⟩
  | cons v params ih =>
    obtain ⟨literals, hj, hl⟩ := ih
    obtain ⟨ls, hv, hls⟩ := v.exists_isLiteral
    refine ⟨ls :: literals, by rw [List.map_cons, List.map_cons, hv, hj], fun t ht => ?_⟩
    rcases List.mem_cons.1 ht with rfl | ht
    · exact hls
    · exact hl t ht

theorem text_ne_nil_of_good {l : Lexeme} (h : l.piece.Good) : l.text ≠ [] := fun e =>
  h.ne_nil (congrArg utf8 e)

theorem lexemes_of_parse {s : String} {q : Query} (h : Query.parse s = .ok q) :
    lexemes (joined q.lexemes) = .ok q.lexemes := by
  unfold Query.parse at h
  split at h
  · cases h
  split at h
  · cases h
  rename_i ls hls
  split at h
  · cases h
  · cases h
    rw [joined_lexemes hls]
    exact hls

/-- **A bound query keeps its tokens if and only if none of a clash meet.** For every text that
    parses and as many values as it has placeholders there is a bound text. It is the text of the
    query's lexemes with those of the values' literals in the place of the placeholders; their
    tokens are the query's tokens with those of the literals in the place of the placeholders; and
    the bound text has these tokens, each where it stands, if and only if no two words, no two
    string literals and no two dashes among them meet. -/
theorem bind_iff_separate {s : String} {q : Query} {params : List Value}
    (hq : Query.parse s = .ok q) (hn : params.length = q.parameterCount) :
    ∃ sql literals, q.bind params = .ok sql ∧
      params.map (fun v => lexemes v.literal) = literals.map .ok ∧
      sql.toList = joined (fill q.lexemes literals) ∧
      (tokens (fill q.lexemes literals)).map Token.content =
        replaced (q.tokens.map Token.content)
          (literals.map fun ls => (tokens ls).map Token.content) ∧
      ((lexemes sql.toList).map tokens = .ok (tokens (fill q.lexemes literals)) ↔
        Separate (tokens (fill q.lexemes literals))) := by
  obtain ⟨literals, hjoined, hlit⟩ := exists_literals params
  have hls := lexemes_of_parse hq
  have hbind : q.bind params = .ok (String.ofList (joined (fill q.lexemes literals))) := by
    have hlen : (params.map Value.literal).length = q.parameterCount := by
      rw [List.length_map, hn]
    simp only [Query.bind, Query.render?, if_pos hlen]
    rw [joined_fill, hjoined]
  refine ⟨_, literals, hbind, ?_, String.toList_ofList, ?_, ?_⟩
  · have hreads : literals.map (fun ls => lexemes (joined ls)) = literals.map .ok :=
      List.map_congr_left fun ls h => (hlit ls h).reads
    have hmap := congrArg (List.map lexemes) hjoined
    rw [List.map_map, List.map_map] at hmap
    exact hmap.symm.trans hreads
  · simp only [tokens, Query.tokens, content_tokensFrom]
    exact content_fill _ _
  · rw [String.toList_ofList, map_eq_ok_iff]
    have hne : ∀ l ∈ fill q.lexemes literals, l.text ≠ [] := by
      obtain ⟨hgood, -⟩ := (lexemes_joined_iff _).1 hls
      intro l hl
      rcases mem_fill hl with hl | ⟨ls, hls, hl⟩
      · exact text_ne_nil_of_good (hgood l hl)
      · exact text_ne_nil_of_good ((hlit ls hls).good l hl)
    rw [show tokens (fill q.lexemes literals) = tokensFrom 0 [] (fill q.lexemes literals) from rfl,
      ← peaceful_iff_separate hne 0 []]
    constructor
    · intro ⟨ls, hl, he⟩
      -- whatever is read has no clash, so its tokens have none, and those are the same
      have hread : lexemes (joined ls) = .ok ls := by
        rw [joined_lexemes hl]
        exact hl
      have hp : Peaceful ls := peaceful_of_lexemes hread
      rw [peaceful_iff_separate (text_ne_nil hl) 0 []] at hp
      rw [peaceful_iff_separate hne 0 [], ← he]
      exact hp
    · intro hp
      exact ⟨_, (lexemes_fill_iff hls hlit).2 hp, rfl⟩

/-- One minus a placeholder. -/
def oneMinus : Query where
  lexemes :=
    [.word "select".toList, ⟨.blank, [' ']⟩, .word ['1'], .symbol '-', ⟨.token .placeholder, ['?']⟩]

/-- A negative number after a dash: the two dashes begin a comment, and the number is lost in it. -/
theorem bind_oneMinus_not_separate :
    Query.parse "select 1-?" = .ok oneMinus ∧ oneMinus.bind [.int (-1)] = .ok "select 1--1" ∧
      (lexemes "select 1--1".toList).map tokens ≠
        .ok (tokens (fill oneMinus.lexemes [[.symbol '-', .word ['1']]])) := by
  have hq : Query.parse "select 1-?" = .ok oneMinus := by decide +kernel
  have hbind : oneMinus.bind [.int (-1)] = .ok "select 1--1" := by
    have hr : oneMinus.render? ([.int (-1)].map Value.literal) = some "select 1--1" := by
      decide +kernel
    rw [Query.bind, hr]
  have hone : lexemes (Value.int (-1)).literal = .ok [.symbol '-', .word ['1']] := by
    decide +kernel
  have hs : ¬ Separate (tokens (fill oneMinus.lexemes [[.symbol '-', .word ['1']]])) := by
    decide +kernel
  refine ⟨hq, hbind, fun htokens => ?_⟩
  have hn : [Value.int (-1)].length = oneMinus.parameterCount := by decide +kernel
  obtain ⟨sql, literals, hsql, hlit, -, -, hiff⟩ := bind_iff_separate hq hn
  cases hsql.symm.trans hbind
  match literals, hlit, hiff with
  | [], hlit, _ => cases hlit
  | [ls], hlit, hiff =>
    cases (List.cons.inj hlit).1.symm.trans hone
    exact absurd (hiff.1 htokens) hs
  | _ :: _ :: _, hlit, _ => cases (List.cons.inj hlit).2

end StatelessSession.Sql
