import StatelessSession.Proofs.Sql.Blocks

/-!
# Bound values are read back

If nothing that could run together with a literal stands next to a placeholder, then whatever values
are bound, the bound text reads as the query's tokens with a block in the place of each placeholder,
and each block reads as its value.

* `Query.Roomy` -- no placeholder has a byte of a word, a single quote, a question mark, or in front
  a dash next to it; `Spaced` -- the same of lexemes.
* `spaced_of_roomy` -- from bytes to lexemes.
* `peaceful_fill` -- between lexemes with room no literal clashes.
* `replaced_inj` -- blocks that read alike are told apart in the place of the placeholders.
* **`bind_reads_back`** -- the bound text, its blocks and their values.

NOT here: what happens without room (`Proofs.Sql.Binding`).
-/

namespace StatelessSession.Sql

/-! ## 1. Room around placeholders -/

/-- The bytes of a query. -/
def Query.bytes (q : Query) : List UInt8 := utf8 q.sql.toList

/-- The bytes that can run together with a literal, and question marks. -/
def isTouching (b : UInt8) : Bool := isWordByte b || b = '\''.toUInt8 || b = '?'.toUInt8

/-- **Every placeholder has room.** The byte before it is none of a word, no single quote, no dash
    and no question mark; the byte after it is none of a word, no single quote and no question
    mark. -/
def Query.Roomy (q : Query) : Prop :=
  ∀ i ∈ q.placeholders,
    (∀ b ∈ (q.bytes.take i).getLast?, isTouching b = false ∧ b ≠ '-'.toUInt8) ∧
      ∀ b ∈ (q.bytes.drop (i + 1)).head?, isTouching b = false

instance (q : Query) : Decidable q.Roomy :=
  inferInstanceAs (Decidable (∀ i ∈ q.placeholders,
    (∀ b ∈ (q.bytes.take i).getLast?, isTouching b = false ∧ b ≠ '-'.toUInt8) ∧
      ∀ b ∈ (q.bytes.drop (i + 1)).head?, isTouching b = false))

variable {q : Query} {l m : Lexeme} {ls pre post : List Lexeme}

/-- A lexeme that is a token is one of the tokens, and starts after the lexemes before it. -/
theorem exists_token_start (pre post : List Lexeme) {k : TokenKind} (hk : m.kind = .token k)
    (start : Nat) (gap : List Char) :
    ∃ t ∈ tokensFrom start gap (pre ++ m :: post),
      t.kind = k ∧ t.start = start + byteSize (joined pre) := by
  induction pre generalizing start gap with
  | nil =>
    obtain ⟨kind, text⟩ := m
    cases hk
    exact ⟨_, List.mem_cons_self, rfl, rfl⟩
  | cons l pre ih =>
    obtain ⟨kind, text⟩ := l
    have hstart : ∀ n, start + byteSize text + n = start + (byteSize text + n) :=
      fun n => Nat.add_assoc ..
    rw [joined_cons, byteSize_append]
    cases kind with
    | token kind =>
      obtain ⟨t, ht, htk, hts⟩ := ih (start + byteSize text) []
      exact ⟨t, List.mem_cons_of_mem _ ht, htk, hts.trans (hstart _)⟩
    | blank =>
      obtain ⟨t, ht, htk, hts⟩ := ih (start + byteSize text) (gap ++ text)
      exact ⟨t, ht, htk, hts.trans (hstart _)⟩
    | lineComment =>
      obtain ⟨t, ht, htk, hts⟩ := ih (start + byteSize text) (gap ++ text)
      exact ⟨t, ht, htk, hts.trans (hstart _)⟩
    | blockComment =>
      obtain ⟨t, ht, htk, hts⟩ := ih (start + byteSize text) (gap ++ text)
      exact ⟨t, ht, htk, hts.trans (hstart _)⟩

theorem mem_placeholders (e : q.lexemes = pre ++ m :: post) (hm : m.kind = .token .placeholder) :
    byteSize (joined pre) ∈ q.placeholders := by
  obtain ⟨t, ht, hk, hs⟩ := exists_token_start pre post hm 0 []
  rw [← e] at ht
  rw [Nat.zero_add] at hs
  refine List.mem_map.2 ⟨t, List.mem_filter.2 ⟨ht, ?_⟩, hs⟩
  rw [hk]
  rfl

/-- **The bytes around a placeholder** are those of the lexemes around it. -/
theorem Query.Roomy.around (h : q.Roomy) (e : q.lexemes = pre ++ m :: post)
    (hm : m.kind = .token .placeholder) (hgood : m.piece.Good) :
    (∀ b ∈ (utf8 (joined pre)).getLast?, isTouching b = false ∧ b ≠ '-'.toUInt8) ∧
      ∀ b ∈ (utf8 (joined post)).head?, isTouching b = false := by
  have hmark : utf8 m.text = ['?'.toUInt8] := hgood.bytes_placeholder hm
  have hbytes : q.bytes = utf8 (joined pre) ++ '?'.toUInt8 :: utf8 (joined post) := by
    rw [Query.bytes, Query.sql, String.toList_ofList, e, utf8_joined, List.map_append,
      List.flatMap_append, ← utf8_joined, List.map_cons, List.flatMap_cons, ← utf8_joined]
    show _ ++ (utf8 m.text ++ _) = _
    rw [hmark]
    rfl
  have hroom := h _ (mem_placeholders e hm)
  rw [hbytes, ← length_utf8, List.take_left] at hroom
  refine ⟨hroom.1, fun b hb => hroom.2 b ?_⟩
  rw [← List.drop_drop, List.drop_left]
  exact hb

/-- The last byte of what a literal can clash with, or of a placeholder. -/
theorem Piece.Good.last_touching {p : Piece} (h : p.Good)
    (hk : Opening p.kind ∨ p.kind = .token .placeholder) :
    ∃ b ∈ p.bytes.getLast?, isTouching b = true ∨ b = '-'.toUInt8 := by
  rcases hk with (hk | hk | hk) | hk
  · obtain ⟨v, h⟩ := h
    obtain ⟨kind, bytes⟩ := p
    cases hk
    cases h with
    | @word b u _ hu hv =>
      have hlast := List.getLast?_eq_some_getLast (List.cons_ne_nil b u)
      refine ⟨_, hlast, .inl ?_⟩
      rw [isTouching, hu _ (List.getLast_mem _)]
      rfl
  · obtain ⟨v, h⟩ := h
    obtain ⟨kind, bytes⟩ := p
    cases hk
    cases h with
    | @string u _ hu hv => exact ⟨_, List.getLast?_concat (l := '\''.toUInt8 :: u), .inl rfl⟩
  · rw [(h.bytes_symbol hk).1]
    exact ⟨_, rfl, .inr rfl⟩
  · rw [h.bytes_placeholder hk]
    exact ⟨_, rfl, .inl rfl⟩

/-- The first byte of what a literal can clash with, or of a placeholder. -/
theorem Piece.Good.head_touching {p : Piece} (h : p.Good)
    (hk : p.kind = .token .word ∨ p.kind = .token .string ∨ p.kind = .token .placeholder) :
    ∃ b ∈ p.bytes.head?, isTouching b = true := by
  rcases hk with hk | hk | hk
  · obtain ⟨b, hb, hw⟩ := h.head_word.1 hk
    refine ⟨b, hb, ?_⟩
    rw [isTouching, hw]
    rfl
  · exact ⟨_, h.head_string.1 hk, rfl⟩
  · rw [h.bytes_placeholder hk]
    exact ⟨_, rfl, rfl⟩

/-- Neighbours with room between a placeholder and what a literal can clash with. -/
def Spaced (l m : Lexeme) : Prop :=
  (m.kind = .token .placeholder → ¬ Opening l.kind ∧ l.kind ≠ .token .placeholder) ∧
    (l.kind = .token .placeholder →
      m.kind ≠ .token .word ∧ m.kind ≠ .token .string ∧ m.kind ≠ .token .placeholder)

/-- **Room around placeholders is room between lexemes.** -/
theorem spaced_of_roomy (hls : lexemes (joined q.lexemes) = .ok q.lexemes) (h : q.Roomy) :
    q.lexemes.IsChain Spaced := by
  obtain ⟨hgood, -⟩ := (lexemes_joined_iff _).1 hls
  refine List.isChain_iff_forall_rel_of_append_cons_cons.2 fun l m pre post e => ?_
  have hl : l.piece.Good := hgood l (by simp [e])
  have hm : m.piece.Good := hgood m (by simp [e])
  constructor
  · intro hk
    have hsplit : q.lexemes = (pre ++ [l]) ++ m :: post := by simp [e]
    obtain ⟨hbefore, -⟩ := h.around hsplit hk hm
    have hno : ¬ (Opening l.kind ∨ l.kind = .token .placeholder) := fun hkind => by
      obtain ⟨b, hb, htouch⟩ := hl.last_touching hkind
      have hlast : b ∈ (utf8 (joined (pre ++ [l]))).getLast? := by
        have hjoin : utf8 (joined (pre ++ [l])) = utf8 (joined pre) ++ l.piece.bytes := by
          simp [joined, Lexeme.piece]
        rw [hjoin, List.getLast?_append, hb]
        rfl
      obtain ⟨hfree, hdash⟩ := hbefore b hlast
      rcases htouch with htouch | htouch
      · rw [htouch] at hfree
        cases hfree
      · exact hdash htouch
    exact ⟨fun hkind => hno (.inl hkind), fun hkind => hno (.inr hkind)⟩
  · intro hk
    obtain ⟨-, hafter⟩ := h.around e hk hl
    have hno : ¬ (m.kind = .token .word ∨ m.kind = .token .string ∨
        m.kind = .token .placeholder) := fun hkind => by
      obtain ⟨b, hb, htouch⟩ := hm.head_touching hkind
      have hfirst : b ∈ (utf8 (joined (m :: post))).head? := by
        rw [joined_cons, utf8_append, List.head?_append]
        show b ∈ (m.piece.bytes.head?).or _
        rw [hb]
        rfl
      have hfree := hafter b hfirst
      rw [htouch] at hfree
      cases hfree
    exact ⟨fun hkind => hno (.inl hkind), fun hkind => hno (.inr (.inl hkind)),
      fun hkind => hno (.inr (.inr hkind))⟩

/-! ## 2. No clash -/

/-- What clashes with the end of a literal is a word or a string literal. -/
theorem Clash.of_closing {k k' : LexemeKind} (h : Clash k k') (hc : Closing k) :
    k' = .token .word ∨ k' = .token .string := by
  obtain ⟨rfl, hk⟩ := h
  rcases hc with hc | hc | rfl
  · exact .inl hc
  · exact .inr hc
  · rcases hk with hk | hk | hk <;> cases hk

/-- **Between lexemes with room no literal clashes.** -/
theorem peaceful_fill {ts : List (List Lexeme)} (hp : Peaceful ls) (hs : ls.IsChain Spaced)
    (hts : ∀ t ∈ ts, IsLiteral t) : Peaceful (fill ls ts) := by
  fun_induction fill ls ts with
  | case1 ts => exact .nil
  | case2 text ls t ts ih =>
    obtain ⟨-, hp⟩ := List.isChain_cons.1 hp
    obtain ⟨hspace, hs⟩ := List.isChain_cons.1 hs
    obtain ⟨ht, hts⟩ := List.forall_mem_cons.1 hts
    refine List.isChain_append.2 ⟨peaceful_of_lexemes ht.reads, ih hp hs hts, ?_⟩
    intro l hl m hm hclash
    obtain ⟨l', hl', hclosing⟩ := ht.last
    cases Option.some.inj (hl'.symm.trans hl)
    rcases head?_fill (fun t ht => (hts t ht).ne_nil) hm with hm | ⟨text', hm, -⟩
    · -- what follows the placeholder is no word and no string literal
      obtain ⟨hword, hstring, -⟩ := (hspace m hm).2 rfl
      rcases hclash.of_closing hclosing with hk | hk
      · exact hword hk
      · exact hstring hk
    · exact ((hspace _ hm).2 rfl).2.2 rfl
  | case3 l ls ts hn ih =>
    obtain ⟨hclash, hp⟩ := List.isChain_cons.1 hp
    obtain ⟨hspace, hs⟩ := List.isChain_cons.1 hs
    refine List.isChain_cons.2 ⟨fun m hm => ?_, ih hp hs hts⟩
    rcases head?_fill (fun t ht => (hts t ht).ne_nil) hm with hm | ⟨text, hmark, t, ht, hm⟩
    · exact hclash m hm
    · -- what stands before the placeholder is not what a literal begins with
      obtain ⟨hopening, -⟩ := (hspace _ hmark).1 rfl
      obtain ⟨m', hm', ho⟩ := (hts t ht).first
      cases Option.some.inj (hm'.symm.trans hm)
      exact fun hc => hopening (hc.1 ▸ ho)

/-! ## 3. Blocks in the place of placeholders -/

variable {ts : Block} {bs bs' : List Block} {vs vs' : List Value}

/-- How many placeholders there are. -/
def marks (ts : Block) : Nat := (ts.filter (·.1 == .placeholder)).length

theorem marks_placeholder (text : List Char) (ts : Block) :
    marks ((.placeholder, text) :: ts) = marks ts + 1 := rfl

theorem marks_cons {c : TokenKind × List Char} (hc : c.1 ≠ .placeholder) (ts : Block) :
    marks (c :: ts) = marks ts := by
  rw [marks, List.filter_cons_of_neg]
  · rfl
  · simpa using hc

theorem replaced_cons {c : TokenKind × List Char} (hc : c.1 ≠ .placeholder) (ts : Block)
    (bs : List Block) : replaced (c :: ts) bs = c :: replaced ts bs := by
  rw [replaced]
  intro text u us _ e
  exact hc (congrArg Prod.fst e)

/-- With a block for each placeholder, none is left. -/
theorem placeholder_not_mem_replaced (hn : bs.length = marks ts)
    (hbs : ∀ b ∈ bs, ∀ c ∈ b, c.1 ≠ .placeholder) : ∀ c ∈ replaced ts bs, c.1 ≠ .placeholder := by
  induction ts generalizing bs with
  | nil => exact nofun
  | cons t ts ih =>
    obtain ⟨kind, text⟩ := t
    by_cases hk : kind = .placeholder
    · subst hk
      rw [marks_placeholder] at hn
      obtain ⟨b, bs, rfl⟩ := List.exists_cons_of_length_eq_add_one hn
      obtain ⟨hb, hbs⟩ := List.forall_mem_cons.1 hbs
      intro c hc
      rcases List.mem_append.1 hc with hc | hc
      · exact hb c hc
      · exact ih (Nat.succ.inj hn) hbs c hc
    · rw [marks_cons hk] at hn
      rw [replaced_cons hk]
      exact List.forall_mem_cons.2 ⟨hk, ih hn hbs⟩

/-- **Blocks that read alike are told apart** in the place of the placeholders. -/
theorem replaced_inj (hn : bs.length = marks ts) (hb : List.Forall₂ Reads bs vs)
    (hb' : List.Forall₂ Reads bs' vs') (hv : List.Forall₂ Alike vs vs')
    (h : replaced ts bs = replaced ts bs') : bs = bs' := by
  induction ts generalizing bs bs' vs vs' with
  | nil =>
    have hnil : bs = [] := List.eq_nil_of_length_eq_zero hn
    subst hnil
    cases hb
    cases hv
    cases hb'
    rfl
  | cons t ts ih =>
    obtain ⟨kind, text⟩ := t
    by_cases hk : kind = .placeholder
    · subst hk
      rw [marks_placeholder] at hn
      cases hb with
      | nil => cases hn
      | cons hread hb =>
        cases hv with
        | cons hvv hv =>
          cases hb' with
          | cons hread' hb' =>
            obtain ⟨e, hrest⟩ := hread.append_inj hvv hread' h
            rw [e, ih (Nat.succ.inj hn) hb hb' hv hrest]
    · rw [marks_cons hk] at hn
      rw [replaced_cons hk, replaced_cons hk] at h
      exact ih hn hb hb' hv (List.cons.inj h).2

theorem unique_of_forall₂ (hb : List.Forall₂ Reads bs vs) (hb' : List.Forall₂ Reads bs vs')
    (hv : List.Forall₂ Alike vs vs') : vs = vs' := by
  induction hv generalizing bs with
  | nil => rfl
  | cons hvv hv ih =>
    cases hb with
    | cons hread hb =>
      cases hb' with
      | cons hread' hb' => rw [hread.unique hvv hread', ih hb hb']

/-! ## 4. Bound queries -/

variable {s : String} {params : List Value}

theorem flatMap_contents {t : List Lexeme} (h : IsLiteral t) :
    (contents t).flatMap Prod.snd = joined t := by
  have hbound := h.bound
  clear h
  induction t with
  | nil => rfl
  | cons l t ih =>
    obtain ⟨⟨k, hk, -⟩, hrest⟩ := List.forall_mem_cons.1 hbound
    obtain ⟨kind, text⟩ := l
    cases hk
    show text ++ (contents t).flatMap Prod.snd = text ++ joined t
    rw [ih hrest]

theorem placeholder_not_mem_contents {t : List Lexeme} (h : IsLiteral t) :
    ∀ c ∈ contents t, c.1 ≠ .placeholder := by
  intro c hc
  obtain ⟨l, hl, hlc⟩ := List.mem_filterMap.1 hc
  obtain ⟨k, hk, hne⟩ := h.bound l hl
  rw [Lexeme.content?, hk] at hlc
  cases hlc
  exact hne

/-- The literals of some values, and what their blocks read as. -/
theorem exists_blocks (params : List Value) :
    ∃ literals : List (List Lexeme), literals.map joined = params.map Value.literal ∧
      (∀ t ∈ literals, IsLiteral t) ∧ List.Forall₂ Reads (literals.map contents) params := by
  induction params with
  | nil => exact ⟨[], rfl, nofun, .nil⟩
  | cons v params ih =>
    obtain ⟨literals, hj, hl, hr⟩ := ih
    obtain ⟨t, hv, ht, hread⟩ := exists_reads v
    refine ⟨t :: literals, ?_, List.forall_mem_cons.2 ⟨ht, hl⟩, .cons hread hr⟩
    rw [List.map_cons, List.map_cons, hv, hj]

theorem marks_content (q : Query) : marks (q.tokens.map Token.content) = q.parameterCount := by
  rw [marks, List.filter_map, List.length_map]
  rfl

/-- What binding gives and how it reads. -/
structure Bound (q : Query) (params : List Value) (sql : String) (ts : List Token)
    (blocks : List Block) : Prop where
  bind_eq : q.bind params = .ok sql
  tokens_eq : (lexemes sql.toList).map tokens = .ok ts
  content_eq : ts.map Token.content = replaced (q.tokens.map Token.content) blocks
  no_placeholder : ∀ t ∈ ts, t.kind ≠ .placeholder
  written : blocks.map (fun b => b.flatMap Prod.snd) = params.map Value.literal
  reads : List.Forall₂ Reads blocks params

theorem exists_bound (hq : Query.parse s = .ok q) (hroom : q.Roomy)
    (hn : params.length = q.parameterCount) : ∃ sql ts blocks, Bound q params sql ts blocks := by
  obtain ⟨literals, hjoined, hlit, hreads⟩ := exists_blocks params
  have hls := lexemes_of_parse hq
  have hfill : lexemes (joined (fill q.lexemes literals)) = .ok (fill q.lexemes literals) :=
    (lexemes_fill_iff hls hlit).2
      (peaceful_fill (peaceful_of_lexemes hls) (spaced_of_roomy hls hroom) hlit)
  have hcontent : (tokens (fill q.lexemes literals)).map Token.content =
      replaced (q.tokens.map Token.content) (literals.map contents) := by
    rw [tokens, content_tokensFrom, content_fill, Query.tokens, tokens, content_tokensFrom]
    rfl
  have hcount : (literals.map contents).length = marks (q.tokens.map Token.content) := by
    rw [hreads.length_eq, hn, marks_content]
  refine ⟨String.ofList (joined (fill q.lexemes literals)), tokens (fill q.lexemes literals),
    literals.map contents, ⟨?_, ?_, hcontent, fun t ht => ?_, ?_, hreads⟩⟩
  · have hlen : (params.map Value.literal).length = q.parameterCount := by
      rw [List.length_map, hn]
    rw [Query.bind, Query.render?, if_pos hlen, joined_fill, hjoined]
  · rw [String.toList_ofList, hfill]
    rfl
  · have hno := placeholder_not_mem_replaced hcount fun b hb => by
      obtain ⟨t, ht, rfl⟩ := List.mem_map.1 hb
      exact placeholder_not_mem_contents (hlit t ht)
    rw [← hcontent] at hno
    exact hno _ (List.mem_map_of_mem ht)
  · rw [List.map_map, ← hjoined]
    exact List.map_congr_left fun t ht => flatMap_contents (hlit t ht)

/-- **Bound values are read back.** Where every placeholder has room, any values for them give a
    text; its tokens are those of the query with a block in the place of each placeholder, none of
    them a placeholder; each block is the literal of its value and reads as it. So two different
    lists of values never give the same text, if they are integers, texts and byte strings and of
    the same kind at each place. -/
theorem bind_reads_back (hq : Query.parse s = .ok q) (hroom : q.Roomy) :
    (∀ params : List Value, params.length = q.parameterCount →
      ∃ sql ts blocks, Bound q params sql ts blocks) ∧
    ∀ params params' : List Value, params.length = q.parameterCount →
      List.Forall₂ Alike params params' → params ≠ params' → q.bind params ≠ q.bind params' := by
  refine ⟨fun params hn => exists_bound hq hroom hn, fun params params' hn halike hne h => hne ?_⟩
  have hn' : params'.length = q.parameterCount := halike.length_eq.symm.trans hn
  obtain ⟨sql, ts, blocks, hb⟩ := exists_bound hq hroom hn
  obtain ⟨sql', ts', blocks', hb'⟩ := exists_bound hq hroom hn'
  have hsql : sql = sql' := by
    have he := hb.bind_eq.symm.trans (h.trans hb'.bind_eq)
    cases he
    rfl
  have hts : ts = ts' := by
    have he := hb.tokens_eq
    rw [hsql, hb'.tokens_eq] at he
    cases he
    rfl
  have hcount : blocks.length = marks (q.tokens.map Token.content) := by
    rw [hb.reads.length_eq, hn, marks_content]
  have hreplaced : replaced (q.tokens.map Token.content) blocks =
      replaced (q.tokens.map Token.content) blocks' := by
    rw [← hb.content_eq, ← hb'.content_eq, hts]
  have hblocks : blocks = blocks' := replaced_inj hcount hb.reads hb'.reads halike hreplaced
  exact unique_of_forall₂ hb.reads (hblocks ▸ hb'.reads) halike

/-- A row of three values. -/
def rowOfThree : String := "insert into t values (?,?,?)"

/-- A negative integer, a text with a quote and a byte string are read back, and another text at the
    same place gives another insert. -/
theorem bind_reads_back_row :
    ∃ q, Query.parse rowOfThree = .ok q ∧ q.Roomy ∧ q.parameterCount = 3 ∧
      (∃ ts blocks, Bound q [.int (-1), .text "it's", .blob [0, 255]]
        "insert into t values (-1,'it\\'s',unhex('00FF'))" ts blocks) ∧
      q.bind [.int (-1), .text "it's", .blob [0, 255]] ≠
        q.bind [.int (-1), .text "it's ?", .blob [0, 255]] := by
  have heval : (Query.parse rowOfThree).map (fun q => (decide q.Roomy, q.parameterCount,
      q.render? ([.int (-1), .text "it's", .blob [0, 255]].map Value.literal))) =
      .ok (true, 3, some "insert into t values (-1,'it\\'s',unhex('00FF'))") := by decide +kernel
  obtain ⟨q, hq, he⟩ := map_eq_ok_iff.1 heval
  simp only [Prod.mk.injEq, decide_eq_true_eq] at he
  obtain ⟨hroom, hcount, hrender⟩ := he
  have hsql : q.bind [.int (-1), .text "it's", .blob [0, 255]] =
      .ok "insert into t values (-1,'it\\'s',unhex('00FF'))" := by rw [Query.bind, hrender]
  obtain ⟨hread, hdiffer⟩ := bind_reads_back hq hroom
  refine ⟨q, hq, hroom, hcount, ?_, hdiffer _ _ hcount.symm ?_ fun h => ?_⟩
  · obtain ⟨sql, ts, blocks, hb⟩ := hread [.int (-1), .text "it's", .blob [0, 255]] hcount.symm
    cases hb.bind_eq.symm.trans hsql
    exact ⟨ts, blocks, hb⟩
  · exact .cons (.int _ _) (.cons (.text _ _) (.cons (.blob _ _) .nil))
  · exact absurd (congrArg (List.map Value.asText) h) (by decide)

end StatelessSession.Sql
