import StatelessSession.Proofs.Sql.InRange

/-!
# Rendering is exact

The placeholders of a query cut its text into segments, which with a question mark between each two
are the text again. Rendering puts the literals of values in the place of these marks and changes
nothing else.

* `Segments` -- what is left of a text without its placeholders; `weave`, `marked`, `cuts`.
* `eq_of_marked` -- segments are known by the text and by where it is cut.
* `weave_segments`, `marked_segments`, `cutsFrom_segments` -- the segments among lexemes.
* `isMark_iff` -- a question mark is no placeholder in quotes and in comments, and one elsewhere.
* `Rendered` -- what is promised of rendering.
* **`render_exact`** -- it holds for every query.

NOT here: whether a rendered text has the tokens of its parts (`Binding`).
-/

namespace StatelessSession.Sql

/-! ## 1. Segments -/

/-- A text without its placeholders: what is before the first, and what is after each. -/
structure Segments where
  first : List Char
  rest : List (List Char)
deriving DecidableEq, Repr

namespace Segments

/-- The segments with a text between each two. -/
def weave (g : Segments) (texts : List (List Char)) : List Char :=
  g.first ++ (List.zipWith (· ++ ·) texts g.rest).flatten

/-- The segments with a question mark between each two. -/
def marked (g : Segments) : List Char := g.weave (List.replicate g.rest.length ['?'])

/-- The bytes of the marks before segments, the first of them at byte `start`. -/
def cutsFrom (start : Nat) : List (List Char) → List Nat
  | [] => []
  | m :: rest => start :: cutsFrom (start + 1 + byteSize m) rest

/-- The bytes at which the question marks stand. -/
def cuts (g : Segments) : List Nat := cutsFrom (byteSize g.first) g.rest

variable {g : Segments} {u v m : List Char} {rest rest' texts : List (List Char)} {n start : Nat}

@[simp] theorem weave_nil (u : List Char) (texts : List (List Char)) :
    weave ⟨u, []⟩ texts = u := by
  simp [weave]

@[simp] theorem weave_cons (u m t : List Char) (rest texts : List (List Char)) :
    weave ⟨u, m :: rest⟩ (t :: texts) = u ++ (t ++ weave ⟨m, rest⟩ texts) := by
  simp [weave]

theorem weave_append (u m : List Char) (rest texts : List (List Char)) :
    weave ⟨u ++ m, rest⟩ texts = u ++ weave ⟨m, rest⟩ texts := List.append_assoc ..

@[simp] theorem marked_nil (u : List Char) : marked ⟨u, []⟩ = u := weave_nil u []

@[simp] theorem marked_cons (u m : List Char) (rest : List (List Char)) :
    marked ⟨u, m :: rest⟩ = u ++ '?' :: marked ⟨m, rest⟩ := weave_cons ..

theorem length_cutsFrom (start : Nat) (rest : List (List Char)) :
    (cutsFrom start rest).length = rest.length := by
  induction rest generalizing start with
  | nil => rfl
  | cons m rest ih => rw [cutsFrom, List.length_cons, ih, List.length_cons]

/-- A text is cut in one way at a byte. -/
theorem append_inj_of_byteSize {u' v' : List Char} (h : u ++ v = u' ++ v')
    (hn : byteSize u = byteSize u') : u = u' ∧ v = v' := by
  have hsplit := splitAt?_append u v
  rw [h, hn, splitAt?_append] at hsplit
  cases hsplit
  exact ⟨rfl, rfl⟩

theorem eq_of_marked_from (h : marked ⟨u, rest⟩ = marked ⟨v, rest'⟩)
    (hcuts : cutsFrom (n + byteSize u) rest = cutsFrom (n + byteSize v) rest') :
    u = v ∧ rest = rest' := by
  induction rest generalizing u v rest' n with
  | nil =>
    cases rest' with
    | nil => exact ⟨by simpa using h, rfl⟩
    | cons m' rest' => cases hcuts
  | cons m rest ih =>
    cases rest' with
    | nil => cases hcuts
    | cons m' rest' =>
      obtain ⟨hu, hcuts⟩ := List.cons.inj hcuts
      rw [marked_cons, marked_cons] at h
      obtain ⟨rfl, hafter⟩ := append_inj_of_byteSize h (Nat.add_left_cancel hu)
      obtain ⟨rfl, rfl⟩ := ih (List.cons.inj hafter).2 hcuts
      exact ⟨rfl, rfl⟩

/-- **Segments are known by the text and by where it is cut.** -/
theorem eq_of_marked {g' : Segments} (h : g.marked = g'.marked) (hcuts : g.cuts = g'.cuts) :
    g = g' := by
  obtain ⟨u, rest⟩ := g
  obtain ⟨v, rest'⟩ := g'
  have hcuts' : cutsFrom (0 + byteSize u) rest = cutsFrom (0 + byteSize v) rest' := by
    rw [Nat.zero_add, Nat.zero_add]
    exact hcuts
  obtain ⟨rfl, rfl⟩ := eq_of_marked_from h hcuts'
  rfl

end Segments

/-! ## 2. The segments among lexemes -/

open Segments

variable {s : String} {q : Query} {ls : List Lexeme} {texts : List (List Char)}

/-- Lexemes without the placeholders among them. -/
def segments : List Lexeme → Segments
  | [] => ⟨[], []⟩
  | l :: ls =>
    if l.kind = .token .placeholder then ⟨[], (segments ls).first :: (segments ls).rest⟩
    else ⟨l.text ++ (segments ls).first, (segments ls).rest⟩

theorem weave_segments (h : texts.length = (segments ls).rest.length) :
    (segments ls).weave texts = Query.substitute ls texts := by
  induction ls generalizing texts with
  | nil => exact weave_nil [] texts
  | cons l ls ih =>
    rw [segments] at h ⊢
    by_cases hk : l.kind = .token .placeholder
    · rw [if_pos hk] at h ⊢
      obtain ⟨t, texts, rfl⟩ := List.exists_cons_of_length_eq_add_one h
      obtain ⟨kind, text⟩ := l
      cases hk
      rw [weave_cons, List.nil_append, ih (Nat.succ.inj h)]
      rfl
    · rw [if_neg hk] at h ⊢
      rw [weave_append, ih h, substitute_cons_of_ne hk]

theorem marked_segments (hmark : ∀ l ∈ ls, l.kind = .token .placeholder → l.text = ['?']) :
    (segments ls).marked = joined ls := by
  induction ls with
  | nil => rfl
  | cons l ls ih =>
    obtain ⟨hl, hmarks⟩ := List.forall_mem_cons.1 hmark
    rw [segments]
    by_cases hk : l.kind = .token .placeholder
    · rw [if_pos hk, marked_cons, joined_cons, hl hk, ih hmarks]
      rfl
    · rw [if_neg hk, joined_cons, ← ih hmarks]
      exact weave_append ..

theorem cutsFrom_segments (hmark : ∀ l ∈ ls, l.kind = .token .placeholder → l.text = ['?'])
    (start : Nat) :
    cutsFrom (start + byteSize (segments ls).first) (segments ls).rest = marksFrom start ls := by
  induction ls generalizing start with
  | nil => rfl
  | cons l ls ih =>
    obtain ⟨hl, hmarks⟩ := List.forall_mem_cons.1 hmark
    rw [segments, marksFrom]
    by_cases hk : l.kind = .token .placeholder
    · rw [if_pos hk, if_pos hk, hl hk]
      exact congrArg (start :: ·) (ih hmarks (start + 1))
    · rw [if_neg hk, if_neg hk, byteSize_append, ← Nat.add_assoc]
      exact ih hmarks (start + byteSize l.text)

/-! ## 3. Question marks -/

/-- The kinds of lexemes with text of their own inside: quotes and comments. -/
def Enclosing (k : LexemeKind) : Prop :=
  k = .token .string ∨ k = .token .quotedName ∨ k = .lineComment ∨ k = .blockComment

/-- A placeholder starts at a byte. -/
def IsMark (xs : List (Extent LexemeKind)) (n : Nat) : Prop :=
  ∃ x ∈ xs, x.kind = .token .placeholder ∧ x.start = n

/-- A byte stands in quotes or in a comment. -/
def Enclosed (xs : List (Extent LexemeKind)) (n : Nat) : Prop :=
  ∃ x ∈ xs, Enclosing x.kind ∧ x.start ≤ n ∧ n < x.stop

theorem isMark_cons (start : Nat) (k : LexemeKind) (u : List UInt8) (ps : List Piece) (n : Nat) :
    IsMark (extents start (⟨k, u⟩ :: ps)) n ↔
      (k = .token .placeholder ∧ start = n) ∨ IsMark (extents (start + u.length) ps) n :=
  List.exists_mem_cons_iff ..

theorem enclosed_cons (start : Nat) (k : LexemeKind) (u : List UInt8) (ps : List Piece) (n : Nat) :
    Enclosed (extents start (⟨k, u⟩ :: ps)) n ↔
      (Enclosing k ∧ start ≤ n ∧ n < start + u.length) ∨
        Enclosed (extents (start + u.length) ps) n := List.exists_mem_cons_iff ..

theorem mem_marksFrom_iff {n start : Nat} :
    n ∈ marksFrom start ls ↔ IsMark (extents start (ls.map Lexeme.piece)) n := by
  induction ls generalizing start with
  | nil => simp [marksFrom, extents, IsMark]
  | cons l ls ih =>
    rw [marksFrom, List.map_cons, Lexeme.piece, isMark_cons, length_utf8, ← ih]
    by_cases hk : l.kind = .token .placeholder
    · rw [if_pos hk, List.mem_cons, and_iff_right hk]
      exact or_congr_left eq_comm
    · rw [if_neg hk, or_iff_right fun h => hk h.1]

/-- **A question mark in a lexeme** that is neither in quotes nor a comment is a placeholder, and is
    the whole of it. -/
theorem IsLexeme.placeholder_iff {k : LexemeKind} {u v : List UInt8} (h : IsLexeme Counted k u v)
    {n : Nat} (hn : n < u.length) :
    k = .token .placeholder ∧ n = 0 ↔ u[n]? = some '?'.toUInt8 ∧ ¬ Enclosing k := by
  have hno : ∀ {b : UInt8}, b ≠ '?'.toUInt8 → ([b] : List UInt8)[n]? ≠ some '?'.toUInt8 := by
    intro b hb e
    cases n with
    | zero => exact hb (Option.some.inj e)
    | succ n => cases e
  cases h with
  | blank hb =>
    refine iff_of_false (fun h => by cases h.1) fun h => hno ?_ h.1
    rintro rfl
    exact absurd hb (by decide)
  | lineComment => exact iff_of_false (fun h => by cases h.1) fun h => h.2 (.inr (.inr (.inl rfl)))
  | lastComment => exact iff_of_false (fun h => by cases h.1) fun h => h.2 (.inr (.inr (.inl rfl)))
  | blockComment => exact iff_of_false (fun h => by cases h.1) fun h => h.2 (.inr (.inr (.inr rfl)))
  | string => exact iff_of_false (fun h => by cases h.1) fun h => h.2 (.inl rfl)
  | quotedName => exact iff_of_false (fun h => by cases h.1) fun h => h.2 (.inr (.inl rfl))
  | placeholder =>
    have hzero : n = 0 := Nat.lt_one_iff.1 hn
    subst hzero
    exact iff_of_true ⟨rfl, rfl⟩ ⟨rfl, by simp [Enclosing]⟩
  | word hu =>
    refine iff_of_false (fun h => by cases h.1) fun h => ?_
    exact absurd (hu _ (List.mem_of_getElem? h.1)) (by decide)
  | symbol _ _ _ _ hp => exact iff_of_false (fun h => by cases h.1) fun h => hno hp h.1

/-- **A question mark is a placeholder** exactly if it is neither in quotes nor in a comment. -/
theorem isMark_iff {t : List UInt8} {ps : List Piece} (h : Lexed Counted t ps []) (start n : Nat) :
    IsMark (extents start ps) (start + n) ↔
      t[n]? = some '?'.toUInt8 ∧ ¬ Enclosed (extents start ps) (start + n) := by
  generalize hw : ([] : List UInt8) = w at h
  induction h generalizing start n with
  | done w =>
    subst hw
    simp [extents, IsMark]
  | @next k u v w ps h hs ih =>
    rw [isMark_cons, enclosed_cons]
    by_cases hn : n < u.length
    · -- the byte is in the first lexeme, and all others stand after it
      have hafter : ∀ x ∈ extents (start + u.length) ps, ¬ x.start ≤ start + n := fun x hx hle => by
        have hwithin := ((filled_extents hs (start + u.length)).within x hx).1
        omega
      have hmark : ¬ IsMark (extents (start + u.length) ps) (start + n) := by
        rintro ⟨x, hx, -, e⟩
        exact hafter x hx (Nat.le_of_eq e)
      have hclosed : ¬ Enclosed (extents (start + u.length) ps) (start + n) := by
        rintro ⟨x, hx, -, hle, -⟩
        exact hafter x hx hle
      have hstart : start = start + n ↔ n = 0 := by omega
      have hin : start ≤ start + n ∧ start + n < start + u.length := by omega
      rw [or_iff_left hmark, or_iff_left hclosed, List.getElem?_append_left hn, hstart,
        and_iff_left hin]
      exact h.placeholder_iff hn
    · obtain ⟨m, rfl⟩ := Nat.exists_eq_add_of_le (Nat.le_of_not_lt hn)
      have hpos := List.length_pos_iff.2 h.ne_nil
      rw [or_iff_right fun h => by omega, or_iff_right fun h => by omega,
        List.getElem?_append_right (Nat.le_add_right _ _), Nat.add_sub_cancel_left, ← Nat.add_assoc]
      exact ih (start + u.length) m hw

/-! ## 4. Rendering -/

/-- **What is promised of rendering** a query by the segments of its text. -/
structure Rendered (s : String) (q : Query) (g : Segments) : Prop where
  /-- They alone are the text, byte for byte, with marks where the placeholders are. -/
  unique : ∀ g' : Segments, g'.marked = s.toList ∧ g'.cuts = q.placeholders ↔ g' = g
  count : g.rest.length = q.parameterCount
  lexed : Lexed Counted s.toByteArray.data.toList (q.lexemes.map Lexeme.piece) []
  /-- In less than 8 GiB its comments are those that nest. -/
  nested : s.utf8ByteSize < 2 ^ 33 →
    Lexed CommentBody s.toByteArray.data.toList (q.lexemes.map Lexeme.piece) []
  /-- A question mark in quotes or in a comment is no cut, and any other is. -/
  cut : ∀ n, n ∈ g.cuts ↔ s.toByteArray.data.toList[n]? = some '?'.toUInt8 ∧
    ¬ Enclosed (extents 0 (q.lexemes.map Lexeme.piece)) n
  ok : ∀ params sql, q.bind params = .ok sql ↔
    params.length = q.parameterCount ∧ sql.toList = g.weave (params.map Value.literal)
  error : ∀ params e, q.bind params = .error e ↔
    params.length ≠ q.parameterCount ∧ e = .parameterCount q.parameterCount params.length
  kind : ∀ params e, q.bind params = .error e → e.kind = .parameter
  /-- Cut at the bytes of the placeholders, the text renders to the same. -/
  bytes : ∀ params, q.scanned.bindAt? params = some (q.bind params)

/-- The segments of a query. -/
def Query.segments (q : Query) : Segments := Sql.segments q.lexemes

theorem marked_query (hq : Query.parse s = .ok q) : q.segments.marked = s.toList := by
  rw [← joined_lexemes (lexemes_toList_of_parse hq)]
  exact marked_segments fun _ => text_of_placeholder (lexemes_of_parse hq)

theorem cuts_query (hq : Query.parse s = .ok q) : q.segments.cuts = q.placeholders := by
  have hcuts := cutsFrom_segments (fun _ => text_of_placeholder (lexemes_of_parse hq)) 0
  rw [Nat.zero_add, ← marksFrom_eq 0 []] at hcuts
  exact hcuts

theorem length_query (hq : Query.parse s = .ok q) :
    q.segments.rest.length = q.parameterCount := by
  rw [← length_cutsFrom (byteSize q.segments.first)]
  exact (congrArg List.length (cuts_query hq)).trans (List.length_map _)

theorem bind_eq_weave (hq : Query.parse s = .ok q) (params : List Value) :
    q.bind params = if params.length = q.parameterCount then
      .ok (String.ofList (q.segments.weave (params.map Value.literal)))
      else .error (.parameterCount q.parameterCount params.length) := by
  rw [Query.bind, Query.render?, List.length_map]
  by_cases hlen : params.length = q.parameterCount
  · have htext : q.segments.weave (params.map Value.literal) = _ :=
      weave_segments (by rw [List.length_map, hlen, ← length_query hq]; rfl)
    rw [if_pos hlen, if_pos hlen, htext]
  · rw [if_neg hlen, if_neg hlen]

/-- **Rendering is exact**: the text of a query is cut at its placeholders and nowhere else, and for
    as many values as there are placeholders, and for no others, its segments are joined by their
    literals. -/
theorem render_exact (hq : Query.parse s = .ok q) : Rendered s q q.segments := by
  have hlexed : Lexed Counted (utf8 s.toList) (q.lexemes.map Lexeme.piece) [] :=
    (lexed_iff_lexemesFrom 0 _ _).2 ⟨_, lexemes_toList_of_parse hq, rfl⟩
  constructor
  case unique =>
    intro g'
    constructor
    · intro ⟨h, hcuts⟩
      exact eq_of_marked (h.trans (marked_query hq).symm) (hcuts.trans (cuts_query hq).symm)
    · rintro rfl
      exact ⟨marked_query hq, cuts_query hq⟩
  case count => exact length_query hq
  case lexed =>
    rw [← utf8_toList]
    exact hlexed
  case nested =>
    intro hsize
    rw [← utf8_toList]
    refine (lexed_counted_iff ?_).2 hlexed
    rwa [length_utf8, byteSize_toList]
  case cut =>
    intro n
    have hiff := isMark_iff hlexed 0 n
    rw [Nat.zero_add, ← mem_marksFrom_iff, ← marksFrom_eq 0 []] at hiff
    rw [← utf8_toList, cuts_query hq]
    exact hiff
  case ok =>
    intro params sql
    rw [bind_eq_weave hq]
    by_cases hlen : params.length = q.parameterCount
    · rw [if_pos hlen, and_iff_right hlen, Except.ok.injEq, ← String.toList_inj,
        String.toList_ofList, eq_comm]
    · rw [if_neg hlen]
      exact iff_of_false (fun h => by cases h) fun h => hlen h.1
  case error =>
    intro params e
    rw [bind_eq_weave hq]
    by_cases hlen : params.length = q.parameterCount
    · rw [if_pos hlen]
      exact iff_of_false (fun h => by cases h) fun h => h.1 hlen
    · rw [if_neg hlen, and_iff_right hlen, Except.error.injEq, eq_comm]
  case kind =>
    intro params e h
    rw [bind_eq_weave hq] at h
    split at h
    · cases h
    · cases h
      rfl
  case bytes => exact bindAt?_eq hq

/-- Question marks in quotes and in comments, and two that are placeholders. -/
def enclosedMarks : String := "select '?', `?`, ? -- ?\nfrom t /* ? */ where x = ?"

theorem render_exact_enclosed :
    ∃ q, Query.parse enclosedMarks = .ok q ∧ Rendered enclosedMarks q q.segments ∧
      q.segments = ⟨"select '?', `?`, ".toList, [" -- ?\nfrom t /* ? */ where x = ".toList, []]⟩ ∧
      q.bind [.int 1, .text "?"] =
        .ok "select '?', `?`, 1 -- ?\nfrom t /* ? */ where x = '?'" := by
  have hsegments : (Query.parse enclosedMarks).map Query.segments = .ok
      ⟨"select '?', `?`, ".toList, [" -- ?\nfrom t /* ? */ where x = ".toList, []]⟩ := by
    decide +kernel
  obtain ⟨q, hq, hsegments⟩ := map_eq_ok_iff.1 hsegments
  have hrendered := render_exact hq
  refine ⟨q, hq, hrendered, hsegments, (hrendered.ok _ _).2 ⟨?_, ?_⟩⟩
  · rw [← hrendered.count, hsegments]
    rfl
  · rw [hsegments]
    decide +kernel

end StatelessSession.Sql
