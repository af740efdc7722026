import StatelessSession.Proofs.Sql.Neighbours
import StatelessSession.Sql.Query

/-!
# Slices of a text

A text cut by positions of bytes instead of by its characters. A slice fails outside the text,
inside a character and where it would end before it starts; what the positions of tokens cut is
never such a slice.

* `splitAt?`, `slice?` -- cutting at bytes; `slice?_eq_some_iff` -- what is cut.
* `isSome_splitAt?_iff`, `isSome_slice?_iff` -- where that can be done.
* `Laid` -- tokens that stand in a text one after the other, with their gaps.
* `sliced_tokens` -- so the bytes from a token to a later one cut what is between them.
* `renderAt?_eq` -- a text cut at its placeholders is the query with texts in their place.

NOT here: where the positions come from (`Machine`).
-/

namespace StatelessSession.Sql

variable {s u v m : List Char} {i j n : Nat}

/-! ## 1. Cutting at bytes -/

/-- The text before a byte and the text from it on; `none` outside the text and inside a
    character. -/
def splitAt? : Nat → List Char → Option (List Char × List Char)
  | 0, s => some ([], s)
  | _ + 1, [] => none
  | n + 1, c :: s =>
    if c.utf8Size ≤ n + 1 then (splitAt? (n + 1 - c.utf8Size) s).map (prepend [c]) else none

theorem splitAt?_append (u v : List Char) : splitAt? (byteSize u) (u ++ v) = some (u, v) := by
  induction u with
  | nil => cases v <;> rfl
  | cons c u ih =>
    have hpos := c.utf8Size_pos
    obtain ⟨n, hn⟩ : ∃ n, byteSize (c :: u) = n + 1 := ⟨byteSize (c :: u) - 1, by
      rw [byteSize_cons]
      omega⟩
    have hrest : n + 1 - c.utf8Size = byteSize u := by
      rw [byteSize_cons] at hn
      omega
    rw [hn, List.cons_append, splitAt?, if_pos (by rw [← hn, byteSize_cons]; omega), hrest, ih]
    rfl

theorem eq_append_of_splitAt? (h : splitAt? n s = some (u, v)) : s = u ++ v ∧ byteSize u = n := by
  fun_induction splitAt? n s generalizing u with
  | case1 =>
    cases h
    exact ⟨rfl, rfl⟩
  | case2 => cases h
  | case3 n c s hle ih =>
    obtain ⟨⟨u', v'⟩, hsplit, e⟩ := Option.map_eq_some_iff.1 h
    cases e
    obtain ⟨rfl, hn⟩ := ih hsplit
    refine ⟨rfl, ?_⟩
    show c.utf8Size + byteSize u' = n + 1
    omega
  | case4 => cases h

theorem splitAt?_eq_some_iff : splitAt? n s = some (u, v) ↔ s = u ++ v ∧ byteSize u = n := by
  constructor
  · exact eq_append_of_splitAt?
  · rintro ⟨rfl, rfl⟩
    exact splitAt?_append u v

/-- The text from byte `i` up to byte `j`; `none` if one of them is outside the text or inside a
    character, or `j` is before `i`. -/
def slice? (s : List Char) (i j : Nat) : Option (List Char) :=
  if i ≤ j then do
    let p ← splitAt? i s
    let q ← splitAt? (j - i) p.2
    return q.1
  else none

theorem slice?_eq_some_iff :
    slice? s i j = some m ↔ ∃ u v, s = u ++ (m ++ v) ∧ byteSize u = i ∧ i + byteSize m = j := by
  unfold slice?
  constructor
  · intro h
    split at h
    · rename_i hle
      simp only [Option.bind_eq_bind, Option.bind_eq_some_iff, Option.pure_def,
        Option.some.injEq] at h
      obtain ⟨⟨u, t⟩, hu, ⟨m', v⟩, hm, rfl⟩ := h
      obtain ⟨rfl, hi⟩ := splitAt?_eq_some_iff.1 hu
      obtain ⟨rfl, hj⟩ := splitAt?_eq_some_iff.1 hm
      have hm' : i + byteSize m' = j := by omega
      exact ⟨u, v, rfl, hi, hm'⟩
    · cases h
  · rintro ⟨u, v, rfl, rfl, rfl⟩
    have hu : splitAt? (byteSize u) (u ++ (m ++ v)) = some (u, m ++ v) :=
      splitAt?_eq_some_iff.2 ⟨rfl, rfl⟩
    have hm : splitAt? (byteSize u + byteSize m - byteSize u) (m ++ v) = some (m, v) :=
      splitAt?_eq_some_iff.2 ⟨rfl, by omega⟩
    rw [if_pos (Nat.le_add_right _ _), hu, Option.bind_eq_bind, Option.bind_some, hm]
    rfl

/-- What stands between two other texts is cut where it stands. -/
theorem slice?_append (u m v : List Char) :
    slice? (u ++ (m ++ v)) (byteSize u) (byteSize u + byteSize m) = some m :=
  slice?_eq_some_iff.2 ⟨u, v, rfl, rfl, rfl⟩

/-- What stands at the start is cut from byte 0 on. -/
theorem slice?_zero (u v : List Char) : slice? (u ++ v) 0 (byteSize u) = some u :=
  slice?_eq_some_iff.2 ⟨[], v, rfl, rfl, Nat.zero_add _⟩

/-- What stands at the end is cut up to the last byte. -/
theorem slice?_append_end (u m : List Char) :
    slice? (u ++ m) (byteSize u) (byteSize (u ++ m)) = some m := by
  have h := slice?_append u m []
  rwa [List.append_nil, ← byteSize_append] at h

/-- **A text can be cut at the positions of its characters**, and at no other bytes. -/
theorem isSome_splitAt?_iff (t : String) :
    (splitAt? n t.toList).isSome ↔ (⟨n⟩ : String.Pos.Raw).IsValid t := by
  rw [String.Pos.Raw.isValid_iff_exists_append, Option.isSome_iff_exists]
  constructor
  · rintro ⟨⟨u, v⟩, h⟩
    obtain ⟨e, hn⟩ := splitAt?_eq_some_iff.1 h
    refine ⟨String.ofList u, String.ofList v, String.toList_injective (by simp [e]), ?_⟩
    rw [String.Pos.Raw.ext_iff, String.byteIdx_rawEndPos, ← byteSize_toList,
      String.toList_ofList, hn]
  · rintro ⟨a, b, rfl, hn⟩
    have hn' := congrArg String.Pos.Raw.byteIdx hn
    rw [String.byteIdx_rawEndPos] at hn'
    refine ⟨(a.toList, b.toList), splitAt?_eq_some_iff.2 ⟨String.toList_append, ?_⟩⟩
    rw [byteSize_toList]
    exact hn'.symm

theorem eq_nil_of_byteSize (h : byteSize s = 0) : s = [] := by
  cases s with
  | nil => rfl
  | cons c s =>
    have hc := c.utf8Size_pos
    rw [byteSize_cons] at h
    omega

/-- **A slice can be taken exactly where** both ends are positions of characters, in order. -/
theorem isSome_slice?_iff (t : String) :
    (slice? t.toList i j).isSome ↔
      i ≤ j ∧ (⟨i⟩ : String.Pos.Raw).IsValid t ∧ (⟨j⟩ : String.Pos.Raw).IsValid t := by
  rw [← isSome_splitAt?_iff, ← isSome_splitAt?_iff, Option.isSome_iff_exists,
    Option.isSome_iff_exists, Option.isSome_iff_exists]
  constructor
  · rintro ⟨m, h⟩
    obtain ⟨u, v, e, rfl, rfl⟩ := slice?_eq_some_iff.1 h
    refine ⟨Nat.le_add_right _ _, ⟨(u, m ++ v), splitAt?_eq_some_iff.2 ⟨e, rfl⟩⟩,
      ⟨(u ++ m, v), splitAt?_eq_some_iff.2 ⟨?_, byteSize_append u m⟩⟩⟩
    rw [e, List.append_assoc]
  · rintro ⟨hle, ⟨⟨a, b⟩, ha⟩, ⟨c, d⟩, hc⟩
    obtain ⟨e, rfl⟩ := splitAt?_eq_some_iff.1 ha
    obtain ⟨e', rfl⟩ := splitAt?_eq_some_iff.1 hc
    rcases List.append_eq_append_iff.1 (e.symm.trans e') with ⟨m, rfl, rfl⟩ | ⟨m, rfl, rfl⟩
    · exact ⟨m, slice?_eq_some_iff.2 ⟨a, _, e, rfl, (byteSize_append a m).symm⟩⟩
    · -- the end is not before the start, so nothing is between them
      rw [byteSize_append] at hle
      have hm : m = [] := eq_nil_of_byteSize (by omega)
      subst hm
      refine ⟨[], slice?_eq_some_iff.2 ⟨c, _, e', ?_, ?_⟩⟩ <;> simp

/-! ## 2. Tokens in their text -/

variable {t : Token} {ts us vs : List Token} {l : Lexeme} {ls : List Lexeme}

/-- **Tokens stand in a text** whose first byte is `n`: each after its gap, at the byte it says. -/
inductive Laid : Nat → List Char → List Token → Prop where
  | nil (n : Nat) (s : List Char) : Laid n s []
  | cons {n : Nat} {s : List Char} {t : Token} {ts : List Token}
      (hstart : t.start = n + byteSize t.gap) (h : Laid t.stop s ts) :
      Laid n (t.gap ++ (t.text ++ s)) (t :: ts)

theorem laid_cons_iff :
    Laid n s (t :: ts) ↔
      ∃ v, s = t.gap ++ (t.text ++ v) ∧ t.start = n + byteSize t.gap ∧ Laid t.stop v ts := by
  constructor
  · intro h
    cases h with
    | cons hstart h => exact ⟨_, rfl, hstart, h⟩
  · rintro ⟨v, rfl, hstart, h⟩
    exact .cons hstart h

theorem laid_tokensFrom (ls : List Lexeme) (n : Nat) (gap : List Char) :
    Laid n (gap ++ joined ls) (tokensFrom (n + byteSize gap) gap ls) := by
  induction ls generalizing n gap with
  | nil => exact .nil _ _
  | cons l ls ih =>
    obtain ⟨kind, text⟩ := l
    -- a blank or a comment makes the gap longer
    have hgap := ih n (gap ++ text)
    rw [byteSize_append, ← Nat.add_assoc, List.append_assoc] at hgap
    cases kind with
    | token kind =>
      exact laid_cons_iff.2 ⟨joined ls, rfl, rfl, ih (n + byteSize gap + byteSize text) []⟩
    | blank => exact hgap
    | lineComment => exact hgap
    | blockComment => exact hgap

/-- Later tokens stand in what is left of the text. -/
theorem Laid.drop (h : Laid n s (ts ++ us)) :
    ∃ u v, s = u ++ v ∧ Laid (n + byteSize u) v us := by
  induction ts generalizing n s with
  | nil => exact ⟨[], s, rfl, h⟩
  | cons t ts ih =>
    obtain ⟨r, rfl, hstart, h⟩ := laid_cons_iff.1 h
    obtain ⟨u, v, rfl, hlaid⟩ := ih h
    refine ⟨t.gap ++ (t.text ++ u), v, by simp, ?_⟩
    rw [Token.stop, hstart] at hlaid
    simpa [Nat.add_assoc] using hlaid

theorem Token.span_cons_cons (t u : Token) (ts : List Token) :
    Token.span (t :: u :: ts) = t.text ++ (u.gap ++ Token.span (u :: ts)) := by
  simp [Token.span]

/-- The first of some tokens and those after it fill the text from the first to the last. -/
theorem Laid.span (h : Laid n s (t :: (us ++ vs))) :
    ∃ v, s = t.gap ++ (Token.span (t :: us) ++ v) ∧
      ∀ u ∈ (t :: us).getLast?, u.stop = t.start + byteSize (Token.span (t :: us)) := by
  induction us generalizing n s t with
  | nil =>
    obtain ⟨r, rfl, -, -⟩ := laid_cons_iff.1 h
    refine ⟨r, by simp [Token.span], fun u hu => ?_⟩
    cases hu
    simp [Token.span, Token.stop]
  | cons u us ih =>
    obtain ⟨r, rfl, -, h⟩ := laid_cons_iff.1 h
    obtain ⟨-, -, hstart, -⟩ := laid_cons_iff.1 h
    obtain ⟨v, rfl, hlast⟩ := ih h
    refine ⟨v, by simp [Token.span_cons_cons], fun x hx => ?_⟩
    rw [List.getLast?_cons_cons] at hx
    rw [hlast x hx, hstart, Token.stop, Token.span_cons_cons, byteSize_append, byteSize_append]
    omega

/-- **The bytes of tokens cut a text**: those from one token to a later one cut what is between
    them. -/
def Sliced (s : List Char) (ts : List Token) : Prop :=
  ∀ us, us <:+: ts → ∀ t ∈ us.head?, ∀ u ∈ us.getLast?,
    slice? s t.start u.stop = some (Token.span us)

theorem Laid.sliced (h : Laid 0 s ts) : Sliced s ts := by
  rintro us ⟨as, bs, rfl⟩ t ht u hu
  cases us with
  | nil => cases ht
  | cons t' us =>
    cases ht
    rw [List.append_assoc] at h
    obtain ⟨p, r, rfl, hlaid⟩ := h.drop
    obtain ⟨v, rfl, hlast⟩ := hlaid.span
    obtain ⟨_, -, hstart, -⟩ := laid_cons_iff.1 hlaid
    rw [hlast u hu, hstart, Nat.zero_add, ← byteSize_append, ← List.append_assoc p]
    exact slice?_append _ _ _

/-- **The tokens of a text cut it.** -/
theorem sliced_tokens (h : lexemes s = .ok ls) : Sliced s (tokens ls) := by
  have hlaid := laid_tokensFrom ls 0 []
  rw [List.nil_append, joined_lexemes h] at hlaid
  exact hlaid.sliced

/-- A token cuts its own text. -/
theorem Sliced.text (h : Sliced s ts) (ht : t ∈ ts) : slice? s t.start t.stop = some t.text := by
  obtain ⟨as, bs, rfl⟩ := List.append_of_mem ht
  have hspan := h [t] ⟨as, bs, by simp⟩ t rfl t rfl
  rwa [Token.span, List.flatMap_nil, List.append_nil] at hspan

/-- Tokens stand one after the other. -/
theorem Laid.increasing (h : Laid n s ts) :
    (∀ t ∈ ts, n ≤ t.start) ∧ ts.Pairwise fun t u => t.stop ≤ u.start := by
  induction h with
  | nil n s => exact ⟨nofun, .nil⟩
  | @cons n s t ts hstart h ih =>
    obtain ⟨hle, hpair⟩ := ih
    refine ⟨fun u hu => ?_, .cons hle hpair⟩
    rcases List.mem_cons.1 hu with rfl | hu
    · omega
    · have hu' := hle u hu
      rw [Token.stop] at hu'
      omega

/-! ## 3. Texts in the place of placeholders -/

/-- The text from byte `last` on with texts in the place of the bytes at some offsets. -/
def renderAt? (s : List Char) : Nat → List (Nat × List Char) → Option (List Char)
  | last, [] => slice? s last (byteSize s)
  | last, (offset, text) :: ps => do
    let before ← slice? s last offset
    let after ← renderAt? s (offset + 1) ps
    return before ++ (text ++ after)

/-- The placeholders among lexemes that start at byte `start`. -/
def marksFrom (start : Nat) : List Lexeme → List Nat
  | [] => []
  | l :: ls =>
    if l.kind = .token .placeholder then start :: marksFrom (start + byteSize l.text) ls
    else marksFrom (start + byteSize l.text) ls

theorem marksFrom_eq (start : Nat) (gap : List Char) (ls : List Lexeme) :
    ((tokensFrom start gap ls).filter (·.kind == .placeholder)).map Token.start =
      marksFrom start ls := by
  induction ls generalizing start gap with
  | nil => rfl
  | cons l ls ih =>
    obtain ⟨kind, text⟩ := l
    cases kind with
    | token kind =>
      by_cases hk : kind = .placeholder
      · subst hk
        rw [tokensFrom_token, List.filter_cons_of_pos (by rfl), List.map_cons, ih, marksFrom,
          if_pos rfl]
      · rw [tokensFrom_token, List.filter_cons_of_neg (by simpa using hk), ih, marksFrom,
          if_neg (by simpa using hk)]
    | blank => exact ih _ _
    | lineComment => exact ih _ _
    | blockComment => exact ih _ _

theorem substitute_cons_of_ne (hk : l.kind ≠ .token .placeholder) (texts : List (List Char)) :
    Query.substitute (l :: ls) texts = l.text ++ Query.substitute ls texts := by
  rw [Query.substitute]
  rintro _ _ _ - rfl
  exact hk rfl

/-- **A text cut at its placeholders is the text with texts in their place.** What was cut before is
    `u`, what was passed since is `m`. -/
theorem renderAt?_eq {start : Nat} {texts : List (List Char)}
    (hmark : ∀ l ∈ ls, l.kind = .token .placeholder → l.text = ['?']) (u m : List Char)
    (hstart : start = byteSize u + byteSize m)
    (hlen : texts.length = (marksFrom start ls).length) :
    renderAt? (u ++ (m ++ joined ls)) (byteSize u) ((marksFrom start ls).zip texts) =
      some (m ++ Query.substitute ls texts) := by
  induction ls generalizing start u m texts with
  | nil =>
    rw [marksFrom, List.zip_nil_left, renderAt?, joined_nil, List.append_nil, slice?_append_end]
    simp [Query.substitute]
  | cons l ls ih =>
    obtain ⟨hl, hmarks⟩ := List.forall_mem_cons.1 hmark
    by_cases hk : l.kind = .token .placeholder
    · obtain ⟨kind, text⟩ := l
      cases hk
      cases hl rfl
      rw [marksFrom, if_pos rfl, List.length_cons] at hlen
      obtain ⟨t, texts, rfl⟩ := List.exists_cons_of_length_eq_add_one hlen
      have hbefore := slice?_append u m (joined (⟨.token .placeholder, ['?']⟩ :: ls))
      have hnext : byteSize (u ++ (m ++ ['?'])) = start + 1 := by
        rw [byteSize_append, byteSize_append, hstart, ← Nat.add_assoc]
        rfl
      have hafter := ih hmarks (u ++ (m ++ ['?'])) [] (hnext.symm) (Nat.succ.inj hlen)
      simp only [hnext, List.append_assoc, List.nil_append] at hafter
      rw [marksFrom, if_pos rfl, List.zip_cons_cons, renderAt?, hstart, hbefore, ← hstart]
      exact congrArg (·.bind fun after => some (m ++ (t ++ after))) hafter
    · rw [marksFrom, if_neg hk] at hlen ⊢
      have hstep := ih hmarks u (m ++ l.text)
        (by rw [hstart, byteSize_append, Nat.add_assoc]) hlen
      rw [joined_cons, ← List.append_assoc m, hstep, substitute_cons_of_ne hk, List.append_assoc]

end StatelessSession.Sql
