import StatelessSession.Proofs.Session.Prepared
import StatelessSession.Proofs.Sql.Binding
import StatelessSession.Proofs.Sql.Decision

/-!
# Texts without a statement

A text that is made only of white space and complete comments says nothing. Whether a text is empty
is asked of Unicode, and what stands between tokens is asked of the scanner, which knows five blanks
only. So all other white space is read as tokens: the vertical tab as a symbol, what is beyond ASCII
as words.

* `Vacant` -- a text of blanks, in one sense or the other, and complete comments;
  `vacant_counted_iff` -- whether they are counted makes no difference in less than 8 GiB.
* `isForeignBlank` -- the blanks that the scanner does not know.
* `Vacant.read` -- what is read of such a text are blanks, comments and foreign blanks.
* `tokens_eq_nil_iff` -- a text has no token if and only if it is comments and blanks of SQL.
* **`parse_vacant`** -- which of these texts are refused, how, and what becomes of the others.
* `parse_vacant_verticalTab` -- one of the others.

NOT here: what else can be wrong with a text (`Scanner`).
-/

namespace StatelessSession.Sql

variable {p : Char → Bool} {c : Char} {r s : List Char} {l : Lexeme} {ls : List Lexeme}

/-! ## 1. Texts of blanks and comments -/

/-- **A text of blanks and complete comments**, in any order. A line comment is complete at a line
    feed and at the end of the text, a block comment where `Body` says so. -/
inductive Vacant (Body : List UInt8 → Prop) (p : Char → Bool) : List Char → Prop where
  | nil : Vacant Body p []
  | blank {c : Char} {s : List Char} (hc : p c = true) (hs : Vacant Body p s) :
      Vacant Body p (c :: s)
  | comment {k : LexemeKind} {u s : List Char} (hk : k = .lineComment ∨ k = .blockComment)
      (hu : IsLexeme Body k (utf8 u) (utf8 s)) (hs : Vacant Body p s) : Vacant Body p (u ++ s)

theorem Vacant.imp {Body Body' : List UInt8 → Prop} (h : Vacant Body p s)
    (hbody : ∀ k u v, u.length ≤ byteSize s → IsLexeme Body k u v → IsLexeme Body' k u v) :
    Vacant Body' p s := by
  induction h with
  | nil => exact .nil
  | @blank c s hc hs ih =>
    refine .blank hc (ih fun k u v hle => hbody k u v (Nat.le_trans hle ?_))
    rw [byteSize_cons]
    exact Nat.le_add_left _ _
  | @comment k u s hk hu hs ih =>
    have hsize := byteSize_append u s
    refine .comment hk (hbody k _ _ ?_ hu) (ih fun k' u' v' hle => hbody k' u' v' (by omega))
    rw [length_utf8]
    omega

/-- **In a text of less than 8 GiB** comments are those that nest. -/
theorem vacant_counted_iff (hsize : byteSize s < 2 ^ 33) :
    Vacant CommentBody p s ↔ Vacant Counted p s := by
  constructor
  · exact fun h => h.imp fun k u v hu => (isLexeme_counted_iff (Nat.lt_of_le_of_lt hu hsize)).1
  · exact fun h => h.imp fun k u v hu => (isLexeme_counted_iff (Nat.lt_of_le_of_lt hu hsize)).2

/-- White space that is no blank to the scanner. -/
def isForeignBlank (c : Char) : Bool := Text.isBlank c && !isSqlBlank c

theorem isBlank_of_isSqlBlank (h : isSqlBlank c = true) : Text.isBlank c = true := by
  simp only [isSqlBlank, Bool.or_eq_true, decide_eq_true_eq] at h
  rcases h with (((rfl | rfl) | rfl) | rfl) | rfl
  all_goals decide

theorem isWordChar_of_isSqlBlank (h : isSqlBlank c = true) : isWordChar c = false := by
  simp only [isSqlBlank, Bool.or_eq_true, decide_eq_true_eq] at h
  rcases h with (((rfl | rfl) | rfl) | rfl) | rfl
  all_goals decide

/-- Of ASCII only the vertical tab is a foreign blank. -/
theorem isForeignBlank_cases (h : isForeignBlank c = true) : c = '\x0b' ∨ 0x80 ≤ c.toNat := by
  by_cases hc : c.toNat < 0x80
  · have hascii : ∀ n < 0x80, isForeignBlank (Char.ofNat n) = true → Char.ofNat n = '\x0b' := by
      decide
    rw [← Char.ofNat_toNat c] at h ⊢
    exact .inl (hascii _ hc h)
  · exact .inr (Nat.le_of_not_lt hc)

/-! ## 2. What is read of them -/

theorem not_wordChar_of_comment {k : LexemeKind} {u : List Char} {v : List UInt8}
    (hk : k = .lineComment ∨ k = .blockComment) (hu : IsLexeme Counted k (utf8 u) v) :
    ∃ c u', u = c :: u' ∧ isWordChar c = false := by
  cases u with
  | nil => exact absurd rfl hu.ne_nil
  | cons c u' =>
    refine ⟨c, u', rfl, Bool.eq_false_iff.2 fun hc => ?_⟩
    rw [utf8_cons] at hu
    have hb : ∃ b bs, String.utf8EncodeChar c = b :: bs ∧ isWordByte b = true := by
      rcases utf8_char c with ⟨hn, he⟩ | ⟨-, hne, hhigh⟩
      · exact ⟨_, _, he, (isWordByte_toUInt8 hn).trans hc⟩
      · obtain ⟨b, bs, he⟩ := List.exists_cons_of_ne_nil hne
        exact ⟨b, bs, he, isWordByte_of_high (hhigh b (he ▸ List.mem_cons_self))⟩
    obtain ⟨b, bs, he, hb⟩ := hb
    rw [he, List.cons_append] at hu
    have hword := hu.kind_eq
    rw [kindAt_word hb] at hword
    rcases hk with rfl | rfl <;> cases hword

/-- A word in such a text is a run of blanks. -/
theorem Vacant.word (hp : ∀ c, p c = true → Text.isBlank c = true) (h : Vacant Counted p s) :
    Vacant Counted p (s.dropWhile isWordChar) ∧
      ∀ c ∈ s.takeWhile isWordChar, p c = true ∧ isForeignBlank c = true := by
  induction h with
  | nil => exact ⟨.nil, nofun⟩
  | @blank c s hc hs ih =>
    by_cases hw : isWordChar c = true
    · rw [List.dropWhile_cons_of_pos hw, List.takeWhile_cons_of_pos hw]
      refine ⟨ih.1, List.forall_mem_cons.2 ⟨⟨hc, ?_⟩, ih.2⟩⟩
      have hsql : isSqlBlank c = false := Bool.eq_false_iff.2 fun hsql => by
        rw [isWordChar_of_isSqlBlank hsql] at hw
        cases hw
      rw [isForeignBlank, hp c hc, hsql]
      rfl
    · rw [List.dropWhile_cons_of_neg hw, List.takeWhile_cons_of_neg hw]
      exact ⟨.blank hc hs, nofun⟩
  | comment hk hu hs ih =>
    have hwhole := Vacant.comment hk hu hs
    obtain ⟨c, u', rfl, hw⟩ := not_wordChar_of_comment hk hu
    have hw : ¬ isWordChar c = true := Bool.eq_false_iff.1 hw
    rw [List.cons_append, List.dropWhile_cons_of_neg hw, List.takeWhile_cons_of_neg hw]
    exact ⟨hwhole, nofun⟩

/-- A lexeme that is no token, or is made of foreign blanks. -/
def Lexeme.Idle (p : Char → Bool) (l : Lexeme) : Prop :=
  ∀ kind, l.kind = .token kind →
    kind ≠ .placeholder ∧ l.text ≠ [] ∧ ∀ c ∈ l.text, p c = true ∧ isForeignBlank c = true

/-- A foreign blank is a symbol, or the first of a word. -/
theorem nextLexeme_of_isForeignBlank (h : isForeignBlank c = true) (r : List Char) :
    nextLexeme c r = .ok (⟨.token (.symbol c), [c]⟩, r) ∨
      nextLexeme c r =
        .ok (⟨.token .word, c :: r.takeWhile isWordChar⟩, r.dropWhile isWordChar) := by
  rcases isForeignBlank_cases h with rfl | hn
  · exact .inl rfl
  · exact .inr (nextLexeme_of_high hn r)

/-- **Such a text begins with an idle lexeme**, and what follows is such a text. -/
theorem Vacant.next (hp : ∀ c, p c = true → Text.isBlank c = true) (h : Vacant Counted p (c :: r)) :
    ∃ l rest, nextLexeme c r = .ok (l, rest) ∧ Vacant Counted p rest ∧ l.Idle p := by
  generalize ht : c :: r = t at h
  cases h with
  | nil => cases ht
  | blank hc hs =>
    cases ht
    cases hsql : isSqlBlank c with
    | true => exact ⟨⟨.blank, [c]⟩, r, if_pos hsql, hs, nofun⟩
    | false =>
      have hforeign : isForeignBlank c = true := by
        rw [isForeignBlank, hp c hc, hsql]
        rfl
      rcases nextLexeme_of_isForeignBlank hforeign r with hn | hn
      · refine ⟨_, _, hn, hs, fun kind hk => ?_⟩
        cases hk
        exact ⟨nofun, List.cons_ne_nil _ _, List.forall_mem_singleton.2 ⟨hc, hforeign⟩⟩
      · refine ⟨_, _, hn, (hs.word hp).1, fun kind hk => ?_⟩
        cases hk
        exact ⟨nofun, List.cons_ne_nil _ _, List.forall_mem_cons.2 ⟨⟨hc, hforeign⟩, (hs.word hp).2⟩⟩
  | @comment k u s hk hu hs =>
    have hbegins : Begins Counted k (utf8 (c :: r)) (utf8 s) := ⟨_, hu, by rw [ht, utf8_append]⟩
    obtain ⟨l, rest, hn, rfl, hrest⟩ := (begins_iff c r).1 hbegins
    refine ⟨l, rest, hn, utf8_injective hrest ▸ hs, fun kind hkind => ?_⟩
    rcases hk with hk | hk
    · cases hk.symm.trans hkind
    · cases hk.symm.trans hkind

/-- **All that is read of such a text is idle**, and nothing in it is never closed. -/
theorem Vacant.read (hp : ∀ c, p c = true → Text.isBlank c = true) (h : Vacant Counted p s)
    (start : Nat) : ∃ ls, lexemesFrom start s = .ok ls ∧ ∀ l ∈ ls, l.Idle p := by
  fun_induction lexemesFrom start s with
  | case1 => exact ⟨[], rfl, List.forall_mem_nil _⟩
  | case2 start c r what hn =>
    obtain ⟨l, rest, hn', -⟩ := h.next hp
    cases hn.symm.trans hn'
  | case3 start c r l rest hn ih =>
    obtain ⟨l', rest', hn', hrest, hl⟩ := h.next hp
    cases hn.symm.trans hn'
    obtain ⟨ls, hls, hall⟩ := ih hrest
    exact ⟨l :: ls, by rw [hls]; rfl, List.forall_mem_cons.2 ⟨hl, hall⟩⟩

/-- What is read as a blank is one blank of SQL. -/
theorem isSqlBlank_of_kind {rest : List Char} (hn : nextLexeme c r = .ok (l, rest))
    (hk : l.kind = .blank) : isSqlBlank c = true ∧ rest = r := by
  rcases utf8_char c with ⟨hlow, -⟩ | ⟨hhigh, -⟩
  · obtain ⟨u, hu, e⟩ := (begins_iff c r).2 ⟨l, rest, hn, hk.symm, rfl⟩
    cases hu with
    | @blank b _ hb =>
      rw [utf8_ascii_cons hlow, List.singleton_append, List.cons.injEq] at e
      have hc : isSqlBlank c = true := by
        rw [← isBlankByte_toUInt8 hlow, e.1]
        exact hb
      rw [nextLexeme, if_pos hc] at hn
      cases hn
      exact ⟨hc, rfl⟩
  · rw [nextLexeme_of_high hhigh] at hn
    cases hn
    cases hk

theorem Vacant.blanks {u : List Char} (hu : ∀ c ∈ u, p c = true) (h : Vacant Counted p s) :
    Vacant Counted p (u ++ s) := by
  induction u with
  | nil => exact h
  | cons c u ih =>
    obtain ⟨hc, hu⟩ := List.forall_mem_cons.1 hu
    exact .blank hc (ih hu)

/-- A text is made of comments and of the blanks of SQL and of its tokens. -/
theorem vacant_of_lexemesFrom {start : Nat} (h : lexemesFrom start s = .ok ls)
    (hp : ∀ c, isSqlBlank c = true → p c = true)
    (htokens : ∀ l ∈ ls, ∀ kind, l.kind = .token kind → ∀ c ∈ l.text, p c = true) :
    Vacant Counted p s := by
  fun_induction lexemesFrom start s generalizing ls with
  | case1 => exact .nil
  | case2 => cases h
  | case3 start c r l rest hn ih =>
    obtain ⟨ms, hms, rfl⟩ := map_eq_ok_iff.1 h
    obtain ⟨hl, htokens⟩ := List.forall_mem_cons.1 htokens
    have hrest := ih hms htokens
    have hcomment : l.kind = .lineComment ∨ l.kind = .blockComment → Vacant Counted p (c :: r) := by
      intro hk
      rw [← nextLexeme_append hn]
      exact .comment hk ((isLexeme_iff hn).2 ⟨rfl, rfl⟩).1 hrest
    cases hk : l.kind with
    | blank =>
      obtain ⟨hc, rfl⟩ := isSqlBlank_of_kind hn hk
      exact .blank (hp c hc) hrest
    | lineComment => exact hcomment (.inl hk)
    | blockComment => exact hcomment (.inr hk)
    | token kind =>
      rw [← nextLexeme_append hn]
      exact hrest.blanks (hl kind hk)

/-- **No token is read if and only if** there is nothing but blanks of SQL and comments. -/
theorem tokens_eq_nil_iff (h : lexemes s = .ok ls) :
    tokens ls = [] ↔ Vacant Counted isSqlBlank s := by
  have hcontent : tokens ls = [] ↔ ∀ l ∈ ls, l.content? = none := by
    rw [← List.map_eq_nil_iff (f := Token.content), tokens, content_tokensFrom,
      List.filterMap_eq_nil_iff]
  rw [hcontent]
  constructor
  · refine fun hno => vacant_of_lexemesFrom h (fun _ hc => hc) fun l hl kind hk => ?_
    have hnone := hno l hl
    rw [Lexeme.content?, hk] at hnone
    cases hnone
  · intro hv l hl
    obtain ⟨ls', hls, hidle⟩ := hv.read (p := isSqlBlank) (fun _ hc => isBlank_of_isSqlBlank hc) 0
    cases h.symm.trans hls
    cases hk : l.kind with
    | token kind =>
      -- its characters would be blanks of SQL and foreign
      obtain ⟨-, hne, hall⟩ := hidle l hl kind hk
      obtain ⟨c, cs, hc⟩ := List.exists_cons_of_ne_nil hne
      obtain ⟨hsql, hforeign⟩ := hall c (hc ▸ List.mem_cons_self)
      rw [isForeignBlank, hsql, Bool.not_true, Bool.and_false] at hforeign
      cases hforeign
    | _ => rw [Lexeme.content?, hk]

/-! ## 3. What becomes of them -/

section Parse

variable {s : String}

theorem parse_of_lexemes (h : lexemes s.toList = .ok ls) :
    Query.parse s = if Text.isBlankText s then .error .empty
      else if (tokens ls).isEmpty then .error .noStatement else .ok ⟨ls⟩ := by
  rw [Query.parse, h]

/-- A text that is read as lexemes is refused if it is all white space or has no token. -/
theorem parse_eq_error_iff (h : lexemes s.toList = .ok ls) {f : Fault} :
    Query.parse s = .error f ↔ (f = .empty ∧ ∀ c ∈ s.toList, Text.isBlank c = true) ∨
      f = .noStatement ∧ (∃ c ∈ s.toList, Text.isBlank c = false) ∧
        Vacant Counted isSqlBlank s.toList := by
  have hblank : Text.isBlankText s = true ↔ ∀ c ∈ s.toList, Text.isBlank c = true :=
    List.all_eq_true
  have hempty : (tokens ls).isEmpty = true ↔ Vacant Counted isSqlBlank s.toList := by
    rw [List.isEmpty_iff]
    exact tokens_eq_nil_iff h
  rw [parse_of_lexemes h]
  cases hb : Text.isBlankText s with
  | true =>
    have hall := hblank.1 hb
    constructor
    · intro e
      cases e
      exact .inl ⟨rfl, hall⟩
    · rintro (⟨rfl, -⟩ | ⟨-, ⟨c, hc, hnot⟩, -⟩)
      · rfl
      · rw [hall c hc] at hnot
        cases hnot
  | false =>
    rw [← hblank, hb, ← hempty]
    have hsome : ∃ c ∈ s.toList, Text.isBlank c = false := by simpa [Text.isBlankText] using hb
    cases (tokens ls).isEmpty with
    | true =>
      constructor
      · intro e
        cases e
        exact .inr ⟨rfl, hsome, rfl⟩
      · rintro (⟨-, e⟩ | ⟨rfl, -, -⟩)
        · cases e
        · rfl
    | false =>
      refine iff_of_false nofun ?_
      rintro (⟨-, e⟩ | ⟨-, -, e⟩)
      · cases e
      · cases e

theorem tokens_ne_nil_of_parse (h : lexemes s.toList = .ok ls) {q : Query}
    (hq : Query.parse s = .ok q) : q = ⟨ls⟩ ∧ tokens ls ≠ [] := by
  rw [parse_of_lexemes h] at hq
  split at hq
  · cases hq
  split at hq
  · cases hq
  · rename_i he
    cases hq
    exact ⟨rfl, fun e => he (List.isEmpty_iff.2 e)⟩

end Parse

/-- Beyond ASCII there are no cases. -/
theorem toLower_of_high (hn : 0x80 ≤ c.toNat) : c.toLower = c := by
  have hn : 0x80 ≤ c.val.toNat := hn
  have hupper : ¬ ('A'.val ≤ c.val ∧ c.val ≤ 'Z'.val) := fun h => by
    have hle := UInt32.le_iff_toNat_le.1 h.2
    exact Nat.not_le_of_lt hn (Nat.le_trans hle (by decide))
  exact dif_neg hupper

/-- Foreign blanks are no letters, in either case. -/
theorem toLower_of_isForeignBlank (h : isForeignBlank c = true) : c.toLower = c := by
  rcases isForeignBlank_cases h with rfl | hn
  · rfl
  · exact toLower_of_high hn

/-- So they are no keyword. -/
theorem not_isKeyword_of_isForeignBlank {t : Token} (ht : ∀ c ∈ t.text, isForeignBlank c = true) :
    t.isKeyword "insert" = false := by
  refine Bool.eq_false_iff.2 fun h => ?_
  rw [Token.isKeyword, Bool.and_eq_true, beq_iff_eq, beq_iff_eq] at h
  cases htext : t.text with
  | nil =>
    rw [htext] at h
    cases h.2
  | cons c cs =>
    have hc := ht c (htext ▸ List.mem_cons_self)
    rw [htext, List.map_cons, toLower_of_isForeignBlank hc] at h
    cases (List.cons.inj h.2).1
    cases hc

/-- **What becomes of a text of white space and complete comments.** -/
structure Wasted (s : String) : Prop where
  /-- It is refused as empty if it is all white space, and for want of a statement if it has
      comments and, besides them, only what the scanner takes for blanks. -/
  fault : ∀ f, Query.parse s = .error f ↔
    (f = .empty ∧ ∀ c ∈ s.toList, Text.isBlank c = true) ∨
      f = .noStatement ∧ (∃ c ∈ s.toList, Text.isBlank c = false) ∧
        Vacant Counted isSqlBlank s.toList
  /-- In less than 8 GiB these comments are those that nest. -/
  nested : s.utf8ByteSize < 2 ^ 33 →
    (Vacant CommentBody isSqlBlank s.toList ↔ Vacant Counted isSqlBlank s.toList)
  /-- What is refused has no shape, and no open session prepares it. -/
  refused : ∀ f, Query.parse s = .error f → (SessionError.sql f).kind = .client ∧
    Shape.ofSql s = .error f ∧ ∀ (w : Workspace) i u, w.session? i = some u → u.closed = false →
      w.step (.onSession i (.act (.prepare s))) = ⟨.error (.session (.sql f)), w, []⟩
  /-- All others are queries, whose tokens are foreign blanks. -/
  accepted : ∀ q, Query.parse s = .ok q → q.tokens ≠ [] ∧
    (∀ t ∈ q.tokens, t.text ≠ [] ∧ ∀ c ∈ t.text, isForeignBlank c = true) ∧
    Shape.ofSql s = .ok (.parameterized q none) ∧
    ∀ (w : Workspace) i u, w.Housed → w.session? i = some u → u.closed = false →
      ∃ st, st.Fits s (.parameterized q none) ∧
        (w.step (.onSession i (.act (.prepare s)))).answer = .ok (.prepared w.statements.length st)

/-- **Not every text without a statement is refused**: one that is not all white space is refused if
    and only if the scanner takes all its blanks for blanks. Its comments are counted in 32 bits, or
    in less than 8 GiB they nest. -/
theorem parse_vacant {s : String} (h : Vacant Counted Text.isBlank s.toList ∨
    s.utf8ByteSize < 2 ^ 33 ∧ Vacant CommentBody Text.isBlank s.toList) : Wasted s := by
  have hsize (hs : s.utf8ByteSize < 2 ^ 33) : byteSize s.toList < 2 ^ 33 := by
    rwa [byteSize_toList]
  have hvacant : Vacant Counted Text.isBlank s.toList :=
    h.elim id fun ⟨hs, h⟩ => (vacant_counted_iff (hsize hs)).1 h
  obtain ⟨ls, hls, hidle⟩ := hvacant.read (fun _ hc => hc) 0
  have htokens : ∀ t ∈ tokens ls, t.kind ≠ .placeholder ∧ t.text ≠ [] ∧
      ∀ c ∈ t.text, isForeignBlank c = true := by
    intro t ht
    obtain ⟨hkind, hne, hall⟩ := hidle _ (mem_lexemes_of_mem_tokens ht) t.kind rfl
    exact ⟨hkind, hne, fun c hc => (hall c hc).2⟩
  refine ⟨fun f => parse_eq_error_iff hls, fun hs => vacant_counted_iff (hsize hs), fun f hf => ?_,
    fun q hq => ?_⟩
  · have hshape : Shape.ofSql s = .error f := by rw [Shape.ofSql, hf]
    exact ⟨rfl, hshape, fun w i u hu ho => Workspace.step_prepare_of_error hu ho hshape⟩
  · obtain ⟨rfl, hne⟩ := tokens_ne_nil_of_parse hls hq
    have hparameter : Query.hasParameter ⟨ls⟩ = false := by
      refine List.any_eq_false.2 fun t ht => ?_
      rw [beq_iff_eq]
      exact (htokens t ht).1
    have hinsert : ¬ Adjacent "insert" "into" (tokens ls) := by
      rintro ⟨u, t, t', v, e, ht, -⟩
      have hmem : t ∈ tokens ls := by
        rw [e]
        exact List.mem_append_right u List.mem_cons_self
      rw [not_isKeyword_of_isForeignBlank (htokens t hmem).2.2] at ht
      cases ht
    have hshape : Shape.ofSql s = .ok (.parameterized ⟨ls⟩ none) :=
      ofSql_of_decides hq (.noInsert hparameter hinsert)
    refine ⟨hne, fun t ht => (htokens t ht).2, hshape, fun w i u hw hu ho => ?_⟩
    obtain ⟨st, hfits, -, -, hanswer, -⟩ := Workspace.step_prepare_of_ok hw hu ho hshape
    exact ⟨st, hfits, hanswer⟩

/-- **A comment after a vertical tab** is a query, though it has neither a word nor a sign. -/
theorem parse_vacant_verticalTab :
    "\x0b-- c".utf8ByteSize < 2 ^ 33 ∧ Vacant CommentBody Text.isBlank "\x0b-- c".toList ∧
      Wasted "\x0b-- c" ∧
      Query.parse "\x0b-- c" =
        .ok ⟨[⟨.token (.symbol '\x0b'), ['\x0b']⟩, ⟨.lineComment, ['-', '-', ' ', 'c']⟩]⟩ := by
  have hsize : "\x0b-- c".utf8ByteSize < 2 ^ 33 := by decide
  have hcomment : Vacant CommentBody Text.isBlank ("-- c".toList ++ []) :=
    .comment (.inl rfl) (.lastComment (u := utf8 " c".toList) (by decide)) .nil
  have hvacant : Vacant CommentBody Text.isBlank "\x0b-- c".toList := .blank (by decide) hcomment
  exact ⟨hsize, hvacant, parse_vacant (.inr ⟨hsize, hvacant⟩), by decide +kernel⟩

end StatelessSession.Sql
