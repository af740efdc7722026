import Mathlib.Algebra.Group.Nat.Defs
import StatelessSession.Proofs.Sql.Grammar

/-!
# Comments that are counted

Block comments nest. The grammar says so by recursion, a reader counts the comments that it is in,
in 32 bits. A text has to be of 8 GiB for the two to differ: every comment takes two bytes to open.

* `closesCounted_opened`, `closesCounted_closed`, … -- the reader that counts, one mark at a time.
* `closesComment_opened`, `closesComment_closed`, … -- the grammar, one mark at a time.
* `ClosesComments` -- the comment that is open and as many around it are closed.
* **`closesComments_iff`** -- the grammar and the reader agree, as long as the number of comments is
  one of 32 bits.
* `begins_counted_iff`, `lexed_counted_iff`, `unterminated_counted_iff` -- so do they on lexemes.
-/

namespace StatelessSession.Sql

variable {Body : List UInt8 → Prop} {b : UInt8} {u v w : List UInt8} {depth : UInt32} {n : Nat}

/-! ## 1. What both have in common -/

theorem not_closes_short (hbody : ∀ u, Body u → 2 ≤ u.length) (hw : w.length < 2) :
    ¬ Closes Body w v := by
  intro h
  obtain ⟨u, hu, rfl⟩ := h
  have h := hbody u hu
  rw [List.length_append] at hw
  omega

theorem head?_append_of_two_le (h : 2 ≤ u.length) (v : List UInt8) : (u ++ v).head? = u.head? := by
  cases u with
  | nil => exact absurd h (by decide)
  | cons b u => rfl

/-- Whether a byte is one of a mark is settled by what comes next to it. -/
theorem opensBlock_append (h : 2 ≤ u.length) (v : List UInt8) :
    OpensBlock b (u ++ v) ↔ OpensBlock b u := by
  rw [OpensBlock, OpensBlock, head?_append_of_two_le h]

theorem closesBlock_append (h : 2 ≤ u.length) (v : List UInt8) :
    ClosesBlock b (u ++ v) ↔ ClosesBlock b u := by
  rw [ClosesBlock, ClosesBlock, head?_append_of_two_le h]

/-! ## 2. The reader that counts -/

/-- A comment is closed by two bytes at least. -/
theorem CountedBody.two_le_length (h : CountedBody depth u) : 2 ≤ u.length := by
  induction h with
  | last => exact Nat.le_refl 2
  | closed _ _ _ => exact Nat.le_add_left 2 _
  | opened _ _ => exact Nat.le_add_left 2 _
  | plain _ _ _ ih => exact Nat.le_succ_of_le ih

theorem not_closesCounted_short (hw : w.length < 2) : ¬ Closes (CountedBody depth) w v :=
  not_closes_short (fun _ h => h.two_le_length) hw

theorem closesCounted_opened :
    Closes (CountedBody depth) ('/'.toUInt8 :: '*'.toUInt8 :: w) v ↔
      Closes (CountedBody (depth + 1)) w v := by
  constructor
  · intro ⟨u, hu, e⟩
    cases hu with
    | last => cases e
    | closed hd hu => cases e
    | opened hu =>
      simp only [List.cons_append, List.cons.injEq, true_and] at e
      exact ⟨_, hu, e⟩
    | plain ho hc hu =>
      obtain ⟨rfl, he⟩ := List.cons.inj e
      exact absurd ((opensBlock_append hu.two_le_length v).1 ⟨rfl, congrArg List.head? he.symm⟩) ho
  · intro h
    obtain ⟨u, hu, rfl⟩ := h
    exact ⟨_, .opened hu, rfl⟩

/-- The mark that closes the last comment. -/
theorem closesCounted_last :
    Closes (CountedBody 1) ('*'.toUInt8 :: '/'.toUInt8 :: w) v ↔ v = w := by
  constructor
  · intro ⟨u, hu, e⟩
    cases hu with
    | last => exact (List.cons.inj (List.cons.inj e).2).2.symm
    | closed hd hu => exact absurd rfl hd
    | opened hu => cases e
    | plain ho hc hu =>
      obtain ⟨rfl, he⟩ := List.cons.inj e
      exact absurd ((closesBlock_append hu.two_le_length v).1 ⟨rfl, congrArg List.head? he.symm⟩) hc
  · intro h
    subst h
    exact ⟨_, .last, rfl⟩

theorem closesCounted_closed (hd : depth ≠ 1) :
    Closes (CountedBody depth) ('*'.toUInt8 :: '/'.toUInt8 :: w) v ↔
      Closes (CountedBody (depth - 1)) w v := by
  constructor
  · intro ⟨u, hu, e⟩
    cases hu with
    | last => exact absurd rfl hd
    | closed _ hu =>
      simp only [List.cons_append, List.cons.injEq, true_and] at e
      exact ⟨_, hu, e⟩
    | opened hu => cases e
    | plain ho hc hu =>
      obtain ⟨rfl, he⟩ := List.cons.inj e
      exact absurd ((closesBlock_append hu.two_le_length v).1 ⟨rfl, congrArg List.head? he.symm⟩) hc
  · intro h
    obtain ⟨u, hu, rfl⟩ := h
    exact ⟨_, .closed hd hu, rfl⟩

theorem closesCounted_plain (ho : ¬ OpensBlock b w) (hc : ¬ ClosesBlock b w) :
    Closes (CountedBody depth) (b :: w) v ↔ Closes (CountedBody depth) w v := by
  constructor
  · intro ⟨u, hu, e⟩
    cases hu with
    | last =>
      obtain ⟨rfl, rfl⟩ := List.cons.inj e
      exact absurd ⟨rfl, rfl⟩ hc
    | closed hd hu =>
      obtain ⟨rfl, rfl⟩ := List.cons.inj e
      exact absurd ⟨rfl, rfl⟩ hc
    | opened hu =>
      obtain ⟨rfl, rfl⟩ := List.cons.inj e
      exact absurd ⟨rfl, rfl⟩ ho
    | plain _ _ hu =>
      obtain ⟨rfl, rfl⟩ := List.cons.inj e
      exact ⟨_, hu, rfl⟩
  · intro h
    obtain ⟨u, hu, rfl⟩ := h
    have hopens := mt (opensBlock_append hu.two_le_length v).2 ho
    have hcloses := mt (closesBlock_append hu.two_le_length v).2 hc
    exact ⟨b :: u, .plain hopens hcloses hu, rfl⟩

/-! ## 3. The grammar -/

theorem CommentBody.two_le_length (h : CommentBody u) : 2 ≤ u.length := by
  induction h with
  | close => exact Nat.le_refl 2
  | nested _ _ _ _ => exact Nat.le_add_left 2 _
  | plain _ _ _ ih => exact Nat.le_succ_of_le ih

theorem not_closesComment_short (hw : w.length < 2) : ¬ Closes CommentBody w v :=
  not_closes_short (fun _ h => h.two_le_length) hw

/-- A comment that opens inside has to be closed first. -/
theorem closesComment_opened :
    Closes CommentBody ('/'.toUInt8 :: '*'.toUInt8 :: w) v ↔
      ∃ w', Closes CommentBody w w' ∧ Closes CommentBody w' v := by
  constructor
  · intro ⟨u, hu, e⟩
    cases hu with
    | close => cases e
    | nested hu hv =>
      simp only [List.cons_append, List.append_assoc, List.cons.injEq, true_and] at e
      exact ⟨_, ⟨_, hu, e⟩, _, hv, rfl⟩
    | plain ho hc hu =>
      obtain ⟨rfl, he⟩ := List.cons.inj e
      exact absurd ((opensBlock_append hu.two_le_length v).1 ⟨rfl, congrArg List.head? he.symm⟩) ho
  · intro h
    obtain ⟨w', ⟨u, hu, rfl⟩, u', hu', rfl⟩ := h
    exact ⟨_, .nested hu hu', by simp⟩

theorem closesComment_closed :
    Closes CommentBody ('*'.toUInt8 :: '/'.toUInt8 :: w) v ↔ v = w := by
  constructor
  · intro ⟨u, hu, e⟩
    cases hu with
    | close => exact (List.cons.inj (List.cons.inj e).2).2.symm
    | nested hu hv => cases e
    | plain ho hc hu =>
      obtain ⟨rfl, he⟩ := List.cons.inj e
      exact absurd ((closesBlock_append hu.two_le_length v).1 ⟨rfl, congrArg List.head? he.symm⟩) hc
  · intro h
    subst h
    exact ⟨_, .close, rfl⟩

theorem closesComment_plain (ho : ¬ OpensBlock b w) (hc : ¬ ClosesBlock b w) :
    Closes CommentBody (b :: w) v ↔ Closes CommentBody w v := by
  constructor
  · intro ⟨u, hu, e⟩
    cases hu with
    | close =>
      obtain ⟨rfl, rfl⟩ := List.cons.inj e
      exact absurd ⟨rfl, rfl⟩ hc
    | nested hu hv =>
      obtain ⟨rfl, rfl⟩ := List.cons.inj e
      exact absurd ⟨rfl, rfl⟩ ho
    | plain _ _ hu =>
      obtain ⟨rfl, rfl⟩ := List.cons.inj e
      exact ⟨_, hu, rfl⟩
  · intro h
    obtain ⟨u, hu, rfl⟩ := h
    have hopens := mt (opensBlock_append hu.two_le_length v).2 ho
    have hcloses := mt (closesBlock_append hu.two_le_length v).2 hc
    exact ⟨b :: u, .plain hopens hcloses hu, rfl⟩

/-- The comment open at the start of `w` and `n` more around it are closed before `v`. -/
def ClosesComments : Nat → List UInt8 → List UInt8 → Prop
  | 0, w, v => Closes CommentBody w v
  | n + 1, w, v => ∃ w', Closes CommentBody w w' ∧ ClosesComments n w' v

theorem closesComments_congr {w' : List UInt8}
    (h : ∀ v, Closes CommentBody w v ↔ Closes CommentBody w' v) (n : Nat) :
    ClosesComments n w v ↔ ClosesComments n w' v := by
  cases n with
  | zero => exact h v
  | succ n => simp only [ClosesComments, h]

theorem closesComments_opened (n : Nat) :
    ClosesComments n ('/'.toUInt8 :: '*'.toUInt8 :: w) v ↔ ClosesComments (n + 1) w v := by
  cases n with
  | zero => exact closesComment_opened
  | succ n =>
    simp only [ClosesComments, closesComment_opened]
    constructor
    · intro ⟨w', ⟨w'', h, h'⟩, h''⟩
      exact ⟨w'', h, w', h', h''⟩
    · intro ⟨w'', h, w', h', h''⟩
      exact ⟨w', ⟨w'', h, h'⟩, h''⟩

theorem closesComments_closed (n : Nat) :
    ClosesComments (n + 1) ('*'.toUInt8 :: '/'.toUInt8 :: w) v ↔ ClosesComments n w v := by
  simp only [ClosesComments, closesComment_closed, exists_eq_left]

theorem not_closesComments_short (hw : w.length < 2) (n : Nat) : ¬ ClosesComments n w v := by
  cases n with
  | zero => exact not_closesComment_short hw
  | succ n =>
    intro ⟨w', h, _⟩
    exact not_closesComment_short hw h

/-! ## 4. Grammar and reader agree -/

/-- The number of `n + 2` comments is not that of one, if it is of 32 bits. -/
theorem ofNat_add_two_ne_one (h : n + 2 < 2 ^ 32) : UInt32.ofNat (n + 2) ≠ 1 := by
  intro e
  have e := congrArg UInt32.toNat e
  rw [UInt32.toNat_ofNat_of_lt' h, UInt32.toNat_one] at e
  omega

theorem ofNat_add_one_sub_one (n : Nat) : UInt32.ofNat (n + 1) - 1 = UInt32.ofNat n := by
  rw [UInt32.ofNat_add]
  exact UInt32.add_sub_cancel _ _

/-- **What closes all comments for the grammar** closes them for the reader, if their number stays
    one of 32 bits. -/
theorem closesComments_iff {n : Nat} {w : List UInt8} (hsize : 2 * (n + 1) + w.length < 2 ^ 33) :
    ClosesComments n w v ↔ Closes (CountedBody (UInt32.ofNat (n + 1))) w v := by
  match w with
  | [] =>
    exact iff_of_false (not_closesComments_short (by simp) n) (not_closesCounted_short (by simp))
  | b :: w =>
    by_cases ho : OpensBlock b w
    · obtain ⟨rfl, hw⟩ := ho
      cases w with
      | nil => cases hw
      | cons c w =>
        cases hw
        simp only [List.length_cons] at hsize
        have hopen : UInt32.ofNat (n + 1) + 1 = UInt32.ofNat (n + 2) := (UInt32.ofNat_add _ 1).symm
        rw [closesComments_opened, closesCounted_opened, hopen]
        exact closesComments_iff (by omega)
    by_cases hc : ClosesBlock b w
    · obtain ⟨rfl, hw⟩ := hc
      cases w with
      | nil => cases hw
      | cons c w =>
        cases hw
        simp only [List.length_cons] at hsize
        cases n with
        | zero => exact closesComment_closed.trans closesCounted_last.symm
        | succ n =>
          rw [closesComments_closed, closesCounted_closed (ofNat_add_two_ne_one (by omega)),
            ofNat_add_one_sub_one]
          exact closesComments_iff (by omega)
    · rw [closesComments_congr (fun v => closesComment_plain ho hc), closesCounted_plain ho hc]
      refine closesComments_iff ?_
      rw [List.length_cons] at hsize
      omega
termination_by w.length

/-- **A comment of less than 8 GiB** is one for both. -/
theorem commentBody_iff_counted (hsize : u.length + 2 < 2 ^ 33) : CommentBody u ↔ Counted u := by
  have hclose := closesComments_iff (n := 0) (w := u) (v := []) (by omega)
  have hwhole : ∀ Body : List UInt8 → Prop, Closes Body u [] ↔ Body u := fun Body => by
    constructor
    · intro ⟨u', hu, e⟩
      rwa [e, List.append_nil]
    · exact fun hu => ⟨u, hu, (List.append_nil u).symm⟩
  rw [← hwhole CommentBody, ← hwhole Counted]
  exact hclose

/-! ## 5. Lexemes -/

variable {Body' : List UInt8 → Prop} {k : LexemeKind} {ps : List Piece} {what : Unclosed}

/-- A lexeme is one for all that take its comment for one. -/
theorem IsLexeme.imp (h : IsLexeme Body k u v)
    (hbody : ∀ x : List UInt8, x.length + 2 = u.length → Body x → Body' x) :
    IsLexeme Body' k u v := by
  cases h with
  | blank hb => exact .blank hb
  | lineComment hu => exact .lineComment hu
  | lastComment hu => exact .lastComment hu
  | blockComment hu => exact .blockComment (hbody _ rfl hu)
  | string hu hv => exact .string hu hv
  | quotedName hq hu hv => exact .quotedName hq hu hv
  | placeholder => exact .placeholder
  | word hu hv => exact .word hu hv
  | symbol hb hw hs hn hp hl hc => exact .symbol hb hw hs hn hp hl hc

theorem isLexeme_counted_iff (hsize : u.length < 2 ^ 33) :
    IsLexeme CommentBody k u v ↔ IsLexeme Counted k u v := by
  constructor
  · exact fun h => h.imp fun x hx => (commentBody_iff_counted (hx ▸ hsize)).1
  · exact fun h => h.imp fun x hx => (commentBody_iff_counted (hx ▸ hsize)).2

theorem begins_counted_iff (hsize : w.length < 2 ^ 33) :
    Begins CommentBody k w v ↔ Begins Counted k w v := by
  refine exists_congr fun u => ?_
  constructor
  · rintro ⟨h, rfl⟩
    rw [List.length_append] at hsize
    exact ⟨(isLexeme_counted_iff (by omega)).1 h, rfl⟩
  · rintro ⟨h, rfl⟩
    rw [List.length_append] at hsize
    exact ⟨(isLexeme_counted_iff (by omega)).2 h, rfl⟩

theorem Lexed.imp {t : List UInt8} (h : Lexed Body t ps w)
    (hbody : ∀ k u v, u.length ≤ t.length → IsLexeme Body k u v → IsLexeme Body' k u v) :
    Lexed Body' t ps w := by
  induction h with
  | done w => exact .done w
  | @next k u v w ps h hs ih =>
    have hlen : (u ++ v).length = u.length + v.length := List.length_append
    refine .next (hbody k u v (by omega) h) (ih fun k' u' v' hle => hbody k' u' v' (by omega))

/-- **A text of less than 8 GiB** has the same lexemes for both. -/
theorem lexed_counted_iff {t : List UInt8} (hsize : t.length < 2 ^ 33) :
    Lexed CommentBody t ps w ↔ Lexed Counted t ps w := by
  constructor
  · exact fun h => h.imp fun k u v hu => (isLexeme_counted_iff (Nat.lt_of_le_of_lt hu hsize)).1
  · exact fun h => h.imp fun k u v hu => (isLexeme_counted_iff (Nat.lt_of_le_of_lt hu hsize)).2

theorem unterminated_counted_iff (hsize : w.length < 2 ^ 33) :
    Unterminated CommentBody what w ↔ Unterminated Counted what w := by
  constructor
  · exact fun h => ⟨h.opens, fun k v hb => h.none k v ((begins_counted_iff hsize).2 hb)⟩
  · exact fun h => ⟨h.opens, fun k v hb => h.none k v ((begins_counted_iff hsize).1 hb)⟩

end StatelessSession.Sql
