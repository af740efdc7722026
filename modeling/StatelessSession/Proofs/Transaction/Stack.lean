import StatelessSession.Proofs.Transaction.Invariant

/-!
# The stack of a manager

What becomes of the savepoints in the slot of a manager. A savepoint is on the stack from the time
it is set until its transaction ends or the manager goes back behind it; and going back to a
savepoint succeeds exactly while it is on the stack.

* `Books.marks` -- the savepoints of the transaction in the slot, each with the transaction;
  `marks_discard`, `marks_finish`, `marks_setSavepoint`, … say what each operation does to them.
* **`Books.returned_returnTo`** -- all that an attempt to go back to a savepoint can do: it is
  refused, the savepoint is unknown, or the stack is cut at it.
* `mem_marks_returnTo` -- what is left of a stack that was cut; `answer_returnTo` -- when it is cut,
  and the error if it is not.

NOT here: runs, and why a savepoint that left the stack does not come back (`Validity`).
-/

namespace StatelessSession

/-! ## 1. Looking for a savepoint -/

namespace Transaction

variable {t t' : Transaction} {owner next : Nat} {how : Return} {s : Savepoint}

/-- A handle that is what the stack has under its number is found exactly if it is there. -/
theorem returnTo?_eq_none_iff (hs : ∀ e ∈ t.savepoints, e.id = s.id → e = s) :
    t.returnTo? how s = none ↔ s ∉ t.savepoints := by
  rw [returnTo?, Option.map_eq_none_iff, position?, List.findIdx?_eq_none_iff]
  constructor
  · intro h hm
    have hne := h s hm
    simp at hne
  · intro h e he
    refine beq_eq_false_iff_ne.2 fun hid => h ?_
    rw [← hs e he hid]
    exact he

/-- **What is left of a stack** after going back to `s`: the savepoints with lower numbers, and `s`
    itself if it is kept. -/
theorem mem_returnTo? (h : t.Ordered owner next) (hs : ∀ e ∈ t.savepoints, e.id = s.id → e = s)
    (hr : t.returnTo? how s = some t') (u : Savepoint) :
    u ∈ t'.savepoints ↔ u ∈ t.savepoints ∧ (u.id < s.id ∨ how = .rollback ∧ u = s) := by
  obtain ⟨i, hi, rfl⟩ := Option.map_eq_some_iff.1 hr
  obtain ⟨hlt, hid, -⟩ := List.findIdx?_eq_some_iff_getElem.1 hi
  have hentry : t.savepoints[i] = s := hs _ (List.getElem_mem hlt) (beq_iff_eq.1 hid)
  -- numbers increase, so places in the stack compare as numbers do
  have hmono : ∀ (j k : Nat) (hj : j < t.savepoints.length) (hk : k < t.savepoints.length),
      j < k → t.savepoints[j].id < t.savepoints[k].id := fun j k hj hk hjk =>
    List.pairwise_iff_getElem.1 h.ids j k hj hk hjk
  show u ∈ t.savepoints.take (how.kept i) ↔ _
  rw [List.mem_take_iff_getElem]
  constructor
  · intro ⟨j, hj, hju⟩
    have hjl : j < t.savepoints.length := by omega
    refine ⟨hju ▸ List.getElem_mem hjl, ?_⟩
    rcases Nat.lt_trichotomy j i with hji | rfl | hij
    · have hlower := hmono j i hjl hlt hji
      rw [hju, hentry] at hlower
      exact .inl hlower
    · refine .inr ⟨?_, hju.symm.trans hentry⟩
      cases how with
      | rollback => rfl
      | release =>
        simp only [Return.kept] at hj
        omega
    · cases how <;> simp only [Return.kept] at hj <;> omega
  · intro ⟨hu, hcase⟩
    obtain ⟨j, hj, rfl⟩ := List.getElem_of_mem hu
    rcases hcase with hlower | ⟨rfl, he⟩
    · have hji : j < i := by
        refine Nat.lt_of_not_le fun hij => ?_
        rcases Nat.lt_or_eq_of_le hij with hij | rfl
        · have hupper := hmono i j hlt hj hij
          rw [hentry] at hupper
          omega
        · rw [hentry] at hlower
          omega
      refine ⟨j, ?_, rfl⟩
      cases how <;> simp only [Return.kept] <;> omega
    · refine ⟨i, ?_, hentry.trans he.symm⟩
      simp only [Return.kept]
      omega

end Transaction

/-! ## 2. The stack of one manager -/

namespace Books

/-- The savepoints of the transaction in the slot, oldest first, each with the transaction. -/
def marks (b : Books) : List (TransactionId × Savepoint) :=
  match b.manager.slot with
  | none => []
  | some id => (b.ledger.transaction id).savepoints.map (id, ·)

variable {b : Books} {minted : List Savepoint} {id : TransactionId} {how : Transaction.Return}
  {s : Savepoint}

theorem marks_of_slot_none (hs : b.manager.slot = none) : b.marks = [] := by
  simp only [marks, hs]

theorem marks_of_slot (hs : b.manager.slot = some id) :
    b.marks = (b.ledger.transaction id).savepoints.map (id, ·) := by
  simp only [marks, hs]

theorem mem_marks_iff {u : Savepoint} :
    (id, u) ∈ b.marks ↔ b.manager.slot = some id ∧ u ∈ (b.ledger.transaction id).savepoints := by
  cases hs : b.manager.slot with
  | none =>
    rw [marks_of_slot_none hs]
    exact ⟨fun h => absurd h List.not_mem_nil, fun h => by cases h.1⟩
  | some id' =>
    rw [marks_of_slot hs, List.mem_map]
    constructor
    · intro ⟨e, he, heq⟩
      cases heq
      exact ⟨rfl, he⟩
    · intro ⟨hid, hu⟩
      cases hid
      exact ⟨u, hu, rfl⟩

/-- The stack is what the slot and the transaction in it make it. -/
theorem marks_congr {b' : Books} (hs : b'.manager.slot = b.manager.slot)
    (ht : ∀ id, b.manager.slot = some id →
      (b'.ledger.transaction id).savepoints = (b.ledger.transaction id).savepoints) :
    b'.marks = b.marks := by
  cases h : b.manager.slot with
  | none => rw [marks_of_slot_none h, marks_of_slot_none (hs.trans h)]
  | some id => rw [marks_of_slot h, marks_of_slot (hs.trans h), ht id h]

@[simp] theorem marks_install (b : Books) : b.install.marks = [] := by
  have hs : b.install.manager.slot = some b.ledger.beginTransaction.1 := rfl
  rw [marks_of_slot hs, (fresh_of_install hs).2]
  rfl

/-- The current transaction has the stack that was there before it was asked for. -/
theorem marks_current (b : Books) : b.current.2.marks = b.marks := by
  unfold current
  split
  · rfl
  · rename_i hs
    exact (marks_install b).trans (marks_of_slot_none hs).symm

/-- A change of the transaction in the slot shows in the stack. -/
theorem marks_modify (h : b.Sound minted) (hs : b.manager.slot = some id)
    (f : Transaction → Transaction) {m : Manager} (hm : m.slot = some id) :
    marks ⟨b.ledger.modify id f, m⟩ = (f (b.ledger.transaction id)).savepoints.map (id, ·) := by
  rw [marks_of_slot hm]
  show ((b.ledger.modify id f).transaction id).savepoints.map _ = _
  rw [Ledger.transaction_modify (h.has id hs), if_pos rfl]

/-! ## 3. What each operation does to the stack -/

theorem marks_discard (b : Books) : b.discard.state.marks = [] := marks_of_slot_none b.slot_discard

/-- Turning autocommit on where it was off ends the transaction. -/
theorem setAutocommit_on (h : b.Orderly) (ha : b.manager.autocommit = false) :
    (b.setAutocommit true).answer = .ok () ∧ (b.setAutocommit true).state.marks = [] := by
  have hmanual : ¬ b.manager.autocommit = true := Bool.eq_false_iff.1 ha
  have ho := b.switched_setAutocommit true
  generalize b.setAutocommit true = o at ho ⊢
  cases ho with
  | same hsame => exact absurd hsame hmanual
  | unsupported hne hc => cases hc.symm.trans (h.compliant hmanual)
  | on => exact ⟨rfl, marks_discard _⟩
  | begun he | kept he => exact absurd rfl he

/-- Otherwise turning autocommit on or off leaves the stack as it is: there is none where it is
    about to be turned off. -/
theorem marks_setAutocommit (h : b.Orderly) {enable : Bool}
    (hn : ¬ (enable = true ∧ b.manager.autocommit = false)) :
    (b.setAutocommit enable).state.marks = b.marks := by
  have ho := b.switched_setAutocommit enable
  generalize b.setAutocommit enable = o at ho ⊢
  cases ho with
  | same | unsupported => rfl
  | on he hne => exact absurd ⟨he, Bool.eq_false_iff.2 (he ▸ hne)⟩ hn
  | begun he hne hc hs =>
    rw [marks_of_slot_none hs]
    exact marks_install _
  | kept he hne hc hs => exact absurd (h.slot_of_off hne he) hs

/-- A transaction that is ended takes its stack along, and where none could be ended the stack is as
    it was. -/
theorem marks_finish (hb : b.Sound minted) (ending : Ending) :
    (b.finish ending).answer = .ok () ∧ (b.finish ending).state.marks = [] ∨
      (∃ e, (b.finish ending).answer = .error e) ∧ (b.finish ending).state.marks = b.marks := by
  have ho := b.finished_finish ending
  generalize b.finish ending = o at ho ⊢
  cases ho with
  | inAutocommit | unsupported => exact .inr ⟨⟨_, rfl⟩, rfl⟩
  | vacant ha hc hs =>
    refine .inr ⟨⟨_, rfl⟩, ?_⟩
    rw [marks_install, marks_of_slot_none hs]
  | @ended id ha hc hs =>
    refine .inl ⟨rfl, ?_⟩
    -- the transaction that ends is emptied, but the slot holds the one that begins
    have hmarks : (b.install.clear id).marks = b.install.marks :=
      marks_congr rfl fun id' hi => congrArg _ (transaction_clear_install (hb.has id hs) hi)
    exact hmarks.trans (marks_install b)

/-- A savepoint that is set comes on top of the stack, under the next number. -/
theorem marks_setSavepoint (hb : b.Sound minted) {name : Option String}
    (h : (b.setSavepoint name).answer = .ok s) :
    (b.setSavepoint name).state.marks = b.marks ++ [(b.current.1, s)] ∧
      (b.setSavepoint name).state.manager.slot = some b.current.1 ∧
      s.owner = b.manager.owner ∧ s.id = b.manager.nextSavepoint := by
  obtain ⟨hs, hstate⟩ := setSavepoint_eq_ok h
  have hcurrent : b.current.2.manager.owner = b.manager.owner ∧
      b.current.2.manager.nextSavepoint = b.manager.nextSavepoint := by
    unfold current
    split
    · exact ⟨rfl, rfl⟩
    · exact ⟨rfl, rfl⟩
  rw [hstate]
  refine ⟨?_, b.slot_current, ?_, ?_⟩
  · refine (marks_modify hb.current b.slot_current (·.addSavepoint s)
      (m := { b.current.2.manager with nextSavepoint := b.current.2.manager.nextSavepoint + 1 })
      b.slot_current).trans ?_
    show ((b.current.2.ledger.transaction b.current.1).savepoints ++ [s]).map _ = _
    rw [List.map_append, ← marks_of_slot b.slot_current, marks_current]
    rfl
  · rw [hs]
    exact hcurrent.1
  · rw [hs]
    exact hcurrent.2

/-- A query id leaves the stack as it is. -/
theorem marks_newQueryId (hb : b.Sound minted) : b.newQueryId.2.marks = b.marks := by
  unfold newQueryId
  split
  · exact marks_congr rfl fun _ _ => rfl
  · rename_i id hs
    refine marks_congr rfl fun id' hi => ?_
    have hhas : b.ledger.issue.2.Has id := hb.has id hs
    show ((b.ledger.issue.2.modify id (·.addQuery b.ledger.issue.1)).transaction id').savepoints = _
    rw [Ledger.transaction_modify hhas]
    split
    · rename_i e
      rw [e]
      rfl
    · rfl

/-! ## 4. Going back to a savepoint -/

/-- What is reported of going back to a savepoint: the query ids behind its marker. -/
def left (b : Books) (how : Transaction.Return) (id : TransactionId) (s : Savepoint) : Event :=
  .savepointLeft how id s (b.window.drop s.marker)

/-- **All that an attempt to go back to a savepoint can do.** -/
inductive Returned (b : Books) (how : Transaction.Return) (s : Savepoint) :
    Outcome Books Unit → Prop where
  /-- There is nowhere to look for it. -/
  | refused {e : SessionError} (target : b.target how s = .error e) :
      Returned b how s ⟨.error e, b, []⟩
  /-- It is not on the stack; what is reported comes before that is known. -/
  | unknown {id : TransactionId} (target : b.target how s = .ok id) (marks : (id, s) ∉ b.marks) :
      Returned b how s ⟨.error (.unknownSavepoint s), b, [b.left how id s]⟩
  /-- Window and stack are cut. -/
  | done {id : TransactionId} {t : Transaction} (target : b.target how s = .ok id)
      (marks : (id, s) ∈ b.marks) (cut : (b.ledger.transaction id).returnTo? how s = some t) :
      Returned b how s
        ⟨.ok (), { b with ledger := b.ledger.modify id fun _ => t }, [b.left how id s]⟩

/-- Every attempt is one of these. -/
theorem returned_returnTo (hb : b.Sound minted) (how : Transaction.Return) (hm : s ∈ minted) :
    Returned b how s (b.returnTo how s) := by
  have hentry : ∀ id, b.target how s = .ok id →
      ∀ e ∈ (b.ledger.transaction id).savepoints, e.id = s.id → e = s := fun id ht e he hid =>
    hb.eq_of_id (target_eq_ok ht).2 he hm (target_eq_ok ht).1 hid
  have hleft : ∀ id, b.target how s = .ok id →
      Event.savepointLeft how id s ((b.ledger.transaction id).after s) = b.left how id s :=
    fun id ht => by
      rw [left, window_of_slot (target_eq_ok ht).2]
      rfl
  have ho := b.tried_returnTo how s
  generalize b.returnTo how s = o at ho ⊢
  cases ho with
  | refused ht => exact .refused ht
  | @unknown id ht hr =>
    rw [hleft id ht]
    refine .unknown ht fun hmem => ?_
    exact (Transaction.returnTo?_eq_none_iff (hentry id ht)).1 hr (mem_marks_iff.1 hmem).2
  | @done id t ht hr =>
    rw [hleft id ht]
    have hs := (target_eq_ok ht).2
    refine .done ht (mem_marks_iff.2 ⟨hs, Classical.byContradiction fun hn => ?_⟩) hr
    rw [(Transaction.returnTo?_eq_none_iff (hentry id ht)).2 hn] at hr
    cases hr

/-- **Going back to a savepoint leaves those with lower numbers**, and the savepoint itself if it is
    kept. -/
theorem mem_marks_returnTo (h : b.Orderly) (hb : b.Sound minted) (hm : s ∈ minted)
    (ha : (b.returnTo how s).answer = .ok ()) :
    (∃ id, (id, s) ∈ b.marks) ∧ ∀ p, p ∈ (b.returnTo how s).state.marks ↔
      p ∈ b.marks ∧ (p.2.id < s.id ∨ how = .rollback ∧ p.2 = s) := by
  have hr := returned_returnTo hb how hm
  generalize b.returnTo how s = o at ha hr ⊢
  cases hr with
  | refused => cases ha
  | unknown => cases ha
  | @done id t ht hs hcut =>
    obtain ⟨ho, hslot⟩ := target_eq_ok ht
    refine ⟨⟨id, hs⟩, fun ⟨id', u⟩ => ?_⟩
    have hcut' := Transaction.mem_returnTo? (h.stack id hslot)
      (fun e he hid => hb.eq_of_id hslot he hm ho hid) hcut u
    have hmodify : ((b.ledger.modify id fun _ => t).transaction id) = t :=
      (Ledger.transaction_modify (hb.has id hslot) _ id).trans (if_pos rfl)
    rw [mem_marks_iff, mem_marks_iff]
    constructor
    · intro ⟨hi, hu⟩
      cases Option.some.inj (hslot.symm.trans hi)
      obtain ⟨hu, hcase⟩ := hcut'.1 (hmodify ▸ hu)
      exact ⟨⟨hslot, hu⟩, hcase⟩
    · intro ⟨⟨hi, hu⟩, hcase⟩
      cases Option.some.inj (hslot.symm.trans hi)
      refine ⟨hslot, ?_⟩
      rw [hmodify]
      exact hcut'.2 ⟨hu, hcase⟩

/-- Why a manager does not go back to a savepoint of its own. -/
def refusal (b : Books) (how : Transaction.Return) (s : Savepoint) : SessionError :=
  if b.manager.autocommit then .inAutocommit (returnAttempt how)
  else if b.manager.slot.isNone then .noTransaction
  else .unknownSavepoint s

/-- **Going back to a savepoint succeeds exactly if it is on the stack**; otherwise the error says
    whether there is autocommit, no transaction, or another one. -/
theorem answer_returnTo (h : b.Orderly) (hb : b.Sound minted) (how : Transaction.Return)
    (hm : s ∈ minted) (ho : s.owner = b.manager.owner) :
    (∃ id, (id, s) ∈ b.marks) ∧ (b.returnTo how s).answer = .ok () ∨
      (∀ id, (id, s) ∉ b.marks) ∧ (b.returnTo how s).answer = .error (b.refusal how s) := by
  have hr := returned_returnTo hb how hm
  generalize b.returnTo how s = o at hr ⊢
  have hnone (hs : b.manager.slot = none) : ∀ id, (id, s) ∉ b.marks := fun id hmem => by
    rw [marks_of_slot_none hs] at hmem
    cases hmem
  cases hr with
  | refused ht =>
    refine .inr ?_
    have htarget := b.targeted_target how s
    rw [ht] at htarget
    unfold refusal
    cases htarget with
    | inAutocommit ha =>
      rw [if_pos ha]
      exact ⟨hnone (h.idle ha), rfl⟩
    | unsupported ha hc => cases hc.symm.trans (h.compliant ha)
    | foreign ha hc hown => exact absurd ho hown
    | vacant ha hc hown hs =>
      rw [if_neg ha, hs]
      exact ⟨hnone hs, rfl⟩
  | @unknown id ht hn =>
    obtain ⟨-, hs⟩ := target_eq_ok ht
    have ha : ¬ b.manager.autocommit = true := fun ha => by
      rw [h.idle ha] at hs
      cases hs
    refine .inr ⟨fun id' hmem => ?_, ?_⟩
    · cases Option.some.inj (hs.symm.trans (mem_marks_iff.1 hmem).1)
      exact hn hmem
    · rw [refusal, if_neg ha, hs]
      rfl
  | @done id t ht hs hcut => exact .inl ⟨⟨id, hs⟩, rfl⟩

end Books

end StatelessSession
