import StatelessSession.Proofs.Transaction.Operations
import StatelessSession.Transaction.Bench

/-!
# What an operation of a manager leaves alone

An operation of a manager works on the transaction in its slot, or on one that it begins. This file
says so once, and every statement about benches of several managers rests on it.

* `Books.Within` -- what stays as it was: the manager's number, its compliance, and every
  transaction but the one in the slot. It is reflexive and transitive.
* `Books.within_setAutocommit`, `within_finish`, … -- every operation stays within.
* `setSavepoint_eq_ok`, `target_eq_ok` -- what can be said of an operation that succeeded.

NOT here: what happens to the transaction in the slot (`Handles`, `Conservation`).
-/

namespace StatelessSession

/-! ## 1. Ledgers -/

namespace Ledger

theorem has_modify {l : Ledger} {id id' : TransactionId} {f : Transaction → Transaction} :
    (l.modify id f).Has id' ↔ l.Has id' := by
  simp [Has, modify]

theorem has_beginTransaction {l : Ledger} {id : TransactionId} :
    l.beginTransaction.2.Has id ↔ l.Has id ∨ id = l.beginTransaction.1 := by
  cases id with | mk n =>
  simp only [Has, beginTransaction, List.length_append, List.length_singleton,
    TransactionId.mk.injEq]
  omega

/-- A transaction that begins now is not one that has begun. -/
theorem not_has_fst_beginTransaction (l : Ledger) : ¬ l.Has l.beginTransaction.1 :=
  Nat.lt_irrefl _

theorem transaction_modify_of_ne {l : Ledger} {id id' : TransactionId} (h : id ≠ id')
    (f : Transaction → Transaction) : (l.modify id f).transaction id' = l.transaction id' := by
  have hn : id.number ≠ id'.number := fun e => h (by cases id; cases id'; simpa using e)
  simp only [transaction, modify, List.getElem?_modify_ne f _ hn]

/-- A transaction that never began is empty. -/
theorem transaction_of_not_has {l : Ledger} {id : TransactionId} (h : ¬ l.Has id) :
    l.transaction id = Transaction.empty := by
  simp only [transaction, List.getElem?_eq_none (Nat.le_of_not_lt h), Option.getD_none]

end Ledger

/-! ## 2. Books -/

namespace Books

/-- **What an operation of a manager leaves alone.** -/
structure Within (b b' : Books) : Prop where
  owner : b'.manager.owner = b.manager.owner
  compliant : b'.manager.compliant = b.manager.compliant
  nextOwner : b'.ledger.nextOwner = b.ledger.nextOwner
  /-- A query id that was handed out is not handed out again. -/
  nextQuery : b.ledger.nextQuery ≤ b'.ledger.nextQuery
  /-- No transaction is forgotten. -/
  has : ∀ id, b.ledger.Has id → b'.ledger.Has id
  /-- The transaction in the slot was there before or begins now. -/
  slot : ∀ id, b'.manager.slot = some id → b.manager.slot = some id ∨ ¬ b.ledger.Has id
  /-- Every transaction outside the slot is as it was. -/
  others : ∀ id, b.ledger.Has id → b.manager.slot ≠ some id →
    b'.ledger.transaction id = b.ledger.transaction id

namespace Within

theorem refl (b : Books) : Within b b where
  owner := rfl
  compliant := rfl
  nextOwner := rfl
  nextQuery := Nat.le_refl _
  has _ h := h
  slot _ h := .inl h
  others _ _ _ := rfl

theorem trans {b b' b'' : Books} (h : Within b b') (h' : Within b' b'') : Within b b'' where
  owner := h'.owner.trans h.owner
  compliant := h'.compliant.trans h.compliant
  nextOwner := h'.nextOwner.trans h.nextOwner
  nextQuery := Nat.le_trans h.nextQuery h'.nextQuery
  has id hi := h'.has id (h.has id hi)
  slot id hi := by
    rcases h'.slot id hi with hs | hn
    · exact h.slot id hs
    · exact .inr fun hb => hn (h.has id hb)
  others id hi hs := by
    have hs' : b'.manager.slot ≠ some id := fun e => (h.slot id e).elim hs fun hn => hn hi
    rw [h'.others id (h.has id hi) hs', h.others id hi hs]

end Within

/-! ## 3. Small changes -/

theorem within_flag (b : Books) (enable : Bool) :
    b.Within { b with manager := { b.manager with autocommit := enable } } where
  owner := rfl
  compliant := rfl
  nextOwner := rfl
  nextQuery := Nat.le_refl _
  has _ h := h
  slot _ h := .inl h
  others _ _ _ := rfl

theorem within_install (b : Books) : b.Within b.install where
  owner := rfl
  compliant := rfl
  nextOwner := rfl
  nextQuery := Nat.le_refl _
  has _ h := Ledger.has_beginTransaction.2 (.inl h)
  slot id h := by
    cases h
    exact .inr (Ledger.not_has_fst_beginTransaction _)
  others id _ _ := Ledger.transaction_beginTransaction b.ledger id

/-- The transaction that is put into the slot begins now and is empty. -/
theorem fresh_of_install {b : Books} {id : TransactionId} (h : b.install.manager.slot = some id) :
    ¬ b.ledger.Has id ∧ b.install.ledger.transaction id = Transaction.empty := by
  cases h
  have hn := Ledger.not_has_fst_beginTransaction b.ledger
  refine ⟨hn, ?_⟩
  exact (Ledger.transaction_beginTransaction b.ledger _).trans (Ledger.transaction_of_not_has hn)

/-- A transaction that began before is not the one that is put into the slot. -/
theorem transaction_clear_install {b : Books} {id id' : TransactionId} (hid : b.ledger.Has id)
    (h : b.install.manager.slot = some id') :
    (b.install.clear id).ledger.transaction id' = b.install.ledger.transaction id' := by
  have hne : id ≠ id' := fun e => (fresh_of_install h).1 (e ▸ hid)
  exact Ledger.transaction_modify_of_ne hne _

/-- A change of the transaction in the slot, after which the slot is the same or empty. -/
theorem within_modify {b : Books} {id : TransactionId} (h : b.manager.slot = some id)
    (f : Transaction → Transaction) (next : Nat) {slot : Option TransactionId}
    (hs : slot = some id ∨ slot = none) :
    b.Within ⟨b.ledger.modify id f,
      { b.manager with nextSavepoint := next, slot := slot }⟩ where
  owner := rfl
  compliant := rfl
  nextOwner := rfl
  nextQuery := Nat.le_refl _
  has _ hi := Ledger.has_modify.2 hi
  slot id' hi := by
    rcases hs with rfl | rfl
    · exact .inl (h.trans hi)
    · cases hi
  others id' _ hn :=
    Ledger.transaction_modify_of_ne (fun e => hn (by rw [h, e])) f

/-! ## 4. Operations -/

theorem within_current (b : Books) : b.Within b.current.2 := by
  unfold current
  split
  · exact .refl b
  · exact within_install b

/-- The transaction that is current is in the slot. -/
theorem slot_current (b : Books) : b.current.2.manager.slot = some b.current.1 := by
  unfold current
  split
  · assumption
  · rfl

theorem within_discard (b : Books) : b.Within b.discard.state := by
  unfold discard
  split
  · exact .refl b
  · rename_i id hs
    exact within_modify hs _ b.manager.nextSavepoint (.inr rfl)

theorem within_setAutocommit (b : Books) (enable : Bool) :
    b.Within (b.setAutocommit enable).state := by
  have ho := b.switched_setAutocommit enable
  generalize b.setAutocommit enable = o at ho ⊢
  cases ho with
  | same | unsupported => exact .refl b
  | on => exact (within_flag b enable).trans (within_discard _)
  | begun => exact (within_flag b enable).trans (within_install _)
  | kept => exact within_flag b enable

theorem within_finish (b : Books) (ending : Ending) : b.Within (b.finish ending).state := by
  have ho := b.finished_finish ending
  generalize b.finish ending = o at ho ⊢
  cases ho with
  | inAutocommit | unsupported => exact .refl b
  | vacant => exact within_install b
  | @ended id ha hc hs =>
    -- emptying the old transaction commutes with beginning the new one, which sits elsewhere
    refine ⟨rfl, rfl, rfl, Nat.le_refl _, fun i hi => ?_, fun i hi => ?_, fun i hi hn => ?_⟩
    · exact Ledger.has_modify.2 ((within_install b).has i hi)
    · exact (within_install b).slot i hi
    · have hne : id ≠ i := fun e => hn (by rw [hs, e])
      exact (Ledger.transaction_modify_of_ne hne _).trans ((within_install b).others i hi hn)

/-- A savepoint that is set marks the end of the current window and lies on top of the stack. -/
theorem setSavepoint_eq_ok {b : Books} {name : Option String} {s : Savepoint}
    (h : (b.setSavepoint name).answer = .ok s) :
    s = (b.current.2.ledger.transaction b.current.1).mark b.current.2.manager.owner
        b.current.2.manager.nextSavepoint name ∧
      (b.setSavepoint name).state = ⟨b.current.2.ledger.modify b.current.1 (·.addSavepoint s),
        { b.current.2.manager with nextSavepoint := b.current.2.manager.nextSavepoint + 1 }⟩ := by
  have ho := b.marked_setSavepoint name
  generalize b.setSavepoint name = o at h ho ⊢
  cases ho with
  | inAutocommit | unsupported => cases h
  | set ha hc hs =>
    cases h
    exact ⟨hs, rfl⟩

/-- A savepoint that is not set changes nothing. -/
theorem setSavepoint_eq_error {b : Books} {name : Option String} {e : SessionError}
    (h : (b.setSavepoint name).answer = .error e) : (b.setSavepoint name).state = b := by
  have ho := b.marked_setSavepoint name
  generalize b.setSavepoint name = o at h ho ⊢
  cases ho with
  | inAutocommit | unsupported => rfl
  | set => cases h

theorem within_setSavepoint (b : Books) (name : Option String) :
    b.Within (b.setSavepoint name).state := by
  cases h : (b.setSavepoint name).answer with
  | error e =>
    rw [setSavepoint_eq_error h]
    exact .refl b
  | ok s =>
    rw [(setSavepoint_eq_ok h).2]
    exact b.within_current.trans (within_modify b.slot_current _ _ (.inl b.slot_current))

/-- Where a savepoint can be looked for, the manager set it and the transaction is in the slot. -/
theorem target_eq_ok {b : Books} {how : Transaction.Return} {s : Savepoint} {id : TransactionId}
    (h : b.target how s = .ok id) : s.owner = b.manager.owner ∧ b.manager.slot = some id := by
  have ht := b.targeted_target how s
  rw [h] at ht
  cases ht with
  | found ha hc ho hs => exact ⟨ho, hs⟩

theorem within_returnTo (b : Books) (how : Transaction.Return) (s : Savepoint) :
    b.Within (b.returnTo how s).state := by
  have ho := b.tried_returnTo how s
  generalize b.returnTo how s = o at ho ⊢
  cases ho with
  | refused | unknown => exact .refl b
  | done ht hr =>
    have hs := (target_eq_ok ht).2
    exact within_modify hs _ b.manager.nextSavepoint (.inl hs)

theorem within_newQueryId (b : Books) : b.Within b.newQueryId.2 := by
  unfold newQueryId
  split
  · exact ⟨rfl, rfl, rfl, Nat.le_succ _, fun _ h => h, fun _ h => .inl h, fun _ _ _ => rfl⟩
  · rename_i id hs
    have h := within_modify hs (·.addQuery (.issued b.ledger.nextQuery)) b.manager.nextSavepoint
      (.inl hs)
    exact ⟨rfl, rfl, rfl, Nat.le_succ _, h.has, h.slot, h.others⟩

end Books

end StatelessSession
