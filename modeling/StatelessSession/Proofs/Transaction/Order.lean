import StatelessSession.Proofs.Transaction.Handles

/-!
# Stacks in order

A manager out of compliance never leaves autocommit, and autocommit leaves no transaction in the
slot; so some branches of the operations are never taken. The savepoints of the current transaction
are the manager's own, with numbers that increase and markers that do not decrease. What leaves the
slot is empty. This file proves it of the operations of one manager.

* `Transaction.Ordered` -- owners, numbers and markers of a stack.
* `Books.Orderly` -- flag, slot and stack of one manager.
* `Books.Smooth` -- an outcome that took none of the branches that cannot be taken.
* `Books.Emptied` -- what left the slot is empty.
* `orderly_setAutocommit`, `smooth_finish`, `emptied_discard`, … -- what each operation does.

NOT here: managers side by side, and runs (`Invariant`).
-/

namespace StatelessSession

/-! ## 1. Stacks -/

namespace Transaction

/-- **A stack in order**: all savepoints are of one manager, their numbers increase and are below
    the next one, and their markers do not decrease and lie within the window. -/
structure Ordered (t : Transaction) (owner next : Nat) : Prop where
  owned : ∀ s ∈ t.savepoints, s.owner = owner
  ids : t.savepoints.Pairwise fun s u => s.id < u.id
  below : ∀ s ∈ t.savepoints, s.id < next
  markers : t.savepoints.Pairwise fun s u => s.marker ≤ u.marker
  within : ∀ s ∈ t.savepoints, s.marker ≤ t.queries.length

variable {t : Transaction} {owner next : Nat}

theorem ordered_empty : empty.Ordered owner next := ⟨nofun, .nil, nofun, .nil, nofun⟩

theorem Ordered.addQuery (h : t.Ordered owner next) (q : QueryId) :
    (t.addQuery q).Ordered owner next where
  owned := h.owned
  ids := h.ids
  below := h.below
  markers := h.markers
  within s hs := by
    have hw := h.within s hs
    show s.marker ≤ (t.queries ++ [q]).length
    rw [List.length_append]
    omega

/-- A savepoint with the next number, at the end of the window. -/
theorem Ordered.addMark (h : t.Ordered owner next) (name : Option String) :
    (t.addSavepoint (t.mark owner next name)).Ordered owner (next + 1) := by
  have hpair : ∀ {R : Savepoint → Savepoint → Prop}, t.savepoints.Pairwise R →
      (∀ s ∈ t.savepoints, R s (t.mark owner next name)) →
      (t.addSavepoint (t.mark owner next name)).savepoints.Pairwise R := fun hp hr =>
    List.pairwise_append.2 ⟨hp, List.pairwise_singleton _ _, fun s hs u hu => by
      rw [List.mem_singleton.1 hu]
      exact hr s hs⟩
  refine ⟨fun s hs => ?_, hpair h.ids h.below, fun s hs => ?_, hpair h.markers h.within,
    fun s hs => ?_⟩
  · rcases List.mem_append.1 hs with hs | hs
    · exact h.owned s hs
    · rw [List.mem_singleton.1 hs]
      rfl
  · rcases List.mem_append.1 hs with hs | hs
    · exact Nat.lt_succ_of_lt (h.below s hs)
    · rw [List.mem_singleton.1 hs]
      exact Nat.lt_succ_self next
  · rcases List.mem_append.1 hs with hs | hs
    · exact h.within s hs
    · rw [List.mem_singleton.1 hs]
      exact Nat.le_refl _

/-- **A return to a savepoint keeps the stack in order** if the handle is what the stack has under
    its number: what is left of the stack has markers up to that of the handle. -/
theorem Ordered.returnTo? (h : t.Ordered owner next) {how : Return} {s : Savepoint}
    (hs : ∀ e ∈ t.savepoints, e.id = s.id → e = s) {t' : Transaction}
    (hr : t.returnTo? how s = some t') : t'.Ordered owner next := by
  obtain ⟨i, hi, rfl⟩ := Option.map_eq_some_iff.1 hr
  obtain ⟨hlt, hid, -⟩ := List.findIdx?_eq_some_iff_getElem.1 hi
  have hentry : t.savepoints[i] = s := hs _ (List.getElem_mem hlt) (beq_iff_eq.1 hid)
  have hsub : (t.savepoints.take (how.kept i)).Sublist t.savepoints := List.take_sublist _ _
  refine ⟨fun e he => h.owned e (hsub.subset he), h.ids.sublist hsub,
    fun e he => h.below e (hsub.subset he), h.markers.sublist hsub, fun e he => ?_⟩
  have hle : e.marker ≤ s.marker := by
    obtain ⟨j, hj, rfl⟩ := List.getElem_of_mem he
    rw [List.length_take] at hj
    rw [List.getElem_take]
    have hkept : how.kept i ≤ i + 1 := by
      cases how with
      | rollback => exact Nat.le_refl _
      | release => exact Nat.le_succ _
    rcases Nat.lt_or_eq_of_le (show j ≤ i by omega) with hji | rfl
    · rw [← hentry]
      exact List.pairwise_iff_getElem.1 h.markers j i _ hlt hji
    · exact Nat.le_of_eq (congrArg Savepoint.marker hentry)
  have hwin := h.within e (hsub.subset he)
  show e.marker ≤ (t.queries.take s.marker).length
  rw [List.length_take]
  omega

end Transaction

/-! ## 2. One manager -/

namespace Books

/-- **Flag, slot and stack of one manager**: out of compliance it is in autocommit, in autocommit
    the slot is empty, and the stack of the current transaction is in order. -/
structure Orderly (b : Books) : Prop where
  flag : b.manager.compliant = false → b.manager.autocommit = true
  idle : b.manager.autocommit = true → b.manager.slot = none
  stack : ∀ id, b.manager.slot = some id →
    (b.ledger.transaction id).Ordered b.manager.owner b.manager.nextSavepoint

variable {b : Books} {minted : List Savepoint} {id : TransactionId}

theorem orderly_of_slot_none (hf : b.manager.compliant = false → b.manager.autocommit = true)
    (hs : b.manager.slot = none) : b.Orderly where
  flag := hf
  idle _ := hs
  stack id hi := by
    rw [hs] at hi
    cases hi

/-- A manager that is in manual commit complies. -/
theorem Orderly.compliant (h : b.Orderly) (ha : ¬ b.manager.autocommit = true) :
    b.manager.compliant = true := by
  cases hc : b.manager.compliant with
  | true => rfl
  | false => exact absurd (h.flag hc) ha

/-- In manual commit a transaction with an ordered stack may be in the slot. -/
theorem orderly_of_manual (hc : b.manager.compliant = true) (ha : ¬ b.manager.autocommit = true)
    (hs : ∀ id, b.manager.slot = some id →
      (b.ledger.transaction id).Ordered b.manager.owner b.manager.nextSavepoint) : b.Orderly where
  flag hf := by
    rw [hc] at hf
    cases hf
  idle hi := absurd hi ha
  stack := hs

theorem orderly_install (hc : b.manager.compliant = true) (ha : ¬ b.manager.autocommit = true) :
    b.install.Orderly := by
  refine orderly_of_manual hc ha fun id hi => ?_
  rw [(fresh_of_install hi).2]
  exact Transaction.ordered_empty

theorem slot_discard (b : Books) : b.discard.state.manager.slot = none := by
  unfold discard
  split
  · assumption
  · rfl

theorem orderly_discard (h : b.Orderly) : b.discard.state.Orderly := by
  refine orderly_of_slot_none ?_ b.slot_discard
  unfold discard
  split
  · exact h.flag
  · exact h.flag

/-- Where autocommit is about to be turned off, it was on, so the slot is empty. -/
theorem Orderly.slot_of_off (h : b.Orderly) {enable : Bool} (hne : ¬ b.manager.autocommit = enable)
    (he : ¬ enable = true) : b.manager.slot = none := by
  refine h.idle ?_
  cases ha : b.manager.autocommit with
  | true => rfl
  | false => exact absurd (ha.trans (Bool.eq_false_iff.2 he).symm) hne

theorem orderly_setAutocommit (h : b.Orderly) (enable : Bool) :
    (b.setAutocommit enable).state.Orderly := by
  have ho := b.switched_setAutocommit enable
  generalize b.setAutocommit enable = o at ho ⊢
  cases ho with
  | same | unsupported => exact h
  | on he =>
    subst he
    refine orderly_of_slot_none (fun _ => ?_) (slot_discard _)
    unfold discard
    split
    · rfl
    · rfl
  | begun he hne hc => exact orderly_install hc he
  | kept he hne hc hs => exact absurd (h.slot_of_off hne he) hs

theorem orderly_finish (h : b.Orderly) (hb : b.Sound minted) (ending : Ending) :
    (b.finish ending).state.Orderly := by
  have ho := b.finished_finish ending
  generalize b.finish ending = o at ho ⊢
  cases ho with
  | inAutocommit | unsupported => exact h
  | vacant ha hc => exact orderly_install hc ha
  | ended ha hc hs =>
    refine orderly_of_manual hc ha fun i hi => ?_
    rw [transaction_clear_install (hb.has _ hs) hi]
    exact (orderly_install hc ha).stack i hi

/-- A change of the current transaction that keeps its stack in order. -/
theorem orderly_modify (h : b.Orderly) (hb : b.Sound minted) (hs : b.manager.slot = some id)
    {f : Transaction → Transaction} {next : Nat}
    (hf : (f (b.ledger.transaction id)).Ordered b.manager.owner next) :
    Orderly ⟨b.ledger.modify id f, { b.manager with nextSavepoint := next }⟩ where
  flag := h.flag
  idle := h.idle
  stack i hi := by
    cases Option.some.inj (hs.symm.trans hi)
    rw [Ledger.transaction_modify (hb.has id hs), if_pos rfl]
    exact hf

theorem orderly_setSavepoint (h : b.Orderly) (hb : b.Sound minted) (name : Option String) :
    (b.setSavepoint name).state.Orderly := by
  have ho := b.marked_setSavepoint name
  generalize b.setSavepoint name = o at ho ⊢
  cases ho with
  | inAutocommit | unsupported => exact h
  | set ha hc hs =>
    have hcurrent : b.current.2.Orderly := by
      unfold current
      split
      · exact h
      · exact orderly_install hc ha
    have hslot := b.slot_current
    subst hs
    exact orderly_modify hcurrent hb.current hslot ((hcurrent.stack _ hslot).addMark name)

theorem orderly_returnTo (h : b.Orderly) (hb : b.Sound minted) (how : Transaction.Return)
    {s : Savepoint} (hm : s ∈ minted) : (b.returnTo how s).state.Orderly := by
  have ho := b.tried_returnTo how s
  generalize b.returnTo how s = o at ho ⊢
  cases ho with
  | refused | unknown => exact h
  | @done id t ht hr =>
    obtain ⟨hown, hs⟩ := target_eq_ok ht
    refine orderly_modify h hb hs ((h.stack id hs).returnTo? (fun e he hid => ?_) hr)
    exact hb.eq_of_id hs he hm hown hid

theorem orderly_newQueryId (h : b.Orderly) (hb : b.Sound minted) : b.newQueryId.2.Orderly := by
  unfold newQueryId
  split
  · exact ⟨h.flag, h.idle, h.stack⟩
  · rename_i id hs
    have h' := orderly_modify h hb hs (f := (·.addQuery (.issued b.ledger.nextQuery)))
      ((h.stack id hs).addQuery _)
    exact ⟨h'.flag, h'.idle, h'.stack⟩

/-! ## 3. Branches that are never taken -/

/-- An outcome that is no complaint about a feature and keeps no transaction where one was to
    begin. -/
structure Smooth {α : Type} (o : Outcome Books α) : Prop where
  supported : ∀ feature, o.answer ≠ .error (.unsupported feature)
  begun : .transactionKept ∉ o.events

theorem smooth_discard (b : Books) : Smooth b.discard := by
  unfold discard
  split
  · exact ⟨nofun, nofun⟩
  · exact ⟨nofun, fun h => nomatch List.mem_singleton.1 h⟩

theorem smooth_finish (h : b.Orderly) (ending : Ending) : Smooth (b.finish ending) := by
  have ho := b.finished_finish ending
  generalize b.finish ending = o at ho ⊢
  cases ho with
  | inAutocommit => exact ⟨nofun, nofun⟩
  | unsupported ha hc => cases hc.symm.trans (h.compliant ha)
  | vacant => exact ⟨nofun, fun h => nomatch List.mem_singleton.1 h⟩
  | ended =>
    refine ⟨nofun, fun h => ?_⟩
    simp [Books.ended] at h

theorem smooth_setSavepoint (h : b.Orderly) (name : Option String) :
    Smooth (b.setSavepoint name) := by
  have ho := b.marked_setSavepoint name
  generalize b.setSavepoint name = o at ho ⊢
  cases ho with
  | inAutocommit => exact ⟨nofun, nofun⟩
  | unsupported ha hc => cases hc.symm.trans (h.compliant ha)
  | set => exact ⟨nofun, fun h => nomatch List.mem_singleton.1 h⟩

theorem smooth_returnTo (h : b.Orderly) (how : Transaction.Return) (s : Savepoint) :
    Smooth (b.returnTo how s) := by
  have ho := b.tried_returnTo how s
  generalize b.returnTo how s = o at ho ⊢
  cases ho with
  | @refused e ht =>
    refine ⟨fun feature hf => ?_, nofun⟩
    have htarget := b.targeted_target how s
    rw [ht, show e = .unsupported feature from Except.error.inj hf] at htarget
    cases htarget with
    | unsupported ha hc => cases hc.symm.trans (h.compliant ha)
  | unknown | done => exact ⟨nofun, fun h => nomatch List.mem_singleton.1 h⟩

/-- Autocommit is turned off only where the slot is empty. -/
theorem not_kept_setAutocommit (h : b.Orderly) (enable : Bool) :
    .transactionKept ∉ (b.setAutocommit enable).events := by
  have ho := b.switched_setAutocommit enable
  generalize b.setAutocommit enable = o at ho ⊢
  cases ho with
  | same | unsupported => exact nofun
  | on =>
    intro hk
    rcases List.mem_cons.1 hk with hk | hk
    · cases hk
    · exact (smooth_discard _).begun hk
  | begun => exact fun h => nomatch List.mem_singleton.1 h
  | kept he hne hc hs => exact absurd (h.slot_of_off hne he) hs

/-! ## 4. What leaves the slot -/

/-- A transaction that is no longer in the slot is empty. -/
def Emptied (b b' : Books) : Prop :=
  ∀ id, b.manager.slot = some id → b'.manager.slot ≠ some id →
    b'.ledger.transaction id = Transaction.empty

theorem emptied_of_slot {b' : Books}
    (h : ∀ id, b.manager.slot = some id → b'.manager.slot = some id) : Emptied b b' :=
  fun id hs hs' => absurd (h id hs) hs'

theorem emptied_of_slot_none {b' : Books} (h : b.manager.slot = none) : Emptied b b' := by
  intro id hs _
  rw [h] at hs
  cases hs

theorem emptied_discard (hb : b.Sound minted) : Emptied b b.discard.state := by
  intro id hs _
  simp only [discard, hs]
  exact (Ledger.transaction_modify (hb.has id hs) _ id).trans (if_pos rfl)

theorem emptied_setAutocommit (hb : b.Sound minted) (enable : Bool) :
    Emptied b (b.setAutocommit enable).state := by
  have ho := b.switched_setAutocommit enable
  generalize b.setAutocommit enable = o at ho ⊢
  cases ho with
  | same | unsupported | kept => exact emptied_of_slot fun _ hs => hs
  | on => exact emptied_discard (hb.flag enable)
  | begun he hne hc hs => exact emptied_of_slot_none hs

theorem emptied_finish (hb : b.Sound minted) (ending : Ending) :
    Emptied b (b.finish ending).state := by
  have ho := b.finished_finish ending
  generalize b.finish ending = o at ho ⊢
  cases ho with
  | inAutocommit | unsupported => exact emptied_of_slot fun _ hs => hs
  | vacant ha hc hs => exact emptied_of_slot_none hs
  | @ended old ha hc hs' =>
    intro id hs _
    have he : old = id := Option.some.inj (hs'.symm.trans hs)
    subst he
    have hi : b.ledger.beginTransaction.2.Has old :=
      Ledger.has_beginTransaction.2 (.inl (hb.has old hs))
    exact (Ledger.transaction_modify hi _ old).trans (if_pos rfl)

theorem emptied_setSavepoint (b : Books) (name : Option String) :
    Emptied b (b.setSavepoint name).state := by
  refine emptied_of_slot fun id hs => ?_
  have ho := b.marked_setSavepoint name
  generalize b.setSavepoint name = o at ho ⊢
  cases ho with
  | inAutocommit | unsupported => exact hs
  | set => simp only [current, hs]

theorem emptied_returnTo (b : Books) (how : Transaction.Return) (s : Savepoint) :
    Emptied b (b.returnTo how s).state := by
  refine emptied_of_slot fun id hs => ?_
  have ho := b.tried_returnTo how s
  generalize b.returnTo how s = o at ho ⊢
  cases ho with
  | refused | unknown | done => exact hs

theorem emptied_newQueryId (b : Books) : Emptied b b.newQueryId.2 := by
  refine emptied_of_slot fun id hs => ?_
  unfold newQueryId
  split
  · exact hs
  · exact hs

/-- **What an operation makes of sound books**: it stays within them, keeps them orderly, and
    empties what leaves the slot. -/
structure Course (b b' : Books) : Prop where
  within : Within b b'
  orderly : b.Orderly → b'.Orderly
  emptied : Emptied b b'

end Books

end StatelessSession
