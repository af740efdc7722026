import StatelessSession.Proofs.Transaction.Frame

/-!
# Handles and stacks

A savepoint is looked for by its number alone, and a window is cut to the marker in the caller's
handle. That does no harm since a handle and a stack entry of the same number are the same
savepoint. This file proves it of every bench that commands lead to.

* `Books.Sound` -- the books of one manager and the savepoints handed out so far: the slot holds a
  transaction that began, its stack holds savepoints that this manager handed out, and their numbers
  are below the next one and tell them apart.
* `Bench.Sound` -- the books of each manager are sound, and managers share neither number nor slot.
* `Bench.sound_step`, `sound_of_reached` -- one command keeps that, so every run does.
* `Books.Sound.eq_of_id` -- a handle with the number of a stack entry is that entry.
-/

namespace StatelessSession

/-! ## 1. The books of one manager -/

namespace Books

/-- **The slot, the stack in it and the savepoints handed out agree.** -/
structure Sound (b : Books) (minted : List Savepoint) : Prop where
  has : ∀ id, b.manager.slot = some id → b.ledger.Has id
  stack : ∀ id, b.manager.slot = some id → ∀ s ∈ (b.ledger.transaction id).savepoints,
    s.owner = b.manager.owner ∧ s ∈ minted
  next : ∀ s ∈ minted, s.owner = b.manager.owner → s.id < b.manager.nextSavepoint
  unique : ∀ s ∈ minted, ∀ t ∈ minted, s.owner = b.manager.owner → t.owner = b.manager.owner →
    s.id = t.id → s = t

namespace Sound

variable {b : Books} {minted : List Savepoint} {id : TransactionId}

/-- **A handle with the number of a stack entry is that entry.** -/
theorem eq_of_id (h : b.Sound minted) (hs : b.manager.slot = some id) {e s : Savepoint}
    (he : e ∈ (b.ledger.transaction id).savepoints) (hm : s ∈ minted)
    (ho : s.owner = b.manager.owner) (hid : e.id = s.id) : e = s := by
  obtain ⟨heo, hem⟩ := h.stack id hs e he
  exact h.unique e hem s hm heo ho hid

theorem flag (h : b.Sound minted) (enable : Bool) :
    Sound { b with manager := { b.manager with autocommit := enable } } minted :=
  ⟨h.has, h.stack, h.next, h.unique⟩

/-- Books whose slot is empty say nothing of a stack. -/
theorem of_slot_none (h : b.Sound minted) {b' : Books} (hs : b'.manager.slot = none)
    (ho : b'.manager.owner = b.manager.owner)
    (hn : b'.manager.nextSavepoint = b.manager.nextSavepoint) : b'.Sound minted where
  has id hi := by
    rw [hs] at hi
    cases hi
  stack id hi := by
    rw [hs] at hi
    cases hi
  next := by
    rw [ho, hn]
    exact h.next
  unique := by
    rw [ho]
    exact h.unique

theorem install (h : b.Sound minted) : b.install.Sound minted where
  has id hi := by
    cases hi
    exact Ledger.has_beginTransaction.2 (.inr rfl)
  stack id hi s hs := by
    rw [(fresh_of_install hi).2] at hs
    cases hs
  next := h.next
  unique := h.unique

theorem current (h : b.Sound minted) : b.current.2.Sound minted := by
  unfold Books.current
  split
  · exact h
  · exact h.install

/-- A change of the current transaction that adds nothing to its stack. -/
theorem modify (h : b.Sound minted) (hs : b.manager.slot = some id) {f : Transaction → Transaction}
    (hf : ∀ t, (f t).savepoints ⊆ t.savepoints) :
    Sound { b with ledger := b.ledger.modify id f } minted where
  has id' hi := Ledger.has_modify.2 (h.has id' hi)
  stack id' hi s hm := by
    have hid : id = id' := Option.some.inj (hs.symm.trans hi)
    subst hid
    rw [Ledger.transaction_modify (h.has id hs), if_pos rfl] at hm
    exact h.stack id hs s (hf _ hm)
  next := h.next
  unique := h.unique

/-- A new savepoint on the stack of the current transaction. -/
theorem addSavepoint (h : b.Sound minted) (hs : b.manager.slot = some id) (name : Option String)
    (marker : Nat) :
    Sound
      ⟨b.ledger.modify id
        (·.addSavepoint ⟨b.manager.owner, b.manager.nextSavepoint, name, marker⟩),
        { b.manager with nextSavepoint := b.manager.nextSavepoint + 1 }⟩
      (minted ++ [⟨b.manager.owner, b.manager.nextSavepoint, name, marker⟩]) where
  has id' hi := Ledger.has_modify.2 (h.has id' hi)
  stack id' hi s hm := by
    have hid : id = id' := Option.some.inj (hs.symm.trans hi)
    subst hid
    rw [Ledger.transaction_modify (h.has id hs), if_pos rfl] at hm
    rcases List.mem_append.1 hm with hm | hm
    · obtain ⟨ho, hs⟩ := h.stack id hs s hm
      exact ⟨ho, List.mem_append_left _ hs⟩
    · rw [List.mem_singleton.1 hm]
      exact ⟨rfl, List.mem_append_right _ List.mem_cons_self⟩
  next s hm ho := by
    rcases List.mem_append.1 hm with hm | hm
    · exact Nat.lt_succ_of_lt (h.next s hm ho)
    · rw [List.mem_singleton.1 hm]
      exact Nat.lt_succ_self _
  unique s hs t ht hos hot hid := by
    -- the number of the new savepoint is above that of every older one
    rcases List.mem_append.1 hs with hs | hs <;> rcases List.mem_append.1 ht with ht | ht
    · exact h.unique s hs t ht hos hot hid
    · rw [List.mem_singleton.1 ht] at hid
      exact absurd hid (Nat.ne_of_lt (h.next s hs hos))
    · rw [List.mem_singleton.1 hs] at hid
      exact absurd hid.symm (Nat.ne_of_lt (h.next t ht hot))
    · rw [List.mem_singleton.1 hs, List.mem_singleton.1 ht]

/-! ## 2. Operations -/

theorem discard (h : b.Sound minted) : b.discard.state.Sound minted := by
  unfold Books.discard
  split
  · exact h
  · exact h.of_slot_none rfl rfl rfl

theorem setAutocommit (h : b.Sound minted) (enable : Bool) :
    (b.setAutocommit enable).state.Sound minted := by
  have ho := b.switched_setAutocommit enable
  generalize b.setAutocommit enable = o at ho ⊢
  cases ho with
  | same | unsupported => exact h
  | on => exact (h.flag enable).discard
  | begun => exact (h.flag enable).install
  | kept => exact h.flag enable

theorem finish (h : b.Sound minted) (ending : Ending) :
    (b.finish ending).state.Sound minted := by
  have ho := b.finished_finish ending
  generalize b.finish ending = o at ho ⊢
  cases ho with
  | inAutocommit | unsupported => exact h
  | vacant => exact h.install
  | ended ha hc hs =>
    refine ⟨fun i hi => ?_, fun i hi s hm => ?_, h.next, h.unique⟩
    · exact Ledger.has_modify.2 (h.install.has i hi)
    · rw [transaction_clear_install (h.has _ hs) hi] at hm
      exact h.install.stack i hi s hm

theorem returnTo (h : b.Sound minted) (how : Transaction.Return) (s : Savepoint) :
    (b.returnTo how s).state.Sound minted := by
  have ho := b.tried_returnTo how s
  generalize b.returnTo how s = o at ho ⊢
  cases ho with
  | refused | unknown => exact h
  | @done id t ht hr =>
    have hs := (target_eq_ok ht).2
    refine ⟨fun i hi => ?_, fun i hi e he => ?_, h.next, h.unique⟩
    · exact Ledger.has_modify.2 (h.has i hi)
    · have hid : id = i := Option.some.inj (hs.symm.trans hi)
      subst hid
      rw [Ledger.transaction_modify (h.has id hs), if_pos rfl] at he
      obtain ⟨place, -, rfl⟩ := Option.map_eq_some_iff.1 hr
      exact h.stack id hs e (List.mem_of_mem_take he)

theorem newQueryId (h : b.Sound minted) : b.newQueryId.2.Sound minted := by
  unfold Books.newQueryId
  split
  · exact ⟨h.has, h.stack, h.next, h.unique⟩
  · rename_i id hs
    have h' := h.modify hs (f := (·.addQuery (.issued b.ledger.nextQuery))) fun _ _ hm => hm
    exact ⟨h'.has, h'.stack, h'.next, h'.unique⟩

/-- A savepoint that is set is one more handed out. -/
theorem setSavepoint (h : b.Sound minted) {name : Option String} {s : Savepoint}
    (hs : (b.setSavepoint name).answer = .ok s) :
    (b.setSavepoint name).state.Sound (minted ++ [s]) := by
  obtain ⟨rfl, hb⟩ := setSavepoint_eq_ok hs
  rw [hb]
  exact h.current.addSavepoint b.slot_current name _

/-- What happens within another manager's books does not concern these. -/
theorem elsewhere {l : Ledger} {m n : Manager} {books : Books} {new : List Savepoint}
    (h : Sound ⟨l, n⟩ minted) (hw : Within ⟨l, m⟩ books)
    (hslot : ∀ id, n.slot = some id → m.slot ≠ some id) (hnew : ∀ s ∈ new, s.owner ≠ n.owner) :
    Sound ⟨books.ledger, n⟩ (minted ++ new) where
  has id hi := hw.has id (h.has id hi)
  stack id hi s hs := by
    rw [hw.others id (h.has id hi) (hslot id hi)] at hs
    obtain ⟨ho, hm⟩ := h.stack id hi s hs
    exact ⟨ho, List.mem_append_left _ hm⟩
  next s hs ho := by
    rcases List.mem_append.1 hs with hs | hs
    · exact h.next s hs ho
    · exact absurd ho (hnew s hs)
  unique s hs t ht hos hot hid := by
    rcases List.mem_append.1 hs with hs | hs
    · rcases List.mem_append.1 ht with ht | ht
      · exact h.unique s hs t ht hos hot hid
      · exact absurd hot (hnew t ht)
    · exact absurd hos (hnew s hs)

end Sound

end Books

/-! ## 3. A bench of managers -/

namespace Bench

/-- **What an action of the manager `m` at place `i` makes of a bench**: other books of that
    manager, perhaps a savepoint handed out, perhaps a handle to the current transaction. -/
inductive Acted (b : Bench) (i : Nat) (m : Manager) : Bench → Prop where
  | intro (books : Books) (minted : List Savepoint) (held : List TransactionId)
      (within : Books.Within ⟨b.ledger, m⟩ books)
      (own : ∀ s ∈ minted, s.owner = m.owner)
      (sound : Books.Sound ⟨b.ledger, m⟩ b.savepoints → books.Sound (b.savepoints ++ minted))
      (current : ∀ id ∈ held, m.slot = some id) :
      Acted b i m
        ⟨books.ledger, b.managers.set i books.manager, b.savepoints ++ minted, b.held ++ held⟩

namespace Acted

variable {b : Bench} {i : Nat} {m : Manager}

/-- An action that only changes the books. -/
theorem of_books {books : Books} (hw : Books.Within ⟨b.ledger, m⟩ books)
    (hs : Books.Sound ⟨b.ledger, m⟩ b.savepoints → books.Sound b.savepoints) :
    Acted b i m (b.putBooks i books) := by
  have h := Acted.intro (b := b) (i := i) books [] [] hw (fun s hm => by cases hm)
    (by simpa using hs) (fun id hm => by cases hm)
  simpa [putBooks] using h

/-- An action that changes nothing, but may hold on to the current transaction. -/
theorem of_held (hm : b.managers[i]? = some m) {held : List TransactionId}
    (hc : ∀ id ∈ held, m.slot = some id) : Acted b i m { b with held := b.held ++ held } := by
  have h := Acted.intro (b := b) (i := i) ⟨b.ledger, m⟩ [] held (.refl _)
    (fun s hm => by cases hm) (by simp) hc
  have hset : b.managers.set i m = b.managers := by
    obtain ⟨hi, rfl⟩ := List.getElem?_eq_some_iff.1 hm
    exact List.set_getElem_self hi
  simpa [hset] using h

/-- An action that changes nothing. -/
theorem same (hm : b.managers[i]? = some m) : Acted b i m b := by
  have hc : ∀ id ∈ ([] : List TransactionId), m.slot = some id := fun id hi => by cases hi
  have h := of_held hm hc
  simpa using h

end Acted

/-- **Every action is an operation on the books of its manager.** -/
theorem acted_act {b : Bench} {i : Nat} {m : Manager} (hm : b.managers[i]? = some m) (a : Action) :
    Acted b i m (b.act i ⟨b.ledger, m⟩ a).state := by
  cases a with
  | setAutocommit enable =>
    exact .of_books (Books.within_setAutocommit _ enable) (·.setAutocommit enable)
  | commit => exact .of_books (Books.within_finish _ .committed) (·.finish .committed)
  | rollback => exact .of_books (Books.within_finish _ .rolledBack) (·.finish .rolledBack)
  | setSavepoint name =>
    simp only [act]
    split
    · rename_i e he
      have hs := Books.setSavepoint_eq_error he
      rw [hs]
      exact .of_books (.refl _) id
    · rename_i s hs
      have hw := Books.within_setSavepoint ⟨b.ledger, m⟩ name
      have h := Acted.intro (b := b) (i := i) _ [s] [] hw
        (fun t ht => by
          rw [List.mem_singleton.1 ht, (Books.setSavepoint_eq_ok hs).1]
          exact (Books.within_current ⟨b.ledger, m⟩).owner)
        (·.setSavepoint hs) (fun id hi => by cases hi)
      simpa [putBooks] using h
  | rollbackTo n =>
    simp only [act, withSavepoint]
    split
    · exact .same hm
    · rename_i s _
      exact .of_books (Books.within_returnTo _ .rollback s) (·.returnTo .rollback s)
  | release n =>
    simp only [act, withSavepoint]
    split
    · exact .same hm
    · rename_i s _
      exact .of_books (Books.within_returnTo _ .release s) (·.returnTo .release s)
  | newQueryId => exact .of_books (Books.within_newQueryId _) (·.newQueryId)
  | discard => exact .of_books (Books.within_discard _) (·.discard)
  | hold =>
    simp only [act]
    split
    · exact .same hm
    · rename_i id hs
      refine .of_held hm fun id' hi => ?_
      have hid : id' = id := List.mem_singleton.1 hi
      rw [hid]
      exact hs

/-! ## 4. Every bench that commands lead to -/

/-- **The books of every manager are sound, and managers share neither number nor slot.** -/
structure Sound (b : Bench) : Prop where
  books : ∀ (i : Nat) (m : Manager), b.managers[i]? = some m →
    Books.Sound ⟨b.ledger, m⟩ b.savepoints
  slots : ∀ (i j : Nat) (m n : Manager) (id : TransactionId), b.managers[i]? = some m →
    b.managers[j]? = some n → m.slot = some id → n.slot = some id → i = j
  owners : ∀ (i j : Nat) (m n : Manager), b.managers[i]? = some m → b.managers[j]? = some n →
    m.owner = n.owner → i = j
  owner_lt : ∀ (i : Nat) (m : Manager), b.managers[i]? = some m → m.owner < b.ledger.nextOwner
  minted_lt : ∀ s ∈ b.savepoints, s.owner < b.ledger.nextOwner
  held : ∀ id ∈ b.held, b.ledger.Has id

theorem sound_empty : empty.Sound where
  books i m h := by simp [empty] at h
  slots i j m n id h := by simp [empty] at h
  owners i j m n h := by simp [empty] at h
  owner_lt i m h := by simp [empty] at h
  minted_lt s h := by cases h
  held id h := by cases h

/-- A manager after a change of the one at place `i` is this one or as it was. -/
theorem manager_of_set {ms : List Manager} {i j : Nat} {m n : Manager}
    (h : (ms.set i m)[j]? = some n) : (j = i ∧ n = m) ∨ (j ≠ i ∧ ms[j]? = some n) := by
  rw [List.getElem?_set] at h
  split at h
  · rename_i hij
    split at h
    · exact .inl ⟨hij.symm, (Option.some.inj h).symm⟩
    · cases h
  · rename_i hij
    exact .inr ⟨fun e => hij e.symm, h⟩

/-- A manager after one more came is the new one or as it was. -/
theorem manager_of_append {ms : List Manager} {j : Nat} {m n : Manager}
    (h : (ms ++ [m])[j]? = some n) : ms[j]? = some n ∨ (j = ms.length ∧ n = m) := by
  rw [List.getElem?_append] at h
  split at h
  · exact .inl h
  · rename_i hj
    obtain ⟨hlt, hn⟩ := List.getElem?_eq_some_iff.1 h
    have h0 : j - ms.length = 0 := by simpa using hlt
    refine .inr ⟨by omega, ?_⟩
    simpa [h0] using hn.symm

/-- An action keeps a bench sound. -/
theorem Sound.acted {b b' : Bench} {i : Nat} {m : Manager} (h : b.Sound)
    (hm : b.managers[i]? = some m) (ha : b.Acted i m b') : b'.Sound := by
  obtain ⟨books, minted, held, hw, hown, hs, hc⟩ := ha
  -- the slot of another manager is not the new slot of the one that acted
  have hother : ∀ j n id, j ≠ i → b.managers[j]? = some n → books.manager.slot = some id →
      n.slot ≠ some id := by
    intro j n id hj hn hi hni
    rcases hw.slot id hi with hs | hnew
    · exact hj (h.slots j i n m id hn hm hni hs)
    · exact hnew ((h.books j n hn).has id hni)
  refine ⟨fun j n hn => ?_, fun j k n o id hn ho hni hoi => ?_, fun j k n o hn ho hno => ?_,
    fun j n hn => ?_, fun s hm' => ?_, fun id hi => ?_⟩
  · rcases manager_of_set hn with ⟨rfl, rfl⟩ | ⟨hj, hn⟩
    · exact hs (h.books j m hm)
    · refine (h.books j n hn).elsewhere hw (fun id hni hmi => ?_) fun s hsm hso => ?_
      · exact hj (h.slots j i n m id hn hm hni hmi)
      · exact hj (h.owners j i n m hn hm (hso.symm.trans (hown s hsm)))
  · rcases manager_of_set hn with ⟨rfl, rfl⟩ | ⟨hj, hn'⟩
    · rcases manager_of_set ho with ⟨rfl, rfl⟩ | ⟨hk, ho'⟩
      · rfl
      · exact absurd hoi (hother k o id hk ho' hni)
    · rcases manager_of_set ho with ⟨rfl, rfl⟩ | ⟨hk, ho'⟩
      · exact absurd hni (hother j n id hj hn' hoi)
      · exact h.slots j k n o id hn' ho' hni hoi
  · rcases manager_of_set hn with ⟨rfl, rfl⟩ | ⟨hj, hn'⟩
    · rcases manager_of_set ho with ⟨rfl, rfl⟩ | ⟨hk, ho'⟩
      · rfl
      · exact h.owners j k m o hm ho' (hw.owner.symm.trans hno)
    · rcases manager_of_set ho with ⟨rfl, rfl⟩ | ⟨hk, ho'⟩
      · exact h.owners j k n m hn' hm (hno.trans hw.owner)
      · exact h.owners j k n o hn' ho' hno
  · rw [hw.nextOwner]
    rcases manager_of_set hn with ⟨rfl, rfl⟩ | ⟨-, hn⟩
    · rw [hw.owner]
      exact h.owner_lt j m hm
    · exact h.owner_lt j n hn
  · rw [hw.nextOwner]
    rcases List.mem_append.1 hm' with hm' | hm'
    · exact h.minted_lt s hm'
    · rw [hown s hm']
      exact h.owner_lt i m hm
  · rcases List.mem_append.1 hi with hi | hi
    · exact hw.has id (h.held id hi)
    · exact hw.has id ((h.books i m hm).has id (hc id hi))

/-- A change of the ledger that touches no stack. -/
theorem Sound.ledger {b : Bench} (h : b.Sound) {l : Ledger} {held : List TransactionId}
    (hhas : ∀ id, b.ledger.Has id → l.Has id)
    (hstack : ∀ id, b.ledger.Has id →
      (l.transaction id).savepoints = (b.ledger.transaction id).savepoints)
    (hnext : l.nextOwner = b.ledger.nextOwner) (hheld : ∀ id ∈ held, l.Has id) :
    Sound { b with ledger := l, held := held } where
  books i m hm := by
    have hb := h.books i m hm
    refine ⟨fun id hi => hhas id (hb.has id hi), fun id hi s hs => ?_, hb.next, hb.unique⟩
    exact hb.stack id hi s (hstack id (hb.has id hi) ▸ hs)
  slots := h.slots
  owners := h.owners
  owner_lt i m hm := hnext ▸ h.owner_lt i m hm
  minted_lt s hs := hnext ▸ h.minted_lt s hs
  held := hheld

/-- A new manager has a number of its own and an empty slot. -/
theorem Sound.newManager {b : Bench} (h : b.Sound) (compliant : Bool) :
    (b.step (.newManager compliant)).state.Sound := by
  have hslot : (Books.opened b.ledger compliant).manager.slot = none := rfl
  have howner : (Books.opened b.ledger compliant).manager.owner = b.ledger.nextOwner := rfl
  refine ⟨fun j n hn => ?_, fun j k n o id hn ho hni hoi => ?_, fun j k n o hn ho hno => ?_,
    fun j n hn => ?_, fun s hs => Nat.lt_succ_of_lt (h.minted_lt s hs), h.held⟩
  · rcases manager_of_append hn with hn | ⟨-, rfl⟩
    · have hb := h.books j n hn
      exact ⟨hb.has, hb.stack, hb.next, hb.unique⟩
    · refine ⟨fun id hi => (by cases hi), fun id hi => (by cases hi), fun s hs ho => ?_,
        fun s hs t _ ho => ?_⟩
      · exact absurd ho (Nat.ne_of_lt (h.minted_lt s hs))
      · exact absurd ho (Nat.ne_of_lt (h.minted_lt s hs))
  · rcases manager_of_append hn with hn | ⟨-, rfl⟩
    · rcases manager_of_append ho with ho | ⟨-, rfl⟩
      · exact h.slots j k n o id hn ho hni hoi
      · cases hoi
    · cases hni
  · rcases manager_of_append hn with hn | ⟨rfl, rfl⟩
    · rcases manager_of_append ho with ho | ⟨-, rfl⟩
      · exact h.owners j k n o hn ho hno
      · exact absurd hno (Nat.ne_of_lt (h.owner_lt j n hn))
    · rcases manager_of_append ho with ho | ⟨rfl, -⟩
      · exact absurd hno.symm (Nat.ne_of_lt (h.owner_lt k o ho))
      · rfl
  · rcases manager_of_append hn with hn | ⟨-, rfl⟩
    · exact Nat.lt_succ_of_lt (h.owner_lt j n hn)
    · exact Nat.lt_succ_self _

/-- **Every command keeps a bench sound.** -/
theorem sound_step {b : Bench} (h : b.Sound) (c : Command) : (b.step c).state.Sound := by
  cases c with
  | newManager compliant => exact h.newManager compliant
  | newTransaction =>
    refine h.ledger (fun id hi => Ledger.has_beginTransaction.2 (.inl hi))
      (fun id _ => congrArg _ (Ledger.transaction_beginTransaction b.ledger id)) rfl fun id hi => ?_
    rcases List.mem_append.1 hi with hi | hi
    · exact Ledger.has_beginTransaction.2 (.inl (h.held id hi))
    · exact Ledger.has_beginTransaction.2 (.inr (List.mem_singleton.1 hi))
  | act i a =>
    simp only [step]
    split
    · exact h
    · rename_i m hm
      exact h.acted hm (acted_act hm a)
  | newQueryIn n =>
    simp only [step]
    split
    · exact h
    · rename_i id hn
      have hid := h.held id (List.mem_of_getElem? hn)
      refine h.ledger (fun id' hi => Ledger.has_modify.2 hi) (fun id' hi => ?_) rfl
        fun id' hi => Ledger.has_modify.2 (h.held id' hi)
      show ((b.ledger.issue.2.modify id (·.addQuery b.ledger.issue.1)).transaction id').savepoints =
        (b.ledger.transaction id').savepoints
      rw [Ledger.transaction_modify (show b.ledger.issue.2.Has id from hid)]
      split
      · rename_i e
        rw [e]
        rfl
      · rfl
  | inspect n =>
    simp only [step]
    split
    · exact h
    · exact h

/-- The benches that commands lead to. -/
inductive Reached : Bench → Prop where
  | empty : Reached Bench.empty
  | step {b : Bench} (h : Reached b) (c : Command) : Reached (b.step c).state

/-- **Every bench that commands lead to is sound.** -/
theorem sound_of_reached {b : Bench} (h : Reached b) : b.Sound := by
  induction h with
  | empty => exact sound_empty
  | step _ c ih => exact sound_step ih c

end Bench

end StatelessSession
