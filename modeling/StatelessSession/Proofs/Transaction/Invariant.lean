import StatelessSession.Proofs.Transaction.Conservation
import StatelessSession.Proofs.Transaction.Order

/-!
# What holds of every manager at every time

What one operation does to the books of its manager (`Order`), a command does to those of one
manager of a bench and to no others. So all managers of a bench stay orderly on every run, and a
transaction that has left its slot is out of reach of every manager for good.

* `Bench.Change` -- all that a command can make of the managers and the ledger; `change_step` --
  every command makes one of these changes.
* `orderly_step`, `orderly_of_reached` -- one command keeps all managers orderly, so every run does.
* `Gone` -- a transaction that began and is in no slot; `gone_step` -- it stays so; `left_step` -- a
  transaction that leaves its slot is one.
* `smooth_step` -- which branches no command takes.
* **`kept_final`** -- all of it, of every run.

NOT here: which handles are still good (`Handles` says what a handle is), and what was in a window
(`Window`, `Conservation`).
-/

namespace StatelessSession

/-! ## 1. A bench of managers -/

namespace Bench

/-- **All that a command can make of the managers and the ledger.** -/
inductive Change (b : Bench) : Command → Bench → Prop where
  | nothing {c : Command} {b' : Bench} (ledger : b'.ledger = b.ledger)
      (managers : b'.managers = b.managers) : Change b c b'
  | manager {compliant : Bool} {b' : Bench}
      (ledger : b'.ledger = (Books.opened b.ledger compliant).ledger)
      (managers : b'.managers = b.managers ++ [(Books.opened b.ledger compliant).manager]) :
      Change b (.newManager compliant) b'
  | transaction {b' : Bench} (ledger : b'.ledger = b.ledger.beginTransaction.2)
      (managers : b'.managers = b.managers) : Change b .newTransaction b'
  | books {i : Nat} {m : Manager} {a : Action} {books : Books} {b' : Bench}
      (here : b.managers[i]? = some m) (course : Books.Course ⟨b.ledger, m⟩ books)
      (ledger : b'.ledger = books.ledger)
      (managers : b'.managers = b.managers.set i books.manager) : Change b (.act i a) b'
  | query {n : Nat} {id : TransactionId} {b' : Bench} (held : b.held[n]? = some id)
      (ledger : b'.ledger = (b.ledger.issueIn id).2) (managers : b'.managers = b.managers) :
      Change b (.newQueryIn n) b'

variable {b : Bench} {i : Nat} {m : Manager}

theorem change_putBooks {a : Action} {books : Books} (hm : b.managers[i]? = some m)
    (h : Books.Course ⟨b.ledger, m⟩ books) : Change b (.act i a) (b.putBooks i books) :=
  .books hm h rfl rfl

theorem change_act (h : b.Sound) (hm : b.managers[i]? = some m) (a : Action) :
    Change b (.act i a) (b.act i ⟨b.ledger, m⟩ a).state := by
  have hb := h.books i m hm
  cases a with
  | setAutocommit enable =>
    exact change_putBooks hm ⟨Books.within_setAutocommit _ enable,
      fun ho => Books.orderly_setAutocommit ho enable, Books.emptied_setAutocommit hb enable⟩
  | commit =>
    exact change_putBooks hm ⟨Books.within_finish _ .committed,
      fun ho => Books.orderly_finish ho hb .committed, Books.emptied_finish hb .committed⟩
  | rollback =>
    exact change_putBooks hm ⟨Books.within_finish _ .rolledBack,
      fun ho => Books.orderly_finish ho hb .rolledBack, Books.emptied_finish hb .rolledBack⟩
  | setSavepoint name =>
    have hcourse : Books.Course ⟨b.ledger, m⟩ (Books.setSavepoint ⟨b.ledger, m⟩ name).state :=
      ⟨Books.within_setSavepoint _ name, fun ho => Books.orderly_setSavepoint ho hb name,
        Books.emptied_setSavepoint _ name⟩
    simp only [act]
    split
    · exact .books hm hcourse rfl rfl
    · exact .books hm hcourse rfl rfl
  | rollbackTo n =>
    simp only [act, withSavepoint]
    split
    · exact .nothing rfl rfl
    · rename_i s hs
      exact change_putBooks hm ⟨Books.within_returnTo _ .rollback s,
        fun ho => Books.orderly_returnTo ho hb .rollback (List.mem_of_getElem? hs),
        Books.emptied_returnTo _ .rollback s⟩
  | release n =>
    simp only [act, withSavepoint]
    split
    · exact .nothing rfl rfl
    · rename_i s hs
      exact change_putBooks hm ⟨Books.within_returnTo _ .release s,
        fun ho => Books.orderly_returnTo ho hb .release (List.mem_of_getElem? hs),
        Books.emptied_returnTo _ .release s⟩
  | newQueryId =>
    exact change_putBooks hm ⟨Books.within_newQueryId _, fun ho => Books.orderly_newQueryId ho hb,
      Books.emptied_newQueryId _⟩
  | discard =>
    exact change_putBooks hm ⟨Books.within_discard _, Books.orderly_discard,
      Books.emptied_discard hb⟩
  | hold =>
    simp only [act]
    split
    · exact .nothing rfl rfl
    · exact .nothing rfl rfl

/-- **Every command makes one of these changes.** -/
theorem change_step (h : b.Sound) (c : Command) : Change b c (b.step c).state := by
  cases c with
  | newManager compliant => exact .manager rfl rfl
  | newTransaction => exact .transaction rfl rfl
  | act i a =>
    simp only [step]
    split
    · exact .nothing rfl rfl
    · rename_i m hm
      exact change_act h hm a
  | newQueryIn n =>
    simp only [step]
    split
    · exact .nothing rfl rfl
    · rename_i id hn
      exact .query hn rfl rfl
  | inspect n =>
    simp only [step]
    split
    · exact .nothing rfl rfl
    · exact .nothing rfl rfl

/-! ## 2. Every manager is orderly -/

/-- **The books of every manager are orderly.** -/
def Orderly (b : Bench) : Prop :=
  ∀ (i : Nat) (m : Manager), b.managers[i]? = some m → Books.Orderly ⟨b.ledger, m⟩

theorem orderly_empty : empty.Orderly := fun i m h => by simp [empty] at h

/-- Other things in the ledger do not matter, nor does one more query id in the window. -/
theorem orderly_of_ledger {l l' : Ledger} (h : Books.Orderly ⟨l, m⟩)
    (ht : ∀ id, m.slot = some id → l'.transaction id = l.transaction id ∨
      ∃ q, l'.transaction id = (l.transaction id).addQuery q) : Books.Orderly ⟨l', m⟩ where
  flag := h.flag
  idle := h.idle
  stack id hi := by
    show (l'.transaction id).Ordered m.owner m.nextSavepoint
    have hs := h.stack id hi
    rcases ht id hi with he | ⟨q, he⟩
    · rw [he]
      exact hs
    · rw [he]
      exact hs.addQuery q

theorem transaction_issueIn {l : Ledger} {id : TransactionId} (h : l.Has id)
    (id' : TransactionId) : (l.issueIn id).2.transaction id' =
      if id = id' then (l.transaction id).addQuery (.issued l.nextQuery) else l.transaction id' :=
  Ledger.transaction_modify (l := l.issue.2) h _ id'

/-- **Every command keeps all managers orderly.** -/
theorem orderly_step (h : b.Sound) (ho : b.Orderly) (c : Command) : (b.step c).state.Orderly := by
  intro j n hn
  cases change_step h c with
  | nothing hl hms =>
    rw [hl]
    exact ho j n (hms ▸ hn)
  | manager hl hms =>
    rw [hms] at hn
    rw [hl]
    rcases manager_of_append hn with hn | ⟨-, rfl⟩
    · exact orderly_of_ledger (ho j n hn) fun _ _ => .inl rfl
    · exact Books.orderly_of_slot_none (fun _ => rfl) rfl
  | transaction hl hms =>
    rw [hl]
    refine orderly_of_ledger (ho j n (hms ▸ hn)) fun id _ => .inl ?_
    exact Ledger.transaction_beginTransaction b.ledger id
  | @books i m a books _ hm hcourse hl hms =>
    rw [hms] at hn
    rw [hl]
    rcases manager_of_set hn with ⟨rfl, rfl⟩ | ⟨hj, hn⟩
    · exact hcourse.orderly (ho j m hm)
    · refine orderly_of_ledger (ho j n hn) fun id hi => .inl ?_
      refine hcourse.within.others id ((h.books j n hn).has id hi) fun hs => hj ?_
      exact h.slots j i n m id hn hm hi hs
  | @query _ id _ hheld hl hms =>
    rw [hl]
    refine orderly_of_ledger (ho j n (hms ▸ hn)) fun id' _ => ?_
    rw [transaction_issueIn (h.held id (List.mem_of_getElem? hheld))]
    split
    · rename_i e
      exact .inr ⟨_, by rw [e]⟩
    · exact .inl rfl

/-- **The managers of every bench that commands lead to are orderly.** -/
theorem orderly_of_reached (h : Reached b) : b.Orderly := by
  induction h with
  | empty => exact orderly_empty
  | step hr c ih => exact orderly_step (sound_of_reached hr) ih c

theorem reached_final (h : Reached b) (cs : List Command) : Reached (b.final cs) := by
  induction cs generalizing b with
  | nil => exact h
  | cons c cs ih => exact ih (h.step c)

/-! ## 3. Transactions that have left their slot -/

/-- **A transaction that is out of reach of the managers**: it began, and no slot holds it. -/
structure Gone (b : Bench) (id : TransactionId) : Prop where
  has : b.ledger.Has id
  slots : ∀ i, b.slot i ≠ some id

/-- No command forgets a transaction. -/
theorem has_step (h : b.Sound) {id : TransactionId} (hi : b.ledger.Has id) (c : Command) :
    (b.step c).state.ledger.Has id := by
  cases change_step h c with
  | nothing hl _ =>
    rw [hl]
    exact hi
  | manager hl _ =>
    rw [hl]
    exact hi
  | transaction hl _ =>
    rw [hl]
    exact Ledger.has_beginTransaction.2 (.inl hi)
  | books _ hcourse hl _ =>
    rw [hl]
    exact hcourse.within.has id hi
  | query _ hl _ =>
    rw [hl]
    exact Ledger.has_modify.2 hi

/-- **What a slot holds it held before, or it begins now.** -/
theorem slot_step (h : b.Sound) {c : Command} {j : Nat} {id : TransactionId}
    (hs : (b.step c).state.slot j = some id) : b.slot j = some id ∨ ¬ b.ledger.Has id := by
  obtain ⟨n, hn, hni⟩ := Option.bind_eq_some_iff.1 hs
  cases change_step h c with
  | nothing _ hms =>
    rw [hms] at hn
    exact .inl ((slot_of_manager hn).trans hni)
  | manager _ hms =>
    rw [hms] at hn
    rcases manager_of_append hn with hn | ⟨-, rfl⟩
    · exact .inl ((slot_of_manager hn).trans hni)
    · cases hni
  | transaction _ hms =>
    rw [hms] at hn
    exact .inl ((slot_of_manager hn).trans hni)
  | books hm hcourse _ hms =>
    rw [hms] at hn
    rcases manager_of_set hn with ⟨rfl, rfl⟩ | ⟨-, hn⟩
    · rw [slot_of_manager hm]
      exact hcourse.within.slot id hni
    · exact .inl ((slot_of_manager hn).trans hni)
  | query _ _ hms =>
    rw [hms] at hn
    exact .inl ((slot_of_manager hn).trans hni)

/-- **No command brings a transaction back.** -/
theorem gone_step (h : b.Sound) {id : TransactionId} (hg : b.Gone id) (c : Command) :
    (b.step c).state.Gone id where
  has := has_step h hg.has c
  slots j hs := by
    rcases slot_step h hs with hs | hn
    · exact hg.slots j hs
    · exact hn hg.has

/-- **A transaction out of reach changes only through a handle to it.** -/
theorem transaction_step_of_gone (h : b.Sound) {id : TransactionId} (hg : b.Gone id) {c : Command}
    (hc : ∀ n, c = .newQueryIn n → b.held[n]? ≠ some id) :
    (b.step c).state.ledger.transaction id = b.ledger.transaction id := by
  cases change_step h c with
  | nothing hl _ => rw [hl]
  | manager hl _ =>
    rw [hl]
    rfl
  | transaction hl _ =>
    rw [hl]
    exact Ledger.transaction_beginTransaction b.ledger id
  | @books i m _ _ _ hm hcourse hl _ =>
    rw [hl]
    refine hcourse.within.others id hg.has fun hs => hg.slots i ?_
    exact (slot_of_manager hm).trans hs
  | @query n id' _ hheld hl _ =>
    rw [hl, transaction_issueIn (h.held id' (List.mem_of_getElem? hheld)), if_neg]
    intro e
    exact hc n rfl (e ▸ hheld)

/-- **A transaction that leaves its slot is emptied, and out of reach from then on.** -/
theorem left_step (h : b.Sound) {id : TransactionId} {c : Command} (hs : b.slot i = some id)
    (hs' : (b.step c).state.slot i ≠ some id) :
    (b.step c).state.ledger.transaction id = Transaction.empty ∧ (b.step c).state.Gone id := by
  obtain ⟨m, hm, hmi⟩ := Option.bind_eq_some_iff.1 hs
  have hhas : b.ledger.Has id := (h.books i m hm).has id hmi
  have hgone : (b.step c).state.Gone id := by
    refine ⟨has_step h hhas c, fun j hj => ?_⟩
    rcases slot_step h hj with hj' | hn
    · exact hs' (h.eq_of_slot hs hj' ▸ hj)
    · exact hn hhas
  refine ⟨?_, hgone⟩
  -- only an operation of the manager itself can have taken it out of the slot
  have hkept : ∀ {b' : Bench}, (b.step c).state = b' → b'.managers[i]? = some m → False :=
    fun e hm' => hs' (by rw [e, slot_of_manager hm', hmi])
  cases change_step h c with
  | nothing _ hms => exact (hkept rfl (hms ▸ hm)).elim
  | manager _ hms =>
    refine (hkept rfl ?_).elim
    rw [hms, List.getElem?_append_left (List.getElem?_eq_some_iff.1 hm).1]
    exact hm
  | transaction _ hms => exact (hkept rfl (hms ▸ hm)).elim
  | @books j n a books _ hn hcourse hl hms =>
    by_cases hji : j = i
    · subst hji
      cases Option.some.inj (hn.symm.trans hm)
      rw [hl]
      refine hcourse.emptied id hmi fun hb => hs' ?_
      rw [slot, hms, List.getElem?_set_self (List.getElem?_eq_some_iff.1 hm).1]
      exact hb
    · refine (hkept rfl ?_).elim
      rw [hms, List.getElem?_set_ne hji]
      exact hm
  | query _ _ hms => exact (hkept rfl (hms ▸ hm)).elim

/-- What comes later finds it out of reach, and leaves it so. -/
theorem gone_of_mem_moments {cs : List Command} {k : Moment} {id : TransactionId} (h : b.Sound)
    (hg : b.Gone id) (hk : k ∈ b.moments cs) : k.before.Gone id := by
  induction cs generalizing b with
  | nil => cases hk
  | cons c cs ih =>
    rcases List.mem_cons.1 hk with rfl | hk
    · exact hg
    · exact ih (sound_step h c) (gone_step h hg c) hk

/-! ## 4. Every bench -/

/-- The same of a reaction as of an outcome (`Books.Smooth`). -/
structure Smooth (r : Reaction Bench Reply) : Prop where
  supported : ∀ feature, r.answer ≠ .error (.session (.unsupported feature))
  begun : .transactionKept ∉ r.events

theorem smooth_finished {o : Outcome Books Unit} (h : Books.Smooth o) :
    Smooth (b.finished i o) where
  supported feature hf := by
    unfold finished at hf
    cases ha : o.answer with
    | ok u => simp [ha] at hf
    | error e =>
      simp only [ha, Except.error.injEq, Failure.session.injEq] at hf
      exact h.supported feature (ha.trans (congrArg Except.error hf))
  begun := h.begun

theorem smooth_missing (b : Bench) (what : Missing) : Smooth (.missing b what) where
  supported feature hf := by simp [Reaction.missing] at hf
  begun := List.not_mem_nil

theorem smooth_ok {reply : Reply} {events : List Event} (h : .transactionKept ∉ events) :
    Smooth ⟨.ok reply, b, events⟩ where
  supported feature hf := by cases hf
  begun := h

theorem smooth_withSavepoint {n : Nat} {f : Savepoint → Reaction Bench Reply}
    (h : ∀ s, Smooth (f s)) : Smooth (b.withSavepoint n f) := by
  unfold withSavepoint
  split
  · exact smooth_missing b _
  · exact h _

/-- **Only an attempt to turn autocommit on or off meets a branch that complains.** -/
theorem smooth_act (h : Books.Orderly ⟨b.ledger, m⟩) {a : Action}
    (ha : ∀ enable, a ≠ .setAutocommit enable) : Smooth (b.act i ⟨b.ledger, m⟩ a) := by
  cases a with
  | setAutocommit enable => exact absurd rfl (ha enable)
  | commit => exact smooth_finished (Books.smooth_finish h .committed)
  | rollback => exact smooth_finished (Books.smooth_finish h .rolledBack)
  | setSavepoint name =>
    have hs := Books.smooth_setSavepoint h name
    simp only [act]
    split
    · rename_i e he
      refine ⟨fun feature hf => hs.supported feature ?_, hs.begun⟩
      rw [he, Failure.session.inj (Except.error.inj hf)]
    · exact smooth_ok hs.begun
  | rollbackTo n =>
    exact smooth_withSavepoint fun s => smooth_finished (Books.smooth_returnTo h .rollback s)
  | release n =>
    exact smooth_withSavepoint fun s => smooth_finished (Books.smooth_returnTo h .release s)
  | newQueryId => exact smooth_ok List.not_mem_nil
  | discard => exact smooth_finished (Books.smooth_discard _)
  | hold =>
    simp only [act]
    split
    · exact smooth_missing b _
    · exact smooth_ok List.not_mem_nil

theorem smooth_step (ho : b.Orderly) {c : Command}
    (hc : ∀ i enable, c ≠ .act i (.setAutocommit enable)) : Smooth (b.step c) := by
  cases c with
  | newManager compliant => exact smooth_ok List.not_mem_nil
  | newTransaction => exact smooth_ok List.not_mem_nil
  | act i a =>
    simp only [step]
    split
    · exact smooth_missing b _
    · rename_i m hm
      exact smooth_act (ho i m hm) fun enable e => hc i enable (congrArg _ e)
  | newQueryIn n =>
    simp only [step]
    split
    · exact smooth_missing b _
    · exact smooth_ok List.not_mem_nil
  | inspect n =>
    simp only [step]
    split
    · exact smooth_missing b _
    · exact smooth_ok List.not_mem_nil

/-- No command of an orderly bench finds a transaction where one was to begin. -/
theorem not_kept_step (ho : b.Orderly) (c : Command) : .transactionKept ∉ (b.step c).events := by
  by_cases hc : ∃ i enable, c = .act i (.setAutocommit enable)
  · obtain ⟨i, enable, rfl⟩ := hc
    simp only [step]
    split
    · exact List.not_mem_nil
    · rename_i m hm
      exact Books.not_kept_setAutocommit (ho i m hm) enable
  · exact (smooth_step ho fun i enable e => hc ⟨i, enable, e⟩).begun

/-- **What holds at any time of a run.** -/
structure Kept (b : Bench) : Prop where
  /-- Out of compliance a manager is in autocommit, and in autocommit its slot is empty. -/
  flags : ∀ (i : Nat) (m : Manager), b.managers[i]? = some m →
    (m.compliant = false → m.autocommit = true) ∧ (m.autocommit = true → m.slot = none)
  /-- Only turning autocommit on or off can fail for want of a feature. -/
  supported : ∀ c, (∀ i enable, c ≠ .act i (.setAutocommit enable)) →
    ∀ feature, (b.step c).answer ≠ .error (.session (.unsupported feature))
  /-- No transaction is kept where one was to begin. -/
  begun : ∀ c, .transactionKept ∉ (b.step c).events
  /-- The stack of every current transaction is in order. -/
  ordered : ∀ (i : Nat) (m : Manager) id, b.managers[i]? = some m → m.slot = some id →
    (b.ledger.transaction id).Ordered m.owner m.nextSavepoint
  /-- A transaction that leaves its slot is empty; whatever is commanded after that, it comes back
      to no slot, and it changes only as a query id is issued through a handle to it. -/
  left : ∀ i id c, b.slot i = some id → (b.step c).state.slot i ≠ some id →
    (b.step c).state.ledger.transaction id = Transaction.empty ∧
      ∀ cs, ∀ k ∈ (b.step c).state.moments cs,
        (∀ j, k.before.slot j ≠ some id ∧ k.after.slot j ≠ some id) ∧
        ((∀ n, k.command = .newQueryIn n → k.before.held[n]? ≠ some id) →
          k.after.ledger.transaction id = k.before.ledger.transaction id)

/-- **Every run keeps its managers in order**, whatever is commanded of however many managers, with
    whatever savepoints: own ones, used ones and those of other managers. -/
theorem kept_final (cs : List Command) : (empty.final cs).Kept := by
  have hr : Reached (empty.final cs) := reached_final .empty cs
  have hsound := sound_of_reached hr
  have ho := orderly_of_reached hr
  refine ⟨fun i m hm => ⟨(ho i m hm).flag, (ho i m hm).idle⟩,
    fun c hc => (smooth_step ho hc).supported, not_kept_step ho,
    fun i m id hm => (ho i m hm).stack id, fun i id c hs hs' => ?_⟩
  obtain ⟨hempty, hgone⟩ := left_step hsound hs hs'
  refine ⟨hempty, fun cs k hk => ?_⟩
  have hg := gone_of_mem_moments (sound_step hsound c) hgone hk
  have hk' := sound_of_mem_moments (sound_step hsound c) hk
  exact ⟨fun j => ⟨hg.slots j, (gone_step hk' hg k.command).slots j⟩,
    fun hc => transaction_step_of_gone hk' hg hc⟩

end Bench

end StatelessSession
