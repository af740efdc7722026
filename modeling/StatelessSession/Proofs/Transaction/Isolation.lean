import StatelessSession.Proofs.Transaction.Report

/-!
# Managers keep apart

All managers of a bench share one ledger, and each of them numbers its savepoints from one. So two
managers can have savepoints with the same number, name and marker, and a caller may hand the one to
the other. Two things keep them apart: a manager works on the transaction in its own slot, which no
other has, and it takes back only savepoints that carry its own number.

* `Bench.view` -- all that a manager has: flags, counters, slot, window and stack.
* `Bench.Concerns`, `view_step`, `view_final` -- what else is commanded leaves the view as it is,
  one command or many.
* `minted`, `savepoints_final_eq` -- the handles are the savepoints that were set, in order.
* `owns_final` -- the manager that set a savepoint is the one whose number it carries.
* `attempt_of_foreign` -- what comes of handing a savepoint to another manager.
* **`apart_final`** -- all of it, of every run.

NOT here: what a manager does with its own savepoints (`Validity`, `Report`).
-/

namespace StatelessSession

namespace Bench

variable {b : Bench} {i j n : Nat} {m : Manager} {s : Savepoint} {id : TransactionId}

/-! ## 1. What the others do -/

/-- **All that the manager at a place has**: itself, and the window and the stack in its slot. -/
def view (b : Bench) (j : Nat) : Option (Manager × Option Transaction) :=
  b.managers[j]?.map fun m => (m, m.slot.map b.ledger.transaction)

/-- **The commands that concern the manager at place `j`**: those to itself, the one that makes it,
and a query id that is issued through a handle to the transaction in its slot. -/
def Concerns (b : Bench) (j : Nat) : Command → Prop
  | .newManager _ => j = b.managers.length
  | .act i _ => i = j
  | .newQueryIn n => ∃ id, b.held[n]? = some id ∧ b.slot j = some id
  | .newTransaction | .inspect _ => False

/-- The view is what the manager and the transaction in its slot make it. -/
theorem view_congr {b' : Bench} (hms : b'.managers[j]? = b.managers[j]?)
    (ht : ∀ n id, b.managers[j]? = some n → n.slot = some id →
      b'.ledger.transaction id = b.ledger.transaction id) : b'.view j = b.view j := by
  unfold view
  rw [hms]
  cases hn : b.managers[j]? with
  | none => rfl
  | some n =>
    cases hs : n.slot with
    | none => simp only [Option.map_some, hs, Option.map_none]
    | some id => simp only [Option.map_some, hs, ht n id hn hs]

/-- **A command that does not concern a manager leaves it as it is.** -/
theorem view_step (h : b.Sound) {c : Command} (hc : ¬ b.Concerns j c) :
    (b.step c).state.view j = b.view j := by
  have hchange := change_step h c
  generalize (b.step c).state = b' at hchange ⊢
  cases hchange with
  | nothing hl hms => exact view_congr (by rw [hms]) fun _ _ _ _ => by rw [hl]
  | manager hl hms =>
    refine view_congr ?_ fun _ _ _ _ => by
      rw [hl]
      rfl
    rw [hms]
    rcases Nat.lt_or_gt_of_ne hc with hlt | hgt
    · rw [List.getElem?_append_left hlt]
    · rw [List.getElem?_eq_none (Nat.le_of_lt hgt), List.getElem?_eq_none (by
        rw [List.length_append, List.length_singleton]
        exact hgt)]
  | transaction hl hms =>
    refine view_congr (by rw [hms]) fun _ id _ _ => ?_
    rw [hl, Ledger.transaction_beginTransaction]
  | @books i m _ _ _ hm hcourse hl hms =>
    refine view_congr (by rw [hms, List.getElem?_set_ne hc]) fun n id hn hs => ?_
    rw [hl]
    refine hcourse.within.others id ((h.books j n hn).has id hs) fun hs' => hc ?_
    exact h.slots i j m n id hm hn hs' hs
  | @query _ id _ hheld hl hms =>
    refine view_congr (by rw [hms]) fun n id' hn hs => ?_
    rw [hl, transaction_issueIn (h.held id (List.mem_of_getElem? hheld)), if_neg]
    intro e
    exact hc ⟨id, hheld, (slot_of_manager hn).trans (e ▸ hs)⟩

/-- **However much is commanded of the others**, a manager stays as it is. -/
theorem view_final (h : b.Sound) {cs : List Command}
    (hcs : ∀ k ∈ b.moments cs, ¬ k.before.Concerns j k.command) :
    (b.final cs).view j = b.view j := by
  induction cs generalizing b with
  | nil => rfl
  | cons c cs ih =>
    rw [moments, List.forall_mem_cons] at hcs
    exact (ih (sound_step h c) hcs.2).trans (view_step h hcs.1)

/-- **An operation of a manager leaves every transaction outside its slot as it is**, whether
another manager has it or only a caller holds on to it. -/
theorem transaction_step_of_act (h : b.Sound) (hid : b.ledger.Has id) (hs : b.slot i ≠ some id)
    (a : Action) :
    (b.step (.act i a)).state.ledger.transaction id = b.ledger.transaction id := by
  have hchange := change_step h (.act i a)
  generalize (b.step (.act i a)).state = b' at hchange ⊢
  cases hchange with
  | nothing hl _ => rw [hl]
  | books hm hcourse hl _ =>
    rw [hl]
    exact hcourse.within.others id hid fun hs' => hs ((slot_of_manager hm).trans hs')

/-! ## 2. Who set which savepoint -/

/-- The savepoints that are set in a run, each with the place of the manager that sets it. -/
def minted (b : Bench) (cs : List Command) : List (Nat × Savepoint) :=
  (b.moments cs).filterMap Moment.minted?

theorem minted_cons (b : Bench) (c : Command) (cs : List Command) :
    b.minted (c :: cs) = (Moment.minted? ⟨b, c⟩).toList ++ (b.step c).state.minted cs := by
  rw [minted, moments, List.filterMap_cons]
  cases Moment.minted? ⟨b, c⟩ with
  | none => rfl
  | some p => rfl

/-- What is set was answered by the manager. -/
theorem exists_of_minted? {c : Command} (hs : Moment.minted? ⟨b, c⟩ = some (j, s)) :
    ∃ m name, c = .act j (.setSavepoint name) ∧ b.managers[j]? = some m ∧
      (Books.setSavepoint ⟨b.ledger, m⟩ name).answer = .ok s := by
  unfold Moment.minted? at hs
  split at hs
  · rename_i j' name s' hc ha
    cases hs
    cases hc
    obtain ⟨m, hm, hb⟩ := Moment.answer_setSavepoint_ok ha
    exact ⟨m, name, rfl, hm, hb⟩
  · cases hs

/-- **The handles given out are the savepoints that were set**, in this order. -/
theorem savepoints_final_eq (b : Bench) (cs : List Command) :
    (b.final cs).savepoints = b.savepoints ++ (b.minted cs).map Prod.snd := by
  induction cs generalizing b with
  | nil => exact (List.append_nil _).symm
  | cons c cs ih =>
    rw [minted_cons, List.map_append, ← List.append_assoc, ← savepoints_step_eq]
    exact ih _

/-- A manager remains the one that set its savepoints. -/
theorem owns_step (h : b.Sound) (ho : b.owns j s) (c : Command) : (b.step c).state.owns j s := by
  obtain ⟨m, hm, hs⟩ := ho
  obtain ⟨m', hm', hown⟩ := owner_step h hm c
  exact ⟨m', hm', hs.trans hown.symm⟩

theorem owns_of_minted? (h : b.Sound) {c : Command} (hs : Moment.minted? ⟨b, c⟩ = some (j, s)) :
    (b.step c).state.owns j s := by
  obtain ⟨m, name, -, hm, ha⟩ := exists_of_minted? hs
  have hown : s.owner = m.owner := (Books.marks_setSavepoint (h.books j m hm) ha).2.2.1
  exact owns_step h ⟨m, hm, hown⟩ c

/-- **A savepoint carries the number of the manager that set it.** -/
theorem owns_final (h : b.Sound) {cs : List Command} (hs : (j, s) ∈ b.minted cs) :
    (b.final cs).owns j s := by
  -- what is set in the first step is carried through the rest of the run
  have hkept : ∀ (b : Bench) (cs : List Command), b.Sound → b.owns j s →
      (b.final cs).owns j s := by
    intro b cs hb ho
    induction cs generalizing b with
    | nil => exact ho
    | cons c cs ih => exact ih _ (sound_step hb c) (owns_step hb ho c)
  induction cs generalizing b with
  | nil => cases hs
  | cons c cs ih =>
    rw [minted_cons] at hs
    rcases List.mem_append.1 hs with hs | hs
    · exact hkept _ cs (sound_step h c) (owns_of_minted? h (Option.mem_toList.1 hs))
    · exact ih (sound_step h c) hs

/-- No two managers set one savepoint. -/
theorem eq_of_owns (h : b.Sound) (hi : b.owns i s) (hj : b.owns j s) : i = j := by
  obtain ⟨m, hm, hs⟩ := hi
  obtain ⟨m', hm', hs'⟩ := hj
  exact h.owners i j m m' hm hm' (hs.symm.trans hs')

/-! ## 3. Handing a savepoint to another manager -/

/-- Why the manager at a place does not go back to a savepoint of another manager. -/
def foreignRefusal (b : Bench) (i : Nat) (how : Transaction.Return) (s : Savepoint) :
    SessionError :=
  if b.manual i then .foreignSavepoint s else .inAutocommit (Books.returnAttempt how)

theorem target_of_foreign (ho : b.Orderly) (hm : b.managers[i]? = some m)
    (hforeign : ¬ b.owns i s) (how : Transaction.Return) :
    Books.target ⟨b.ledger, m⟩ how s = .error (b.foreignRefusal i how s) := by
  rw [owns_iff hm] at hforeign
  rw [Books.target, foreignRefusal, manual_of_manager hm]
  cases ha : m.autocommit with
  | true => rfl
  | false =>
    -- in manual commit a manager is compliant, and looks at the number before it looks at the slot
    have hc : m.compliant = true := (ho i m hm).compliant (by simp [ha])
    simp only [hc, hforeign, Bool.false_eq_true, Bool.not_true, Bool.not_false, ite_false,
      ite_true, ne_eq, not_false_eq_true]

/-- **A savepoint of another manager is refused** without a look at the slot: nothing changes, and
nothing is reported. -/
theorem attempt_of_foreign (ho : b.Orderly) (hm : b.managers[i]? = some m)
    (hn : b.savepoints[n]? = some s) (hforeign : ¬ b.owns i s) (how : Transaction.Return) :
    b.attempt i how n = ⟨.error (.session (b.foreignRefusal i how s)), b, []⟩ := by
  have hr : Books.returnTo ⟨b.ledger, m⟩ how s =
      ⟨.error (b.foreignRefusal i how s), ⟨b.ledger, m⟩, []⟩ := by
    rw [Books.returnTo, target_of_foreign ho hm hforeign how]
    rfl
  rw [attempt_eq hm hn, hr, finished, putBooks_self hm]

/-! ## 4. Every run -/

/-- **The managers of a bench keep apart.** `minted` are the savepoints that were set, each with the
    place of the manager that set it. -/
structure Apart (b : Bench) (minted : List (Nat × Savepoint)) : Prop where
  /-- An operation of one manager leaves all that another has as it is. -/
  views : ∀ i a j, i ≠ j → (b.step (.act i a)).state.view j = b.view j
  /-- So do all operations of others, one after the other. -/
  runs : ∀ j cs, (∀ c ∈ cs, ∃ i a, c = .act i a ∧ i ≠ j) → (b.final cs).view j = b.view j
  /-- An operation changes no transaction but the one in the slot of its manager. -/
  transactions : ∀ i a id, b.ledger.Has id → b.slot i ≠ some id →
    (b.step (.act i a)).state.ledger.transaction id = b.ledger.transaction id
  /-- The handles are the savepoints that were set. -/
  handles : b.savepoints = minted.map Prod.snd
  /-- A savepoint carries the number of the manager that set it, and of no other. -/
  owner : ∀ j s, (j, s) ∈ minted → ∀ i, b.owns i s ↔ i = j
  /-- No other manager goes back to it, whatever is on the other's stack or in its slot. -/
  foreign : ∀ n j s, minted[n]? = some (j, s) → ∀ i m, i ≠ j → b.managers[i]? = some m →
    ∀ how, b.attempt i how n = ⟨.error (.session (b.foreignRefusal i how s)), b, []⟩
  kind : ∀ i how s, (b.foreignRefusal i how s).kind = .client
  /-- In manual commit the reason is where the savepoint comes from. -/
  reason : ∀ i how s, b.manual i = true →
    (b.foreignRefusal i how s).detail = "Unsupported type of savepoint: " ++ s.display

/-- A run of commands to other managers concerns nobody else. -/
theorem not_concerns_of_act {cs : List Command} (hcs : ∀ c ∈ cs, ∃ i a, c = .act i a ∧ i ≠ j)
    {k : Moment} (hk : k ∈ b.moments cs) : ¬ k.before.Concerns j k.command := by
  induction cs generalizing b with
  | nil => cases hk
  | cons c cs ih =>
    rw [List.forall_mem_cons] at hcs
    rcases List.mem_cons.1 hk with rfl | hk
    · obtain ⟨i, a, rfl, hne⟩ := hcs.1
      exact hne
    · exact ih hcs.2 hk

/-- **Managers keep apart on every run**, however their operations interleave. -/
theorem apart_final (cs : List Command) : Apart (empty.final cs) (empty.minted cs) := by
  have hr : Reached (empty.final cs) := reached_final .empty cs
  have h := sound_of_reached hr
  have howner : ∀ j s, (j, s) ∈ empty.minted cs → ∀ i, (empty.final cs).owns i s ↔ i = j := by
    intro j s hs i
    have hown := owns_final sound_empty hs
    exact ⟨fun hi => eq_of_owns h hi hown, fun e => e ▸ hown⟩
  have hhandles := savepoints_final_eq empty cs
  refine ⟨fun i a j hne => view_step h hne,
    fun j cs' hcs => view_final h fun k hk => not_concerns_of_act hcs hk,
    fun i a id hid hs => transaction_step_of_act h hid hs a, hhandles, howner,
    fun n j s hn i m hne hm how => ?_, fun i how s => ?_, fun i how s hman => ?_⟩
  · have hsaved : (empty.final cs).savepoints[n]? = some s := by
      rw [hhandles]
      exact (List.getElem?_map).trans (congrArg _ hn)
    have hforeign : ¬ (empty.final cs).owns i s := fun hi =>
      hne ((howner j s (List.mem_of_getElem? hn) i).1 hi)
    exact attempt_of_foreign (orderly_of_reached hr) hm hsaved hforeign how
  · unfold foreignRefusal
    split
    · rfl
    · rfl
  · rw [foreignRefusal, if_pos hman]
    rfl

/-- Two managers with savepoints of the same number, name and marker: each knows its own, and the
    first refuses that of the second also after it has dropped its transaction. -/
example :
    let cs := [.newManager true, .newManager true, .act 0 (.setAutocommit false),
      .act 1 (.setAutocommit false), .act 0 (.setSavepoint (some "a")),
      .act 1 (.setSavepoint (some "a"))]
    empty.minted cs = [(0, ⟨1, 1, some "a", 0⟩), (1, ⟨2, 1, some "a", 0⟩)] ∧
      ((empty.final cs).attempt 0 .rollback 0).answer = .ok .done ∧
      ((empty.final (cs ++ [.act 0 .discard])).attempt 0 .rollback 1).answer =
        .error (.session (.foreignSavepoint ⟨2, 1, some "a", 0⟩)) :=
  ⟨rfl, rfl, rfl⟩

end Bench

end StatelessSession
