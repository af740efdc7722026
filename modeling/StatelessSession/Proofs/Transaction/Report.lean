import StatelessSession.Proofs.Transaction.Validity

/-!
# What is reported of going back to a savepoint

The report is written before the savepoint is looked for. So it says what a manager is about to do,
and not what it did: of an attempt that finds the savepoint it names exactly the query ids that the
attempt takes out of the window, and of one that does not find it the ones that it would have taken.

* `Bench.owns` -- whether the manager at a place set a savepoint.
* `Bench.Told` -- when an attempt is reported, what the report says, and where it is untrue.
* **`told_final`** -- every attempt on every run.

NOT here: the reports of transactions that end, which are true (`Conservation`).
-/

namespace StatelessSession

/-- What the report of going back to a savepoint begins with. -/
def Transaction.Return.heading : Transaction.Return → String
  | .rollback => "rolled back to "
  | .release => "released "

/-- A window is cut at the marker. -/
theorem Books.window_of_cut {b : Books} {minted : List Savepoint} {id : TransactionId}
    {how : Transaction.Return} {s : Savepoint} {t : Transaction} (h : b.Sound minted)
    (hs : b.manager.slot = some id) (hcut : (b.ledger.transaction id).returnTo? how s = some t) :
    window { b with ledger := b.ledger.modify id fun _ => t } = b.window.take s.marker := by
  obtain ⟨place, -, rfl⟩ := Option.map_eq_some_iff.1 hcut
  rw [window_modify h hs _ hs, window_of_slot hs]

namespace Bench

variable {b : Bench} {i n : Nat} {m : Manager} {s : Savepoint} {how : Transaction.Return}

/-- Whether the manager at a place set the savepoint. -/
def owns (b : Bench) (i : Nat) (s : Savepoint) : Prop :=
  ∃ m, b.managers[i]? = some m ∧ s.owner = m.owner

/-- **What comes of an attempt to go back to `s`**, and what is reported of it. -/
structure Told (b : Bench) (i : Nat) (how : Transaction.Return) (s : Savepoint)
    (r : Reaction Bench Reply) : Prop where
  /-- An attempt is reported wherever there is a transaction to look in. -/
  reported_iff : r.events ≠ [] ↔ b.owns i s ∧ b.slot i ≠ none
  /-- There is one report, of the transaction and of the query ids behind the savepoint. -/
  report : r.events ≠ [] → ∃ id, b.slot i = some id ∧
    r.events = [.savepointLeft how id s ((b.window i).drop s.marker)]
  shown : ∀ e ∈ r.events, e.level = .debug ∧ e.message = how.heading ++ s.display
  /-- What succeeds is reported, and takes from the window what the report says. -/
  ok : r.answer = .ok .done → r.events ≠ [] ∧
    b.window i = r.state.window i ++ (b.window i).drop s.marker
  /-- What fails changes nothing. -/
  failed : r.answer ≠ .ok .done → r.state = b
  /-- What fails is reported all the same if the savepoint is not on the stack of the transaction
      in the slot. -/
  untrue_iff : r.events ≠ [] ∧ r.answer ≠ .ok .done ↔
    b.owns i s ∧ b.slot i ≠ none ∧ ∀ id, (id, s) ∉ b.marks i
  unknown : r.events ≠ [] → r.answer ≠ .ok .done →
    r.answer = .error (.session (.unknownSavepoint s))

theorem owns_iff (hm : b.managers[i]? = some m) : b.owns i s ↔ s.owner = m.owner :=
  ⟨fun ⟨_, hm', ho⟩ => Option.some.inj (hm.symm.trans hm') ▸ ho, fun ho => ⟨m, hm, ho⟩⟩

/-- Where there is nothing to look in, or another manager set the savepoint, it is not looked
    for. -/
theorem target_iff (ho : b.Orderly) (hm : b.managers[i]? = some m) :
    (∃ id, Books.target ⟨b.ledger, m⟩ how s = .ok id) ↔ b.owns i s ∧ b.slot i ≠ none := by
  rw [owns_iff hm, slot_of_manager hm]
  constructor
  · intro ⟨id, ht⟩
    obtain ⟨hown, hs⟩ := Books.target_eq_ok ht
    exact ⟨hown, fun hnone => by cases hs.symm.trans hnone⟩
  · intro ⟨hown, hs⟩
    obtain ⟨id, hid⟩ := Option.ne_none_iff_exists'.1 hs
    have hmanual : ¬ m.autocommit = true := fun ha => hs ((ho i m hm).idle ha)
    have hcompliant : m.compliant = true := (ho i m hm).compliant hmanual
    refine ⟨id, ?_⟩
    rw [Books.target, if_neg hmanual, if_neg (by simp [hcompliant]), if_neg (not_not_intro hown),
      hid]

/-- Where there is nothing to look in, an attempt fails in silence. -/
theorem told_of_silent (hno : ¬ (b.owns i s ∧ b.slot i ≠ none)) (e : Failure) :
    Told b i how s ⟨.error e, b, []⟩ where
  reported_iff := iff_of_false (not_not_intro rfl) hno
  report hne := absurd rfl hne
  shown _ he := absurd he List.not_mem_nil
  ok hok := by cases hok
  failed _ := rfl
  untrue_iff := iff_of_false (fun hr => hr.1 rfl) fun hr => hno ⟨hr.1, hr.2.1⟩
  unknown hne := absurd rfl hne

/-- Where there is something to look in, the stack decides what comes of an attempt. -/
theorem told_of_report {id : TransactionId} {r : Reaction Bench Reply} (hown : b.owns i s)
    (hs : b.slot i = some id)
    (he : r.events = [.savepointLeft how id s ((b.window i).drop s.marker)])
    (hcase : (id, s) ∈ b.marks i ∧ r.answer = .ok .done ∧
        b.window i = r.state.window i ++ (b.window i).drop s.marker ∨
      (id, s) ∉ b.marks i ∧ r.answer = .error (.session (.unknownSavepoint s)) ∧ r.state = b) :
    Told b i how s r := by
  have hne : r.events ≠ [] := he ▸ List.cons_ne_nil _ _
  have hslot : b.slot i ≠ none := hs ▸ Option.some_ne_none id
  have hmarks : (∀ id', (id', s) ∉ b.marks i) ↔ (id, s) ∉ b.marks i := by
    refine ⟨fun hno => hno id, fun hno id' hmem => hno ?_⟩
    -- only the transaction in the slot has a stack
    cases Option.some.inj (hs.symm.trans (mem_marks_iff.1 hmem).1)
    exact hmem
  have hshown : ∀ e ∈ r.events, e.level = .debug ∧ e.message = how.heading ++ s.display := by
    intro e hmem
    rw [he, List.mem_singleton] at hmem
    subst hmem
    cases how <;> exact ⟨rfl, rfl⟩
  rcases hcase with ⟨hmem, hok, hwindow⟩ | ⟨hmem, herr, hstate⟩
  · refine ⟨iff_of_true hne ⟨hown, hslot⟩, fun _ => ⟨id, hs, he⟩, hshown,
      fun _ => ⟨hne, hwindow⟩, fun hno => absurd hok hno, ?_, fun _ hno => absurd hok hno⟩
    exact iff_of_false (fun hr => hr.2 hok) fun hr => hmarks.1 hr.2.2 hmem
  · have hno : r.answer ≠ .ok .done := fun hok => by cases herr.symm.trans hok
    refine ⟨iff_of_true hne ⟨hown, hslot⟩, fun _ => ⟨id, hs, he⟩, hshown,
      fun hok => absurd hok hno, fun _ => hstate, ?_, fun _ _ => herr⟩
    exact iff_of_true ⟨hne, hno⟩ ⟨hown, hslot, hmarks.2 hmem⟩

/-- **Every attempt is told of in this way.** -/
theorem told_attempt (h : b.Sound) (ho : b.Orderly) (hn : b.savepoints[n]? = some s)
    (how : Transaction.Return) (i : Nat) : Told b i how s (b.attempt i how n) := by
  cases hm : b.managers[i]? with
  | none =>
    have hr : b.attempt i how n = .missing b .manager := by simp only [attempt, step, hm]
    rw [hr]
    refine told_of_silent ?_ _
    rintro ⟨⟨m, hm', -⟩, -⟩
    cases hm.symm.trans hm'
  | some m =>
    have htarget : (∃ id, Books.target ⟨b.ledger, m⟩ how s = .ok id) ↔
        b.owns i s ∧ b.slot i ≠ none := target_iff ho hm
    have hret := Books.returned_returnTo (h.books i m hm) how (List.mem_of_getElem? hn)
    rw [attempt_eq hm hn]
    generalize Books.returnTo ⟨b.ledger, m⟩ how s = o at hret ⊢
    cases hret with
    | @refused e ht =>
      have hr : b.finished i ⟨.error e, ⟨b.ledger, m⟩, []⟩ = ⟨.error (.session e), b, []⟩ := by
        rw [finished, putBooks_self hm]
      rw [hr]
      refine told_of_silent (fun hyes => ?_) _
      obtain ⟨id, hid⟩ := htarget.2 hyes
      cases hid.symm.trans ht
    | @unknown id ht hmarks =>
      have hr : b.finished i ⟨.error (.unknownSavepoint s), ⟨b.ledger, m⟩,
          [Books.left ⟨b.ledger, m⟩ how id s]⟩ =
          ⟨.error (.session (.unknownSavepoint s)), b, [Books.left ⟨b.ledger, m⟩ how id s]⟩ := by
        rw [finished, putBooks_self hm]
      rw [hr]
      obtain ⟨hown, hs⟩ := Books.target_eq_ok ht
      refine told_of_report ⟨m, hm, hown⟩ ((slot_of_manager hm).trans hs) ?_
        (.inr ⟨marks_of_manager hm ▸ hmarks, rfl, rfl⟩)
      rw [window_of_manager hm]
      rfl
    | @done id t ht hmarks hcut =>
      obtain ⟨hown, hs⟩ := Books.target_eq_ok ht
      refine told_of_report ⟨m, hm, hown⟩ ((slot_of_manager hm).trans hs) ?_
        (.inl ⟨marks_of_manager hm ▸ hmarks, rfl, ?_⟩)
      · rw [window_of_manager hm]
        rfl
      · have hafter := (window_putBooks hm _).trans
          (Books.window_of_cut (h.books i m hm) hs hcut)
        refine (List.take_append_drop s.marker _).symm.trans (congrArg (· ++ _) ?_)
        rw [window_of_manager hm]
        exact hafter.symm

/-- **What is reported of going back to a savepoint**, on every run. -/
theorem told_final (cs : List Command) {n : Nat} {s : Savepoint}
    (hn : (empty.final cs).savepoints[n]? = some s) (how : Transaction.Return) (i : Nat) :
    Told (empty.final cs) i how s ((empty.final cs).attempt i how n) :=
  have hb := reached_final .empty cs
  told_attempt (sound_of_reached hb) (orderly_of_reached hb) hn how i

/-- A rollback to a savepoint that was released is reported with a query id, fails, and leaves the
    query id in the window. -/
theorem told_final_released :
    let b := empty.final [.newManager true, .act 0 (.setAutocommit false),
      .act 0 (.setSavepoint none), .act 0 (.release 0), .act 0 .newQueryId]
    let s := Savepoint.mk 1 1 none 0
    b.savepoints[0]? = some s ∧ Told b 0 .rollback s (b.attempt 0 .rollback 0) ∧
      (b.attempt 0 .rollback 0).answer = .error (.session (.unknownSavepoint s)) ∧
      (b.attempt 0 .rollback 0).events = [.savepointLeft .rollback ⟨0⟩ s [.issued 1]] ∧
      (b.attempt 0 .rollback 0).state.window 0 = [.issued 1] := by
  intro b s
  have hn : b.savepoints[0]? = some s := rfl
  exact ⟨hn, told_final _ hn .rollback 0, rfl, rfl, rfl⟩

end Bench

end StatelessSession
