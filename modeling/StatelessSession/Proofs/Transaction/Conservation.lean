import StatelessSession.Proofs.Transaction.Window

/-!
# No query id is lost

One command keeps the balance of a window (`Moment.balance`). A run is one command after the other,
so it keeps the balance of every query id; and as no query id is handed out twice, each one that was
issued into a slot is in exactly one place at every point of the run.

* `moments`, `final` -- a run with the benches that its commands met, and the bench it leaves.
* `balance_moments` -- the balance of a query id over a run.
* `window_sublist`, `reported_sublist` -- windows and reports keep the order of issue.
* `nodup_answered`, `eq_of_answered` -- no query id is handed out twice.
* **`accounted`** -- what becomes of every query id, on every run.

NOT here: what the reports say of a savepoint that is left (`Event.savepointLeft`); they come before
it is known whether the window will be cut.
-/

namespace StatelessSession

namespace Bench

variable {b : Bench} {i : Nat} {m : Manager}

/-! ## 1. A command hands out the next query id or none -/

/-- No transaction is in two slots. -/
theorem Sound.eq_of_slot (h : b.Sound) {i j : Nat} {id : TransactionId} (hi : b.slot i = some id)
    (hj : b.slot j = some id) : i = j := by
  obtain ⟨m, hm, hmi⟩ := Option.bind_eq_some_iff.1 hi
  obtain ⟨n, hn, hnj⟩ := Option.bind_eq_some_iff.1 hj
  exact h.slots i j m n id hm hn hmi hnj

theorem Acted.nextQuery_le {b' : Bench} (h : b.Acted i m b') :
    b.ledger.nextQuery ≤ b'.ledger.nextQuery := by
  obtain ⟨books, minted, held, hw, -⟩ := h
  exact hw.nextQuery

namespace Moment

theorem answered_finished {a : Action} (hm : b.managers[i]? = some m) {o : Outcome Books Unit}
    (ha : b.act i ⟨b.ledger, m⟩ a = b.finished i o) : answered ⟨b, .act i a⟩ = [] := by
  rw [answered, (reaction_act hm a).trans ha]
  cases ho : o.answer with
  | error e => simp only [finished, ho]
  | ok u => simp only [finished, ho]

theorem answered_returnTo {a : Action} {n : Nat} {how : Transaction.Return}
    (hm : b.managers[i]? = some m) (ha : b.act i ⟨b.ledger, m⟩ a =
      b.withSavepoint n fun s => b.finished i (Books.returnTo ⟨b.ledger, m⟩ how s)) :
    answered ⟨b, .act i a⟩ = [] := by
  cases hs : b.savepoints[n]? with
  | none =>
    rw [answered, (reaction_act hm a).trans ha]
    simp only [withSavepoint, hs, Reaction.missing]
  | some s =>
    have hf : b.act i ⟨b.ledger, m⟩ a = b.finished i (Books.returnTo ⟨b.ledger, m⟩ how s) := by
      rw [ha]
      simp only [withSavepoint, hs]
    exact answered_finished hm hf

/-- A query id that an action hands out is the next one, and it is counted. -/
theorem answered_act (hm : b.managers[i]? = some m) (a : Action) :
    answered ⟨b, .act i a⟩ = [] ∨
      answered ⟨b, .act i a⟩ = [.issued b.ledger.nextQuery] ∧
        b.ledger.nextQuery < (after ⟨b, .act i a⟩).ledger.nextQuery := by
  have hk := reaction_act hm a
  cases a with
  | setAutocommit enable => exact .inl (answered_finished hm rfl)
  | commit => exact .inl (answered_finished hm rfl)
  | rollback => exact .inl (answered_finished hm rfl)
  | discard => exact .inl (answered_finished hm rfl)
  | rollbackTo n => exact .inl (answered_returnTo hm (n := n) rfl)
  | release n => exact .inl (answered_returnTo hm (n := n) rfl)
  | setSavepoint name =>
    refine .inl ?_
    rw [answered, hk]
    cases hs : (Books.setSavepoint ⟨b.ledger, m⟩ name).answer with
    | error e => simp only [act, hs]
    | ok s => simp only [act, hs]
  | newQueryId =>
    cases hs : m.slot with
    | none =>
      refine .inr ⟨?_, ?_⟩
      · simp only [answered, hk, act, Books.newQueryId, hs, Ledger.issue]
      · simp only [after, hk, act, Books.newQueryId, hs, Ledger.issue, putBooks]
        exact Nat.lt_succ_self _
    | some id =>
      refine .inr ⟨?_, ?_⟩
      · simp only [answered, hk, act, Books.newQueryId, hs, Ledger.issueIn, Ledger.issue]
      · simp only [after, hk, act, Books.newQueryId, hs, Ledger.issueIn, Ledger.issue, putBooks,
          Ledger.modify]
        exact Nat.lt_succ_self _
  | hold =>
    refine .inl ?_
    cases hs : m.slot with
    | none => simp only [answered, hk, act, hs, Reaction.missing]
    | some id => simp only [answered, hk, act, hs]

/-- **A command hands out the next query id or none.** -/
theorem answered_eq (k : Moment) :
    k.answered = [] ∨
      k.answered = [.issued k.before.ledger.nextQuery] ∧
        k.before.ledger.nextQuery < k.after.ledger.nextQuery := by
  obtain ⟨b, c⟩ := k
  cases c with
  | newManager compliant => exact .inl rfl
  | newTransaction => exact .inl rfl
  | act j a =>
    cases hm : b.managers[j]? with
    | none => exact .inl (by simp only [answered, reaction, step, hm, Reaction.missing])
    | some m => exact answered_act hm a
  | newQueryIn n =>
    cases hn : b.held[n]? with
    | none => exact .inl (by simp only [answered, reaction, step, hn, Reaction.missing])
    | some id =>
      refine .inr ⟨?_, ?_⟩
      · simp only [answered, reaction, step, hn, Ledger.issueIn, Ledger.issue]
      · simp only [after, reaction, step, hn, Ledger.issueIn, Ledger.issue, Ledger.modify]
        exact Nat.lt_succ_self _
  | inspect n =>
    cases hn : b.held[n]? with
    | none => exact .inl (by simp only [answered, reaction, step, hn, Reaction.missing])
    | some id => exact .inl (by simp only [answered, reaction, step, hn])

/-- The number of the next query id never falls. -/
theorem nextQuery_le (k : Moment) : k.before.ledger.nextQuery ≤ k.after.ledger.nextQuery := by
  obtain ⟨b, c⟩ := k
  cases c with
  | newManager compliant => exact Nat.le_refl _
  | newTransaction => exact Nat.le_refl _
  | act j a =>
    cases hm : b.managers[j]? with
    | none =>
      simp only [after, reaction, step, hm]
      exact Nat.le_refl _
    | some m =>
      rw [after, reaction_act hm]
      exact (acted_act hm a).nextQuery_le
  | newQueryIn n =>
    simp only [after, reaction, step]
    split
    · exact Nat.le_refl _
    · exact Nat.le_succ _
  | inspect n =>
    simp only [after, reaction, step]
    split
    · exact Nat.le_refl _
    · exact Nat.le_refl _

/-- No command asks for a query id of two transactions in slots. -/
theorem eq_of_asksIn {k : Moment} (h : k.before.Sound) {i j : Nat} (hi : k.asksIn i = true)
    (hj : k.asksIn j = true) : i = j := by
  obtain ⟨b, c⟩ := k
  cases c with
  | act l a =>
    cases a with
    | newQueryId =>
      simp only [asksIn, Bool.and_eq_true, decide_eq_true_eq] at hi hj
      exact hi.1.symm.trans hj.1
    | _ => cases hi
  | newQueryIn n =>
    simp only [asksIn, Bool.and_eq_true, decide_eq_true_eq] at hi hj
    obtain ⟨id, hid⟩ := Option.isSome_iff_exists.1 hi.1
    exact h.eq_of_slot hid (hj.2.symm.trans (hi.2.trans hid))
  | _ => cases hi

end Moment

/-! ## 2. Runs -/

/-- The commands of a run with the benches that they met. -/
def moments (b : Bench) : List Command → List Moment
  | [] => []
  | c :: cs => ⟨b, c⟩ :: (b.step c).state.moments cs

/-- The bench that a run leaves. -/
def final (b : Bench) : List Command → Bench
  | [] => b
  | c :: cs => (b.step c).state.final cs

/-- Every command of a run meets a sound bench. -/
theorem sound_of_mem_moments {cs : List Command} {k : Moment} (h : b.Sound)
    (hk : k ∈ b.moments cs) : k.before.Sound := by
  induction cs generalizing b with
  | nil => cases hk
  | cons c cs ih =>
    rcases List.mem_cons.1 hk with rfl | hk
    · exact h
    · exact ih (sound_step h c) hk

/-- **The balance of a query id over a run.** -/
theorem balance_moments (h : b.Sound) (cs : List Command) (i : Nat) (q : QueryId) :
    (b.window i).count q + ((b.moments cs).flatMap (·.issued i)).count q =
      ((b.final cs).window i).count q + ((b.moments cs).flatMap (·.reported i)).flatten.count q +
        ((b.moments cs).flatMap (·.removed i)).flatten.count q := by
  induction cs generalizing b with
  | nil => rfl
  | cons c cs ih =>
    have hone := congrArg (List.count q) (Moment.balance ⟨b, c⟩ h i).flow
    have hrest := ih (sound_step h c)
    simp only [List.count_append] at hone
    simp only [moments, final, List.flatMap_cons, List.flatten_append, List.count_append]
    change _ = ((b.step c).state.window i).count q + _ + _ at hone
    omega

/-- What a command leaves in the window was in it or came in, in this order. -/
theorem window_step_sublist (h : b.Sound) (c : Command) (i : Nat) :
    ((b.step c).state.window i).Sublist (b.window i ++ Moment.issued ⟨b, c⟩ i) := by
  rw [(Moment.balance ⟨b, c⟩ h i).flow, List.append_assoc]
  exact List.sublist_append_left _ _

/-- **The window keeps the order of issue.** -/
theorem window_sublist (h : b.Sound) (cs : List Command) (i : Nat) :
    ((b.final cs).window i).Sublist (b.window i ++ (b.moments cs).flatMap (·.issued i)) := by
  induction cs generalizing b with
  | nil => exact List.sublist_append_left _ _
  | cons c cs ih =>
    show (((b.step c).state.final cs).window i).Sublist _
    rw [moments, List.flatMap_cons, ← List.append_assoc]
    exact (ih (sound_step h c)).trans ((window_step_sublist h c i).append_right _)

/-- **Every report keeps the order of issue**, as it is the window of its time. -/
theorem reported_sublist (h : b.Sound) {cs : List Command} {i : Nat} {k : Moment}
    (hk : k ∈ b.moments cs) {queries : List QueryId} (hq : queries ∈ k.reported i) :
    queries.Sublist (b.window i ++ (b.moments cs).flatMap (·.issued i)) := by
  induction cs generalizing b with
  | nil => cases hk
  | cons c cs ih =>
    rw [moments, List.flatMap_cons, ← List.append_assoc]
    rcases List.mem_cons.1 hk with rfl | hk
    · rw [Moment.eq_window_of_mem_reported h hq, List.append_assoc]
      exact List.sublist_append_left _ _
    · exact (ih (sound_step h c) hk).trans ((window_step_sublist h c i).append_right _)

/-- The query ids that a run hands out come after those handed out before. -/
theorem nextQuery_le_of_mem {cs : List Command} {q : QueryId}
    (hq : q ∈ (b.moments cs).flatMap (·.answered)) :
    ∃ n, b.ledger.nextQuery ≤ n ∧ q = .issued n := by
  induction cs generalizing b with
  | nil => cases hq
  | cons c cs ih =>
    rw [moments, List.flatMap_cons] at hq
    rcases List.mem_append.1 hq with hq | hq
    · rcases Moment.answered_eq ⟨b, c⟩ with ha | ⟨ha, -⟩
      · rw [ha] at hq
        cases hq
      · rw [ha] at hq
        exact ⟨_, Nat.le_refl _, List.mem_singleton.1 hq⟩
    · obtain ⟨n, hn, rfl⟩ := ih hq
      exact ⟨n, Nat.le_trans (Moment.nextQuery_le ⟨b, c⟩) hn, rfl⟩

/-- A query id that a command hands out is not among those handed out later. -/
theorem not_mem_of_mem_answered {c : Command} {cs : List Command} {q : QueryId}
    (hq : q ∈ Moment.answered ⟨b, c⟩) :
    q ∉ ((b.step c).state.moments cs).flatMap (·.answered) := by
  intro hlater
  obtain ⟨n, hn, rfl⟩ := nextQuery_le_of_mem hlater
  rcases Moment.answered_eq ⟨b, c⟩ with ha | ⟨ha, hlt⟩
  · rw [ha] at hq
    cases hq
  · rw [ha] at hq
    have he : n = b.ledger.nextQuery := QueryId.issued.inj (List.mem_singleton.1 hq)
    exact Nat.not_le_of_lt hlt (he ▸ hn)

/-- **No query id is handed out twice.** -/
theorem nodup_answered (b : Bench) (cs : List Command) :
    ((b.moments cs).flatMap (·.answered)).Nodup := by
  induction cs generalizing b with
  | nil => exact List.nodup_nil
  | cons c cs ih =>
    rw [moments, List.flatMap_cons, List.nodup_append]
    refine ⟨?_, ih _, fun q hq q' hq' e => not_mem_of_mem_answered hq (e ▸ hq')⟩
    rcases Moment.answered_eq ⟨b, c⟩ with ha | ⟨ha, -⟩
    · rw [ha]
      exact List.nodup_nil
    · rw [ha]
      exact List.nodup_cons.2 ⟨List.not_mem_nil, List.nodup_nil⟩

/-- Only one command of a run hands out a given query id. -/
theorem eq_of_answered {cs : List Command} {k k' : Moment} {q : QueryId}
    (hk : k ∈ b.moments cs) (hk' : k' ∈ b.moments cs) (hq : q ∈ k.answered)
    (hq' : q ∈ k'.answered) : k = k' := by
  induction cs generalizing b with
  | nil => cases hk
  | cons c cs ih =>
    rcases List.mem_cons.1 hk with rfl | hk <;> rcases List.mem_cons.1 hk' with rfl | hk'
    · rfl
    · exact absurd (List.mem_flatMap.2 ⟨k', hk', hq'⟩) (not_mem_of_mem_answered hq)
    · exact absurd (List.mem_flatMap.2 ⟨k, hk, hq⟩) (not_mem_of_mem_answered hq')
    · exact ih hk hk'

theorem Moment.mem_answered_of_mem_issued {k : Moment} {q : QueryId} (hq : q ∈ k.issued i) :
    k.asksIn i = true ∧ q ∈ k.answered := by
  unfold issued at hq
  split at hq
  · rename_i ha
    exact ⟨ha, hq⟩
  · cases hq

/-- No query id is issued into a slot twice. -/
theorem nodup_issued (b : Bench) (cs : List Command) (i : Nat) :
    ((b.moments cs).flatMap (·.issued i)).Nodup := by
  refine (nodup_answered b cs).sublist ?_
  induction b.moments cs with
  | nil => exact .slnil
  | cons k ks ih =>
    refine List.Sublist.append ?_ ih
    show (if k.asksIn i then k.answered else []).Sublist k.answered
    split
    · exact .refl _
    · exact List.nil_sublist _

/-! ## 3. What becomes of every query id -/

/-- How often a query id is in the window of the manager at place `i`, in what the manager reported
    of transactions that ended, and in what it removed when it went back to a savepoint. -/
def placed (i : Nat) (ks : List Moment) (b : Bench) (q : QueryId) : Nat :=
  (b.window i).count q + (ks.flatMap (·.reported i)).flatten.count q +
    (ks.flatMap (·.removed i)).flatten.count q

/-- **What became of the query ids** on a run with the moments `ks` that left the bench `b`, as far
    as the manager at place `i` is concerned. -/
structure Accounted (i : Nat) (ks : List Moment) (b : Bench) : Prop where
  /-- A query id that was issued into the slot is in exactly one place, exactly once. -/
  once : ∀ q ∈ ks.flatMap (·.issued i), placed i ks b q = 1
  /-- Any other query id is in none. -/
  invented : ∀ q ∉ ks.flatMap (·.issued i), placed i ks b q = 0
  /-- A query id that a command handed out otherwise, as when the slot was empty, is in none. -/
  outside : ∀ k ∈ ks, k.asksIn i = false → ∀ q ∈ k.answered, placed i ks b q = 0
  /-- Nor is one that was issued into the slot of another manager. -/
  apart : ∀ j ≠ i, ∀ q ∈ ks.flatMap (·.issued j), placed i ks b q = 0
  window_order : (b.window i).Sublist (ks.flatMap (·.issued i))
  reported_order : ∀ qs ∈ ks.flatMap (·.reported i), qs.Sublist (ks.flatMap (·.issued i))
  /-- What is removed is the end of the window. -/
  removed_end : ∀ k ∈ ks, ∀ qs ∈ k.removed i, k.before.window i = k.after.window i ++ qs
  /-- Whoever logs the end of a transaction has it in the slot, and lists and counts the whole
      window of the time. -/
  whole : ∀ k ∈ ks, ∀ ending id qs, .transactionEnded ending id qs ∈ k.reaction.events →
    ∃ j a, k.command = .act j a ∧ k.before.slot j = some id ∧ qs = k.before.window j ∧
      (Event.transactionEnded ending id qs).fields = [("tx_id", .text id.display),
        ("statements", .count qs.length), ("query_ids", Event.queryList qs)]

theorem window_empty (i : Nat) : empty.window i = [] := rfl

/-- A query id is placed as often as it was issued into the slot. -/
theorem placed_eq (cs : List Command) (i : Nat) (q : QueryId) :
    placed i (empty.moments cs) (empty.final cs) q =
      if q ∈ (empty.moments cs).flatMap (·.issued i) then 1 else 0 := by
  have h := balance_moments sound_empty cs i q
  rw [window_empty, List.count_nil, Nat.zero_add, (nodup_issued empty cs i).count] at h
  exact h.symm

/-- **No query id is lost, doubled or invented**: on every run from the start, whatever is commanded
    of however many managers, at every point. -/
theorem accounted (cs : List Command) (i : Nat) :
    Accounted i (empty.moments cs) (empty.final cs) := by
  have hout : ∀ q ∉ (empty.moments cs).flatMap (·.issued i),
      placed i (empty.moments cs) (empty.final cs) q = 0 := fun q hq => by
    rw [placed_eq, if_neg hq]
  -- whoever issued an id is the command that handed it out, so nothing else did
  have huniq : ∀ k ∈ empty.moments cs, ∀ q ∈ k.answered,
      q ∈ (empty.moments cs).flatMap (·.issued i) → k.asksIn i = true := by
    intro k hk q hq hiss
    obtain ⟨k', hk', hq'⟩ := List.mem_flatMap.1 hiss
    obtain ⟨ha, hans⟩ := Moment.mem_answered_of_mem_issued hq'
    rw [eq_of_answered hk hk' hq hans]
    exact ha
  refine ⟨fun q hq => ?_, hout, fun k hk ha q hq => ?_, fun j hj q hq => ?_, ?_,
    fun qs hqs => ?_, fun k hk qs hqs => ?_, fun k hk ending id qs he => ?_⟩
  · rw [placed_eq, if_pos hq]
  · refine hout q fun hiss => ?_
    rw [huniq k hk q hq hiss] at ha
    cases ha
  · obtain ⟨k, hk, hqk⟩ := List.mem_flatMap.1 hq
    obtain ⟨ha, hans⟩ := Moment.mem_answered_of_mem_issued hqk
    exact hout q fun hiss => hj <|
      Moment.eq_of_asksIn (sound_of_mem_moments sound_empty hk) ha (huniq k hk q hans hiss)
  · exact window_sublist sound_empty cs i
  · obtain ⟨k, hk, hqk⟩ := List.mem_flatMap.1 hqs
    exact reported_sublist sound_empty hk hqk
  · exact Moment.eq_append_of_mem_removed (sound_of_mem_moments sound_empty hk) hqs
  · obtain ⟨j, a, hc, hs, hw⟩ := Moment.ended_whole k (sound_of_mem_moments sound_empty hk) he
    exact ⟨j, a, hc, hs, hw, rfl⟩

end Bench

end StatelessSession
