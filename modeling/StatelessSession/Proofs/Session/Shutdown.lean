import StatelessSession.Proofs.Session.Closed
import StatelessSession.Proofs.Session.Holders

/-!
# A session shuts down once

An abort is scheduled and comes to run later, any number of them in any order, between whatever else
is done. Whoever comes first, a call that closes the session or one of its aborts, sets the flag,
closes the transport and drops the transaction; all others find the flag set and leave again.

* `Session.Counted` -- the transport was closed as often as the flag says.
* `Dropped` -- what becomes of the transaction of a session that closes; `dropped_turn`.
* `Shut` -- what a call to close, or an abort, leaves behind; `shut_turn`.
* **`shutdown`** -- all of it, at every point of a run.

NOT here: what a session answers once it is closed (`Closed`).
-/

namespace StatelessSession

/-! ## 1. One session -/

/-- **The transport was closed as often as the flag says**, after `n` times before. -/
def Session.Counted (n : Nat) (s : Session) : Prop :=
  s.transport.closeCalls = n + if s.closed then 1 else 0

theorem SessionBooks.counted_perform {b : SessionBooks} {n : Nat} (h : b.session.Counted n)
    (a : Action) : (b.perform a).state.session.Counted n := by
  have hp := performed b a
  generalize b.perform a = o at hp ⊢
  -- the flag was down, so the transport was not closed yet
  have hshut (ho : b.session.closed = false) : b.shut.2.1.session.Counted n := by
    have hnone : b.session.transport.closeCalls = n := by
      rw [Session.Counted, ho] at h
      exact h
    show b.session.transport.closeCalls + 1 = n + 1
    rw [hnone]
  cases hp with
  | refused early => exact h
  | answered plain events => exact h
  | managed opened => exact h
  | issued => exact h
  | @prepared sql shape opened fits =>
    show (b.prepareShape sql shape).state.session.Counted n
    rw [session_prepareShape]
    exact h
  | recorded opened alike =>
    rw [Session.Counted, alike.transport, alike.closed]
    exact h
  | pinged opened => exact h
  | closed opened => exact hshut opened
  | unclosed opened => exact hshut opened
  | aborted opened => exact hshut opened

/-- A negotiation closes no transport. -/
theorem closeCalls_negotiate (o : Options) (r : Request) (t : Transport) (signal : Signal) :
    (negotiate o r t signal).transport.closeCalls = t.closeCalls := by
  rw [Negotiation.transport_negotiate]
  rcases Negotiation.transport_facts with h | h | h
  · rw [h]
  · rw [h]
    rfl
  · rw [h]
    exact t.closeCalls_execute _

/-- **Only a call that closes, or an abort, closes an open session**, and each does it the same
way. -/
theorem SessionBooks.shut_of_perform {b : SessionBooks} (ho : b.session.closed = false) {a : Action}
    (hc : (b.perform a).state.session.closed = true) :
    (a = .close ∨ a = .abort) ∧ (b.perform a).state = b.shut.2.1 ∧
      ∀ id, (b.perform a).events.filter (·.ends id) = b.shut.2.2.filter (·.ends id) := by
  have hp := performed b a
  generalize b.perform a = o at hp hc ⊢
  have hopen {α : Prop} {s : Session} (hs : s.closed = b.session.closed) (hc : s.closed = true) :
      α := Bool.noConfusion (hc.symm.trans (hs.trans ho))
  cases hp with
  | refused early => exact hopen rfl hc
  | answered plain events => exact hopen rfl hc
  | managed opened => exact hopen (s := { b.session with manager := _ }) rfl hc
  | issued => exact hopen (congrArg Session.closed (session_newQueryId b)) hc
  | @prepared sql shape opened fits =>
    exact hopen (congrArg Session.closed (session_prepareShape b sql shape)) hc
  | recorded opened alike => exact hopen alike.closed hc
  | pinged opened => exact hopen (s := { b.session with transport := _ }) rfl hc
  | closed opened events told => exact ⟨.inl rfl, rfl, told⟩
  | unclosed opened failure events told => exact ⟨.inl rfl, rfl, told⟩
  | aborted opened events told => exact ⟨.inr rfl, rfl, told⟩

namespace Workspace

/-! ## 2. Turns -/

variable {w w' : Workspace} {i : Nat} {s s' : Session} {id : TransactionId} {events : List Event}

theorem changes_turn (hw : w.Housed) (x : Turn) : Changes w (w.turn x).events (w.turn x).state := by
  cases x with
  | command c => exact changes_step hw c
  | task place =>
    have hrun := changes_runAborts hw w.aborts[place]?.toList
    have hlist : Change (w.runAborts w.aborts[place]?.toList).1 [] (w.runTask place).state :=
      .of_same (fun _ => rfl) rfl rfl
    have hboth := hrun.trans (.one hlist)
    rw [List.append_nil] at hboth
    exact hboth

theorem changes_play (hw : w.Housed) (xs : List Turn) :
    Changes w (w.reported xs) (w.play xs) := by
  induction xs generalizing w with
  | nil => exact .refl w
  | cons x xs ih =>
    have hfirst := changes_turn hw x
    exact hfirst.trans (ih (hfirst.housed hw))

/-! ## 3. How often the transport is closed -/

theorem counted_turn {n : Nat} (hs : w.session? i = some s) (h : s.Counted n) (x : Turn) :
    ∃ s', (w.turn x).state.session? i = some s' ∧ s'.Counted n := by
  obtain ⟨s', hs', hb⟩ := became_of_moved hs (moved_turn w x i)
  refine ⟨s', hs', ?_⟩
  cases hb with
  | same => exact h
  | act l a orders => exact SessionBooks.counted_perform (b := ⟨l, s⟩) h a
  | farSide t unasked => exact unasked.closeCalls.trans h
  | send command statement own r => exact (s.transport.closeCalls_execute r).trans h

theorem counted_play {n : Nat} (hs : w.session? i = some s) (h : s.Counted n) (xs : List Turn) :
    ∃ s', (w.play xs).session? i = some s' ∧ s'.Counted n := by
  refine play_induction (P := fun w => ∃ s', w.session? i = some s' ∧ s'.Counted n)
    (fun w x h => ?_) ⟨s, hs, h⟩ xs
  obtain ⟨s', hs', h'⟩ := h
  exact counted_turn hs' h' x

/-- **A session that opens** is given a transport, and closes it as often as its flag says. -/
theorem counted_of_connect {o : Options} {t : Transport} {signal : Option Signal} {s₀ : Session}
    (hopen : (Session.openWith w.ledger o t (signal.getD .never)).answer = .ok s₀)
    (xs : List Turn) :
    ∃ s, (w.play (.command (.connect o t signal) :: xs)).session? w.sessions.length = some s ∧
      s.Counted t.closeCalls := by
  have hsome : (Session.openWith w.ledger o t (signal.getD .never)).answer.toOption = some s₀ := by
    rw [hopen]
    rfl
  have hnew : (w.turn (.command (.connect o t signal))).state.session? w.sessions.length =
      some s₀ := session?_connect hsome
  have hcounted : s₀.Counted t.closeCalls := by
    rw [(Session.openWith_eq_some hsome).2]
    exact closeCalls_negotiate o _ t _
  exact counted_play hnew hcounted xs

/-! ## 4. What becomes of the transaction -/

variable {j : Nat} {u : Session} {a : SessionBooks.Action}

/-- **What becomes of a transaction as its session closes**: it is in no slot any more, it is
    emptied, and its end is reported once. -/
structure Dropped (w : Workspace) (id : TransactionId) (events : List Event) (w' : Workspace) :
    Prop where
  spent : w'.Spent id
  emptied : w'.ledger.transaction id = Transaction.empty
  told : events.filter (·.ends id) =
    [.transactionEnded .committed id (w.ledger.transaction id).queries]

theorem dropped_of_perform (hw : w.Housed) (hs : w.session? i = some s) (ho : s.closed = false)
    (hid : s.manager.slot = some id)
    (hc : (SessionBooks.perform ⟨w.ledger, s⟩ a).state.session.closed = true)
    (hl : w'.ledger = (SessionBooks.perform ⟨w.ledger, s⟩ a).state.ledger)
    (hput : ∀ k, w'.session? k =
      (w.putSession i (SessionBooks.perform ⟨w.ledger, s⟩ a).state.session).session? k) :
    w.Dropped id (SessionBooks.perform ⟨w.ledger, s⟩ a).events w' := by
  have hchange : Change w (SessionBooks.perform ⟨w.ledger, s⟩ a).events w' :=
    .of_perform hw hs a hl hput
  obtain ⟨-, hstate, htold⟩ := SessionBooks.shut_of_perform (b := ⟨w.ledger, s⟩) ho hc
  have hslot : w.slot? i = some id := (slot?_of_session? hs).trans hid
  have hhas : w.ledger.Has id := hw.has i id hslot
  have hdiscard : (Books.mk w.ledger s.manager).discard =
      ⟨.ok (), (Books.mk w.ledger s.manager).vacate.clear id,
        [(Books.mk w.ledger s.manager).ended .committed id]⟩ := by
    simp only [Books.discard, hid]
  have hvacant : w'.slot? i = none := by
    rw [slot?, hput, session?_putSession (lt_of_session? hs), if_pos rfl, hstate]
    exact SessionBooks.slot_shut ⟨w.ledger, s⟩
  refine ⟨⟨hchange.has hhas, fun k hk => ?_⟩, ?_, ?_⟩
  · rcases hchange.slot hk with hbefore | hnew
    · -- no other session had it
      have hki : k = i := hw.apart k i id hbefore hslot
      subst hki
      cases hvacant.symm.trans hk
    · exact hnew hhas
  · rw [hl, hstate]
    show (Books.mk w.ledger s.manager).discard.state.ledger.transaction id = _
    rw [hdiscard]
    exact (Ledger.transaction_modify hhas _ id).trans (if_pos rfl)
  · rw [htold]
    show (Books.mk w.ledger s.manager).discard.events.filter (·.ends id) = _
    rw [hdiscard]
    exact Books.filter_ended _ _ _

/-- A transaction that a session does not have is left alone by it. -/
theorem transaction_of_perform (hw : w.Housed) (hj : w.session? j = some u)
    (hhas : w.ledger.Has id) (hgone : w.slot? j ≠ some id) (a : SessionBooks.Action) :
    (SessionBooks.perform ⟨w.ledger, u⟩ a).state.ledger.transaction id =
      w.ledger.transaction id := by
  have hslot := slot?_of_session? hj
  have heffect := SessionBooks.effect_perform (b := ⟨w.ledger, u⟩)
    (fun id hid => hw.has j id (hslot.trans hid)) a
  exact heffect.within.others id hhas fun hid => hgone (hslot.trans hid)

/-- Aborts leave alone what is in no slot. -/
theorem transaction_runAborts (hw : w.Housed) (hid : w.Spent id) (is : List Nat) :
    (w.runAborts is).1.ledger.transaction id = w.ledger.transaction id := by
  induction is generalizing w with
  | nil => rfl
  | cons j is ih =>
    unfold runAborts
    cases hj : w.session? j with
    | none => exact ih hw hid
    | some u =>
      have hfirst := change_abort hw hj
      have hrest := ih (hfirst.housed hw) (hfirst.spent hid).1
      exact hrest.trans (transaction_of_perform hw hj hid.has (hid.gone j) .abort)

theorem dropped_runAborts (hw : w.Housed) (hs : w.session? i = some s) (ho : s.closed = false)
    (hid : s.manager.slot = some id) {is : List Nat}
    (hs' : (w.runAborts is).1.session? i = some s') (hc : s'.closed = true) :
    w.Dropped id (w.runAborts is).2 (w.runAborts is).1 := by
  induction is generalizing w with
  | nil =>
    cases Option.some.inj (hs.symm.trans hs')
    exact Bool.noConfusion (ho.symm.trans hc)
  | cons j is ih =>
    unfold runAborts at hs' ⊢
    cases hj : w.session? j with
    | none =>
      rw [hj] at hs'
      exact ih hw hs hs'
    | some u =>
      rw [hj] at hs'
      dsimp only at hs' ⊢
      have hfirst := change_abort hw hj
      have hmid := hfirst.housed hw
      have hput := session?_putSession (i := i) (lt_of_session? hj)
        (SessionBooks.abort ⟨w.ledger, u⟩).state.session
      by_cases hji : j = i
      · -- this abort drops it, and those that follow find it in no slot
        subst hji
        cases Option.some.inj (hs.symm.trans hj)
        have hdrop : w.Dropped id (SessionBooks.abort ⟨w.ledger, s⟩).events
            (w.putBooks j (SessionBooks.abort ⟨w.ledger, s⟩).state) :=
          dropped_of_perform (a := .abort) hw hs ho hid (closed_abort _) rfl fun _ => rfl
        obtain ⟨hspent, hcalm⟩ := (changes_runAborts hmid is).spent hdrop.spent
        refine ⟨hspent, (transaction_runAborts hmid hdrop.spent is).trans hdrop.emptied, ?_⟩
        rw [List.filter_append, hcalm, hdrop.told]
        rfl
      · -- another session's abort leaves it alone
        rw [if_neg hji] at hput
        have hslot : w.slot? i = some id := (slot?_of_session? hs).trans hid
        have hother : w.slot? j ≠ some id := fun hu => hji (hw.apart j i id hu hslot)
        have hcalm : (SessionBooks.abort ⟨w.ledger, u⟩).events.filter (·.ends id) = [] := by
          refine hfirst.calm fun k hk => ?_
          cases hw.apart k i id hk hslot
          exact (slot?_of_session? (hput.trans hs)).trans hid
        have hsame := transaction_of_perform hw hj (hw.has i id hslot) hother .abort
        have hdrop := ih hmid (hput.trans hs) hs'
        refine ⟨hdrop.spent, hdrop.emptied, ?_⟩
        rw [List.filter_append, hcalm, hdrop.told]
        show [Event.transactionEnded .committed id
          (Ledger.transaction (SessionBooks.perform ⟨w.ledger, u⟩ .abort).state.ledger
            id).queries] = _
        rw [hsame]

/-- **Whichever turn closes a session drops its transaction.** -/
theorem dropped_turn (hw : w.Housed) (hs : w.session? i = some s) (ho : s.closed = false)
    (hid : s.manager.slot = some id) {x : Turn} (hs' : (w.turn x).state.session? i = some s')
    (hc : s'.closed = true) : w.Dropped id (w.turn x).events (w.turn x).state := by
  have hrun {is : List Nat} {w' : Workspace} (hl : w'.ledger = (w.runAborts is).1.ledger)
      (hw' : w'.sessions = (w.runAborts is).1.sessions) (hs' : w'.session? i = some s') :
      w.Dropped id (w.runAborts is).2 w' := by
    have hsession (k : Nat) : w'.session? k = (w.runAborts is).1.session? k := by
      rw [session?, session?, hw']
    have hdrop := dropped_runAborts hw hs ho hid ((hsession i).symm.trans hs') hc
    have hspent : w'.Spent id := by
      refine ⟨hl ▸ hdrop.spent.has, fun k hk => hdrop.spent.gone k ?_⟩
      rw [slot?, ← hsession]
      exact hk
    exact ⟨hspent, hl ▸ hdrop.emptied, hdrop.told⟩
  cases x with
  | task place => exact hrun rfl rfl hs'
  | command c =>
    obtain ⟨s'', hs'', hb⟩ := became_step hs c
    cases Option.some.inj (hs''.symm.trans hs')
    have hopen {α : Prop} (hsame : s'.closed = s.closed) : α :=
      Bool.noConfusion (hc.symm.trans (hsame.trans ho))
    cases hb with
    | same => exact hopen rfl
    | farSide t unasked => exact hopen rfl
    | send command statement own r => exact hopen rfl
    | act l a orders =>
      obtain ⟨hclosing, -⟩ := SessionBooks.shut_of_perform (b := ⟨l, s⟩) ho hc
      cases orders with
      | act a =>
        rw [turn, step_act hs] at hs' ⊢
        have hclosed : (SessionBooks.perform ⟨w.ledger, s⟩ a).state.session.closed = true := by
          rw [Option.some.inj ((session?_act_self hs a).symm.trans hs')]
          exact hc
        rw [events_act]
        exact dropped_of_perform hw hs ho hid hclosed (ledger_act w i s a) fun k =>
          session?_act w i k s a
      | rollbackTo n sp => rcases hclosing with ha | ha <;> cases ha
      | release n sp => rcases hclosing with ha | ha <;> cases ha
      | join => exact hrun rfl rfl hs'

/-! ## 5. Calls that close, and aborts that come late -/

/-- **A session that is closed is not closed again.** -/
theorem step_close_of_closed (hs : w.session? i = some s) (hc : s.closed = true) :
    w.step (.onSession i (.act .close)) = ⟨.ok (.answer .done), w, []⟩ := by
  have hsame : w.putBooks i ⟨w.ledger, s⟩ = w := putSession_self hs
  have hclose : SessionBooks.perform ⟨w.ledger, s⟩ .close = ⟨.ok .done, ⟨w.ledger, s⟩, []⟩ := by
    simp only [SessionBooks.perform, SessionBooks.close, if_pos hc]
    rfl
  rw [step_act hs]
  simp only [act, hclose, hsame]
  rfl

/-- **A call to close fails** if and only if it finds the session open, and the transport does not
    close. -/
theorem step_close_eq_error (hs : w.session? i = some s) {e : Failure} :
    (w.step (.onSession i (.act .close))).answer = .error e ↔
      s.closed = false ∧ ∃ te, s.transport.closeError = some te ∧
        e = .session (.closeFailed te) := by
  by_cases hc : s.closed = true
  · rw [step_close_of_closed hs hc]
    constructor
    · intro he
      cases he
    · exact fun h => Bool.noConfusion (hc.symm.trans h.1)
  have ho : s.closed = false := Bool.eq_false_iff.2 hc
  rw [step_act hs]
  cases hte : s.transport.closeError with
  | none =>
    have hdone : (SessionBooks.perform ⟨w.ledger, s⟩ .close).answer = .ok .done := by
      simp only [SessionBooks.perform, SessionBooks.close, SessionBooks.shut, Transport.close, ho,
        hte]
      rfl
    simp only [act, hdone]
    constructor
    · intro he
      cases he
    · rintro ⟨-, te, hte, -⟩
      cases hte
  | some te =>
    have hfailed :
        (SessionBooks.perform ⟨w.ledger, s⟩ .close).answer = .error (.closeFailed te) := by
      simp only [SessionBooks.perform, SessionBooks.close, SessionBooks.shut, Transport.close, ho,
        hte]
      rfl
    simp only [act, hfailed]
    constructor
    · intro he
      cases he
      exact ⟨ho, te, rfl, rfl⟩
    · rintro ⟨-, te', hte', rfl⟩
      cases hte'
      rfl

/-- A call to close leaves the session closed, whatever the transport answers. -/
theorem closed_step_close (hs : w.session? i = some s) :
    ∃ s', (w.step (.onSession i (.act .close))).state.session? i = some s' ∧ s'.closed = true := by
  have hclosed : (SessionBooks.close ⟨w.ledger, s⟩).state.session.closed = true := by
    unfold SessionBooks.close
    split
    · assumption
    · dsimp only
      split
      · rfl
      · rfl
  rw [step_act hs]
  exact ⟨_, session?_act_self hs .close, hclosed⟩

/-- The abort of a session closes it. -/
theorem closed_runTask {place : Nat} (hs : w.session? i = some s)
    (hk : w.aborts[place]? = some i) :
    ∃ s', (w.runTask place).state.session? i = some s' ∧ s'.closed = true := by
  have hput := session?_putSession (i := i) (lt_of_session? hs)
    (SessionBooks.abort ⟨w.ledger, s⟩).state.session
  rw [if_pos rfl] at hput
  refine ⟨_, ?_, closed_abort ⟨w.ledger, s⟩⟩
  simp only [runTask, hk, Option.toList_some, runAborts, hs]
  exact hput

/-- Aborts that are joined close their sessions. -/
theorem closed_join (hs : w.session? i = some s) (hi : i ∈ w.aborts) :
    ∃ s', (w.step .join).state.session? i = some s' ∧ s'.closed = true := by
  rw [(join_eq_play w).1]
  generalize his : w.aborts = is at hi ⊢
  induction is generalizing w s with
  | nil => cases hi
  | cons j is ih =>
    have hrest : (w.turn (.task 0)).state.aborts = is := by
      show w.aborts.eraseIdx 0 = is
      rw [his]
      rfl
    rcases List.mem_cons.1 hi with rfl | hi
    · -- this one closes it, and it stays closed
      have hfirst : w.aborts[0]? = some i := by
        rw [his]
        rfl
      obtain ⟨s', hs', hc⟩ := closed_runTask hs hfirst
      obtain ⟨s'', hs'', hfrozen⟩ := frozen_play hs' hc (List.replicate is.length (.task 0))
      exact ⟨s'', hs'', hfrozen.closed.trans hc⟩
    · obtain ⟨s', hs', -⟩ := became_of_moved hs (moved_turn w (.task 0) i)
      exact ih hs' hrest hi

/-- **An abort that comes to run after its session closed does nothing.** -/
theorem runTask_of_closed {place : Nat} (hs : w.session? i = some s) (hc : s.closed = true)
    (hk : w.aborts[place]? = some i) :
    w.runTask place = ⟨.ok (.number 1), { w with aborts := w.aborts.eraseIdx place }, []⟩ := by
  have hsame : w.putBooks i ⟨w.ledger, s⟩ = w := putSession_self hs
  have habort : SessionBooks.abort ⟨w.ledger, s⟩ = ⟨.ok (), ⟨w.ledger, s⟩, []⟩ := by
    rw [SessionBooks.abort, if_pos hc]
    rfl
  simp only [runTask, hk, Option.toList_some, runAborts, hs, habort, hsame]
  rfl

/-! ## 6. Whole runs -/

/-- **The session with number `i` is shut**: its flag is set, its transport was closed once after
    `n` times before, and it has no transaction. -/
def Shut (w : Workspace) (i n : Nat) : Prop :=
  ∃ s, w.session? i = some s ∧ s.closed = true ∧ s.transport.closeCalls = n + 1 ∧
    s.manager.slot = none

/-- A turn that leaves a session closed leaves it shut. -/
theorem shut_turn {n : Nat} (hw : w.Vacant) (hs : w.session? i = some s) (h : s.Counted n)
    {x : Turn} (hclosed : ∃ s', (w.turn x).state.session? i = some s' ∧ s'.closed = true) :
    (w.turn x).state.Shut i n := by
  obtain ⟨s', hs', hc⟩ := hclosed
  obtain ⟨s'', hs'', hcounted⟩ := counted_turn hs h x
  cases Option.some.inj (hs'.symm.trans hs'')
  rw [Session.Counted, if_pos hc] at hcounted
  exact ⟨s', hs', hc, hcounted, vacant_turn hw x i s' hs' hc⟩

/-- **How the session with number `i` shuts down**, as seen after the turns `past`, where it is `s`;
    it was given the transport `t`. -/
structure ShutsOnce (past : List Turn) (i : Nat) (t : Transport) (s : Session) : Prop where
  /-- The transport was closed once if the session is closed, and not at all if it is open. -/
  calls : s.transport.closeCalls = t.closeCalls + if s.closed then 1 else 0
  /-- A call to close leaves the session shut, whether or not the transport closes. -/
  closing : ((empty.play past).step (.onSession i (.act .close))).state.Shut i t.closeCalls
  /-- The turn that closes the session drops the transaction and reports it as committed, and no
      turn before or after does. -/
  dropped : ∀ x later id s', s.closed = false → s.manager.slot = some id →
    ((empty.play past).turn x).state.session? i = some s' → s'.closed = true →
      s'.manager.slot = none ∧
      ((empty.play past).turn x).state.ledger.transaction id = Transaction.empty ∧
      ∃ e : Event, e.message = "transaction committed" ∧
        e = .transactionEnded .committed id ((empty.play past).ledger.transaction id).queries ∧
        ((empty.play past).turn x).events.filter (·.ends id) = [e] ∧
        (empty.reported (past ++ x :: later)).filter (·.ends id) = [e]
  /-- Only a call that finds the session open and closes it fails, and it does if the transport
      does. -/
  failed : ∀ e, ((empty.play past).step (.onSession i (.act .close))).answer = .error e ↔
    s.closed = false ∧ ∃ te, s.transport.closeError = some te ∧ e = .session (.closeFailed te)
  /-- Every other call answers that all is well, and does nothing. -/
  again : s.closed = true → (empty.play past).step (.onSession i (.act .close)) =
    ⟨.ok (.answer .done), empty.play past, []⟩
  /-- A call to abort has the session closed later, and does nothing else. -/
  scheduled : (empty.play past).step (.onSession i .scheduleAbort) =
    ⟨.ok (.number (empty.play past).aborts.length),
      { empty.play past with aborts := (empty.play past).aborts ++ [i] }, []⟩
  /-- An abort leaves the session shut, whenever it comes to run, and so do all that are joined. -/
  task : ∀ place, (empty.play past).aborts[place]? = some i →
    ((empty.play past).runTask place).state.Shut i t.closeCalls
  joined : i ∈ (empty.play past).aborts →
    ((empty.play past).step .join).state.Shut i t.closeCalls
  /-- An abort that comes late does nothing. -/
  late : ∀ place, (empty.play past).aborts[place]? = some i → s.closed = true →
    (empty.play past).runTask place = ⟨.ok (.number 1),
      { empty.play past with aborts := (empty.play past).aborts.eraseIdx place }, []⟩

/-- **The transaction of a session that closes is reported once in a whole run.** -/
theorem reported_of_dropped {past later : List Turn} {x : Turn} {e : Event}
    (hid : (empty.play past).slot? i = some id)
    (hdrop : (empty.play past).Dropped id ((empty.play past).turn x).events
      ((empty.play past).turn x).state)
    (he : ((empty.play past).turn x).events.filter (·.ends id) = [e]) :
    (empty.reported (past ++ x :: later)).filter (·.ends id) = [e] := by
  have hpast := changes_play housed_empty past
  have hhoused := hpast.housed housed_empty
  -- while it is in a slot it has not been reported
  have hbefore : (empty.reported past).filter (·.ends id) = [] := by
    rcases hpast.calm_or_spent housed_empty id with hcalm | hspent
    · exact hcalm
    · exact absurd hid (hspent.gone i)
  have hafter :=
    ((changes_play ((changes_turn hhoused x).housed hhoused) later).spent hdrop.spent).2
  rw [reported_append, reported, List.filter_append, List.filter_append, hbefore, he, hafter]
  rfl

/-- **A session shuts down once**: whatever is done before and after it opens, and in whatever order
aborts come to run. -/
theorem shutdown {before after : List Turn} {o : Options} {t : Transport} {signal : Option Signal}
    {s₀ s : Session}
    (hopen : (Session.openWith (empty.play before).ledger o t (signal.getD .never)).answer = .ok s₀)
    (hs : (empty.play (before ++ .command (.connect o t signal) :: after)).session?
      (empty.play before).sessions.length = some s) :
    ShutsOnce (before ++ .command (.connect o t signal) :: after)
      (empty.play before).sessions.length t s := by
  have hcalls := counted_of_connect hopen after
  rw [← play_append, hs] at hcalls
  obtain ⟨s', hs', hcounted⟩ := hcalls
  cases Option.some.inj hs'
  generalize before ++ .command (.connect o t signal) :: after = past at hs ⊢
  generalize (empty.play before).sessions.length = i at hs ⊢
  have hhoused : (empty.play past).Housed := (changes_play housed_empty past).housed housed_empty
  have hvacant : (empty.play past).Vacant := vacant_play past
  have hshut (x : Turn) := shut_turn (x := x) hvacant hs hcounted
  have hscheduled : (empty.play past).step (.onSession i .scheduleAbort) =
      (empty.play past).stepSession i s .scheduleAbort := by
    simp only [step, hs]
  refine ⟨hcounted, hshut (.command (.onSession i (.act .close))) (closed_step_close hs),
    fun x later id s' ho hid hs' hc => ?_, fun e => step_close_eq_error hs,
    step_close_of_closed hs, hscheduled, fun place hk => hshut (.task place) (closed_runTask hs hk),
    fun hi => hshut (.command .join) (closed_join hs hi),
    fun place hk hc => runTask_of_closed hs hc hk⟩
  have hdrop := dropped_turn hhoused hs ho hid hs' hc
  have hslot : (empty.play past).slot? i = some id := (slot?_of_session? hs).trans hid
  exact ⟨vacant_turn hvacant x i s' hs' hc, hdrop.emptied, _, rfl, rfl, hdrop.told,
    reported_of_dropped hslot hdrop hdrop.told⟩

/-- A session in manual commit, with two aborts scheduled, before and after it closes. The later one
    runs first, and finds a transport that does not close; the other one and a call to close come
    too late. -/
theorem shutdown_repeated_abort :
    let o := (Options.ofNode (Node.ofHost "h")).set (.serverInfo "UTC" "23.3")
    let t := Transport.ofResponses []
    let before := [.command (.onSession 0 (.act (.setAutocommit false))),
      .command (.onSession 0 .scheduleAbort), .command (.onSession 0 .scheduleAbort),
      .command (.onSession 0 (.failClose (.failed "gone")))]
    let after := [.task 1, .task 0, .command (.onSession 0 (.act .close))]
    let past := .command (.connect o t none) :: before
    ∃ s₀ s s', (Session.openWith Ledger.empty o t .never).answer = .ok s₀ ∧
      (empty.play past).session? 0 = some s ∧ s.closed = false ∧ s.manager.slot.isSome = true ∧
      (empty.play past).aborts = [0, 0] ∧ ShutsOnce past 0 t s ∧
      (empty.play (past ++ after)).session? 0 = some s' ∧ s'.closed = true ∧
      ShutsOnce (past ++ after) 0 t s' := by
  intro o t before after past
  have hopen : ((empty.play past).session? 0).map (fun s => (s.closed, s.manager.slot.isSome)) =
      some (false, true) := by decide +kernel
  obtain ⟨s, hs, he⟩ := Option.map_eq_some_iff.1 hopen
  obtain ⟨ho, hslot⟩ := Prod.mk.inj he
  have haborts : (empty.play past).aborts = [0, 0] := by decide +kernel
  have hclosed : ((empty.play (past ++ after)).session? 0).map (·.closed) = some true := by
    decide +kernel
  obtain ⟨s', hs', hc⟩ := Option.map_eq_some_iff.1 hclosed
  have hopens : (Session.openWith Ledger.empty o t .never).answer.isOk = true := by decide +kernel
  obtain ⟨s₀, hopened⟩ := exists_eq_ok hopens
  exact ⟨s₀, s, s', hopened, hs, ho, hslot, haborts,
    @shutdown [] before o t none s₀ s hopened hs, hs', hc,
    @shutdown [] (before ++ after) o t none s₀ s' hopened hs'⟩

end Workspace

end StatelessSession
