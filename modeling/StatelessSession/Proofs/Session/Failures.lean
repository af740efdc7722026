import StatelessSession.Proofs.Session.Slot
import StatelessSession.Proofs.Transaction.Conservation

/-!
# What fails changes nothing

An operation makes its checks before its first change. So what fails leaves everything as it was,
but for what fails after the deed: a session whose transport does not close counts as closed all the
same, and a request that was sent has been sent, whatever comes back.

* `Outcome.Safe`, `Books.safe_operates` -- a manager: what fails changes nothing.
  `Books.finish_of_bare` -- except that ending a transaction where there is none begins one.
* `SessionBooks.failed_perform` -- a session, in which that cannot happen.
* `Workspace.Failed`, `Bench.Failed` -- the state after a failure. `sure_step` -- every command.
* **`failures`** -- every failure on every run of sessions, and of managers.

NOT here: what is reported of a failure (`Report`).
-/

namespace StatelessSession

/-- What fails early changes nothing, and nothing fails late. -/
def Outcome.Safe {σ α : Type} (s : σ) (o : Outcome σ α) : Prop :=
  ∀ e, o.answer = .error e → e.late = false ∧ o.state = s

namespace Outcome

variable {σ α : Type} {s s' : σ} {events : List Event}

theorem safe_ok (x : α) : Safe s ⟨.ok x, s', events⟩ := fun e he => by cases he

theorem safe_error {e : SessionError} (early : e.late = false) :
    Safe (α := α) s ⟨.error e, s, events⟩ := fun e' he => by
  cases he
  exact ⟨early, rfl⟩

end Outcome

/-! ## 1. Managers -/

namespace Books

open Outcome (safe_ok safe_error)

variable {b : Books}

theorem safe_setAutocommit (b : Books) (enable : Bool) : (b.setAutocommit enable).Safe b := by
  have ho := b.switched_setAutocommit enable
  generalize b.setAutocommit enable = o at ho ⊢
  cases ho with
  | unsupported => exact safe_error rfl
  | same | on | begun | kept => exact safe_ok ()

/-- In manual commit without a transaction, of a manager that goes along. -/
def Bare (b : Books) : Prop :=
  b.manager.autocommit = false ∧ b.manager.compliant = true ∧ b.manager.slot = none

theorem safe_finish (h : ¬ b.Bare) (ending : Ending) : (b.finish ending).Safe b := by
  have ho := b.finished_finish ending
  generalize b.finish ending = o at ho ⊢
  cases ho with
  | inAutocommit | unsupported => exact safe_error rfl
  | vacant ha hc hs => exact absurd ⟨Bool.eq_false_iff.2 ha, hc, hs⟩ h
  | ended => exact safe_ok ()

/-- **Ending a transaction where there is none begins one.** -/
theorem finish_of_bare (h : b.Bare) (ending : Ending) :
    (b.finish ending).answer = .error .noTransaction ∧ (b.finish ending).state = b.install := by
  obtain ⟨ha, hc, hs⟩ := h
  simp [finish, ha, hc, hs]

/-- The transaction that began can be ended. -/
theorem finish_install (h : b.Bare) (ending : Ending) :
    (b.install.finish ending).answer = .ok () := by
  obtain ⟨ha, hc, -⟩ := h
  simp [finish, install, ha, hc]

theorem safe_setSavepoint (b : Books) (name : Option String) : (b.setSavepoint name).Safe b := by
  have ho := b.marked_setSavepoint name
  generalize b.setSavepoint name = o at ho ⊢
  cases ho with
  | inAutocommit | unsupported => exact safe_error rfl
  | set => exact safe_ok _

theorem late_of_target {how : Transaction.Return} {s : Savepoint} {e : SessionError}
    (h : b.target how s = .error e) : e.late = false := by
  have ht := b.targeted_target how s
  rw [h] at ht
  cases ht with
  | inAutocommit | unsupported | foreign | vacant => rfl

theorem safe_returnTo (b : Books) (how : Transaction.Return) (s : Savepoint) :
    (b.returnTo how s).Safe b := by
  have ho := b.tried_returnTo how s
  generalize b.returnTo how s = o at ho ⊢
  cases ho with
  | refused ht => exact safe_error (late_of_target ht)
  | unknown => exact safe_error rfl
  | done => exact safe_ok ()

/-- **Where manual commit has a transaction, what fails changes nothing.** -/
theorem safe_operates {α : Type} {o : Outcome Books α} (hb : b.manager.Seated)
    (ho : b.Operates o) : o.Safe b := by
  cases ho with
  | setAutocommit enable => exact safe_setAutocommit b enable
  | finish ending =>
    refine safe_finish (fun hbare => ?_) ending
    exact absurd (hb.1 hbare.2.2) (Bool.eq_false_iff.1 hbare.1)
  | setSavepoint name => exact safe_setSavepoint b name
  | returnTo how s => exact safe_returnTo b how s

end Books

/-! ## 2. Sessions -/

namespace SessionBooks

variable {b : SessionBooks} {a : Action} {e : SessionError}

/-- **What a session fails at changes nothing**, except that it counts as closed if its transport
does not close. -/
theorem failed_perform (hb : b.session.Seated) (he : (b.perform a).answer = .error e) :
    e.late = false ∧ (b.perform a).state = b ∨
      a = .close ∧ b.session.closed = false ∧ (b.perform a).state = b.shut.2.1 ∧
        ∃ te, b.session.transport.closeError = some te ∧ e = .closeFailed te := by
  have hp := performed b a
  generalize b.perform a = o at hp he ⊢
  cases hp with
  | refused early =>
    cases he
    exact .inl ⟨early, rfl⟩
  | answered plain events => cases he
  | @managed _ _ o' opened operates f plain =>
    cases ho : o'.answer with
    | ok x =>
      rw [ho] at he
      cases he
    | error e' =>
      rw [ho] at he
      cases he
      obtain ⟨hlate, hstate⟩ := Books.safe_operates (hb opened) operates e ho
      refine .inl ⟨hlate, ?_⟩
      rw [hstate]
      rfl
  | issued => cases he
  | @prepared sql shape opened fits =>
    cases shape with
    | parameterized query unfit => cases he
    | streaming columns => cases he
  | recorded opened alike events => cases he
  | pinged opened node n => cases he
  | closed opened events => cases he
  | unclosed opened failure events =>
    cases he
    exact .inr ⟨rfl, opened, rfl, _, failure, rfl⟩
  | aborted opened events => cases he

end SessionBooks

/-! ## 3. Statements -/

/-- **A query fails** without an effect, or because what was sent failed. -/
theorem PreparedQuery.failed_execute {q : PreparedQuery} {closed : Bool} {t : Transport}
    {params : List Value} {e : SessionError}
    (h : (q.execute closed t params).answer = .error e) :
    e.late = false ∧ (q.execute closed t params).state = t ∨
      closed = false ∧ ∃ sql te t', q.query.bind params = .ok sql ∧
        t.execute (q.request.withQuery sql (some q.id)) = (.error te, t') ∧
        e = .queryFailed q.id te ∧ (q.execute closed t params).state = t' := by
  unfold execute at h ⊢
  cases closed with
  | true =>
    cases h
    exact .inl ⟨rfl, rfl⟩
  | false =>
    simp only [Bool.false_eq_true, if_false] at h ⊢
    cases hbind : q.query.bind params with
    | error e' =>
      -- what does not fit the placeholders is found before anything is sent
      simp only [hbind] at h ⊢
      cases h
      refine .inl ⟨?_, trivial⟩
      unfold Sql.Query.bind at hbind
      split at hbind
      · cases hbind
      · cases hbind
        rfl
    | ok sql =>
      simp only [hbind] at h ⊢
      rcases hsent : t.execute (q.request.withQuery sql (some q.id)) with ⟨answer, t'⟩
      rw [hsent] at h
      cases answer with
      | ok rs => cases h
      | error te =>
        cases h
        exact .inr ⟨trivial, sql, te, t', rfl, hsent, rfl, rfl⟩

/-- **An insert fails** without an effect, or because what was sent failed; the rows are gone
then. -/
theorem PreparedInsert.failed_execute {q : PreparedInsert} {closed : Bool} {t : Transport}
    {e : SessionError} (h : (q.execute closed t).answer = .error e) :
    e.late = false ∧ (q.execute closed t).state = (q, t) ∨
      closed = false ∧ ∃ te t', t.execute q.shipment = (.error te, t') ∧
        e = .insertFailed q.id te ∧ (q.execute closed t).state = (q.clearRows, t') := by
  unfold execute at h ⊢
  cases closed with
  | true =>
    cases h
    exact .inl ⟨rfl, rfl⟩
  | false =>
    simp only [Bool.false_eq_true, if_false] at h ⊢
    rcases hsent : t.execute q.shipment with ⟨answer, t'⟩
    rw [hsent] at h
    cases answer with
    | ok rs => cases h
    | error te =>
      cases h
      exact .inr ⟨trivial, te, t', rfl, rfl, rfl⟩

theorem PreparedInsert.safe_addRow (q : PreparedInsert) (row : List Value) :
    (q.addRow row).Safe q := by
  unfold addRow
  split
  · exact Outcome.safe_ok ()
  · exact Outcome.safe_error rfl

/-! ## 4. Runs of sessions -/

/-- Whether a failure comes after the deed. -/
def Failure.late : Failure → Bool
  | .missing _ => false
  | .session e => e.late

namespace Workspace

/-- The workspace after a session closed: its transaction is dropped, and its transport was asked
    to close. -/
def closing (w : Workspace) (i : Nat) (s : Session) : Workspace :=
  { w with
    ledger := s.manager.slot.elim w.ledger w.ledger.clear
    sessions := w.sessions.set i (some { s with
      closed := true
      manager := { s.manager with slot := none }
      transport := { s.transport with closeCalls := s.transport.closeCalls + 1 } }) }

/-- **The workspace after a failure.** -/
inductive Failed (w : Workspace) : Command → Failure → Workspace → Prop where
  /-- Nothing was done. -/
  | intact {c : Command} {e : Failure} (early : e.late = false) : Failed w c e w
  /-- The transport did not close. -/
  | close {i : Nat} {s : Session} {te : TransportError} (session : w.session? i = some s)
      (opened : s.closed = false) (failure : s.transport.closeError = some te) :
      Failed w (.onSession i (.act .close)) (.session (.closeFailed te)) (w.closing i s)
  /-- The request of a query was sent. -/
  | query {i j : Nat} {q : PreparedQuery} {s : Session} {params : List Value} {sql : String}
      {te : TransportError} {t : Transport} (statement : w.statement? j = some ⟨i, .query q⟩)
      (session : w.session? i = some s) (opened : s.closed = false)
      (bound : q.query.bind params = .ok sql)
      (sent : s.transport.execute (q.request.withQuery sql (some q.id)) = (.error te, t)) :
      Failed w (.onStatement j (.execute params)) (.session (.queryFailed q.id te))
        (w.putSession i { s with transport := t })
  /-- The rows of an insert were sent. -/
  | insert {i j : Nat} {q : PreparedInsert} {s : Session} {params : List Value}
      {te : TransportError} {t : Transport} (statement : w.statement? j = some ⟨i, .insert q⟩)
      (session : w.session? i = some s) (opened : s.closed = false)
      (sent : s.transport.execute q.shipment = (.error te, t)) :
      Failed w (.onStatement j (.execute params)) (.session (.insertFailed q.id te))
        ((w.putSession i { s with transport := t }).putStatement j
          (some ⟨i, .insert q.clearRows⟩))

variable {w : Workspace} {i j : Nat} {s : Session} {e : Failure}

theorem putBooks_shut (w : Workspace) (i : Nat) (s : Session) :
    w.putBooks i (SessionBooks.shut ⟨w.ledger, s⟩).2.1 = w.closing i s := by
  cases hs : s.manager.slot with
  | none =>
    have hm : { s.manager with slot := none } = s.manager := by rw [← hs]
    have hd : (SessionBooks.books ⟨w.ledger, s⟩).discard.state = ⟨w.ledger, s.manager⟩ := by
      simp only [Books.discard, SessionBooks.books, hs]
      rfl
    simp only [closing, hs, Option.elim_none, hm, SessionBooks.shut, hd]
    rfl
  | some id =>
    have hd : (SessionBooks.books ⟨w.ledger, s⟩).discard.state =
        ⟨w.ledger.clear id, { s.manager with slot := none }⟩ := by
      simp only [Books.discard, SessionBooks.books, hs]
      rfl
    simp only [closing, hs, Option.elim_some, SessionBooks.shut, hd]
    rfl

/-- What can come of a command: if it fails, the workspace is one after a failure. -/
def Sure (w : Workspace) (c : Command) (r : Reaction Workspace Reply) : Prop :=
  ∀ e, r.answer = .error e → Failed w c e r.state

variable {c : Command}

theorem sure_ok {w' : Workspace} {reply : Reply} {events : List Event} :
    Sure w c ⟨.ok reply, w', events⟩ := fun e he => by cases he

theorem sure_missing (what : Missing) : Sure w c (.missing w what) := fun e he => by
  cases he
  exact .intact rfl

theorem sure_act (hw : w.Seated) (hs : w.session? i = some s) {a : SessionBooks.Action}
    (hc : a = .close → c = .onSession i (.act .close)) : Sure w c (w.act i s a) := by
  unfold act
  dsimp only
  split
  · rename_i e' ha
    intro e he
    cases he
    -- of all that a session does, only closing fails with an effect
    rcases SessionBooks.failed_perform (b := ⟨w.ledger, s⟩) (hw i s hs) ha with
      ⟨hlate, hstate⟩ | ⟨rfl, hopen, hstate, te, hte, rfl⟩
    · have hsame : w.putBooks i ⟨w.ledger, s⟩ = w := putSession_self hs
      rw [hstate, hsame]
      exact .intact hlate
    · rw [hstate, putBooks_shut, hc rfl]
      exact .close hs hopen hte
  · exact sure_ok

theorem sure_withSavepoint {n : Nat} {f : Savepoint → Reaction Workspace Reply}
    (hf : ∀ sp, Sure w c (f sp)) : Sure w c (w.withSavepoint n f) := by
  unfold withSavepoint
  split
  · exact sure_missing _
  · exact hf _

theorem sure_stepSession (hw : w.Seated) (hs : w.session? i = some s) (sc : SessionCommand) :
    Sure w (.onSession i sc) (w.stepSession i s sc) := by
  cases sc with
  | act a => exact sure_act hw hs fun ha => by rw [ha]
  | rollbackTo n => exact sure_withSavepoint fun sp => sure_act hw hs fun ha => by cases ha
  | release n => exact sure_withSavepoint fun sp => sure_act hw hs fun ha => by cases ha
  | hold =>
    simp only [stepSession]
    split
    · exact sure_missing _
    · exact sure_ok
  | scheduleAbort => exact sure_ok
  | inspect => exact sure_ok
  | pushResponse response => exact sure_ok
  | setAlive v => exact sure_ok
  | failClose te => exact sure_ok

theorem eq_error_of_mapError {α β : Type} {f : α → β} {x : Except SessionError α}
    (h : (x.map f).mapError Failure.session = .error e) :
    ∃ e', x = .error e' ∧ e = .session e' := by
  cases x with
  | ok a => cases h
  | error e' =>
    cases h
    exact ⟨e', rfl, rfl⟩

theorem sure_execute {p : Prepared} (hp : w.statement? j = some p)
    (hs : w.session? p.session = some s) (params : List Value) :
    Sure w (.onStatement j (.execute params)) (w.execute j p params s) := by
  intro e he
  obtain ⟨i, st⟩ := p
  have hsame : w.putSession i { s with transport := s.transport } = w := putSession_self hs
  cases st with
  | query q =>
    obtain ⟨e', ha, rfl⟩ := eq_error_of_mapError he
    simp only [execute]
    rcases PreparedQuery.failed_execute ha with
      ⟨hlate, hstate⟩ | ⟨hopen, sql, te, t, hbind, hsent, rfl, hstate⟩
    · rw [hstate, hsame]
      exact .intact hlate
    · rw [hstate]
      exact .query hp hs hopen hbind hsent
  | insert q =>
    obtain ⟨e', ha, rfl⟩ := eq_error_of_mapError he
    simp only [execute]
    rcases PreparedInsert.failed_execute ha with
      ⟨hlate, hstate⟩ | ⟨hopen, te, t, hsent, rfl, hstate⟩
    · rw [hstate, hsame, putStatement_self hp]
      exact .intact hlate
    · rw [hstate]
      exact .insert hp hs hopen hsent

theorem sure_stepStatement {p : Prepared} (hp : w.statement? j = some p)
    (sc : StatementCommand) : Sure w (.onStatement j sc) (w.stepStatement j p sc) := by
  obtain ⟨i, st⟩ := p
  cases sc with
  | execute params =>
    simp only [stepStatement]
    split
    · exact sure_missing _
    · rename_i s hs
      exact sure_execute hp hs params
  | addRow row =>
    cases st with
    | query q => exact sure_missing _
    | insert q =>
      intro e he
      obtain ⟨e', ha, rfl⟩ := eq_error_of_mapError he
      obtain ⟨hlate, hstate⟩ := q.safe_addRow row e' ha
      simp only [stepStatement, hstate]
      rw [putStatement_self hp]
      exact .intact hlate
  | clearRows =>
    cases st with
    | query q => exact sure_missing _
    | insert q => exact sure_ok
  | convert toInsert => exact sure_ok
  | inspect => exact sure_ok

/-- **Every command of a workspace in which open sessions have their transactions.** -/
theorem sure_step (hw : w.Seated) (c : Command) : Sure w c (w.step c) := by
  cases c with
  | connect o t signal => exact sure_ok
  | onSession i sc =>
    simp only [step]
    split
    · exact sure_missing _
    · rename_i s hs
      exact sure_stepSession hw hs sc
  | onStatement j sc =>
    simp only [step, onStatement]
    split
    · exact sure_missing _
    · exact sure_ok
    · exact sure_missing _
    · rename_i p hp
      exact sure_stepStatement (Option.join_eq_some_iff.2 hp) _
  | newQueryIn held =>
    simp only [step]
    split
    · exact sure_missing _
    · exact sure_ok
  | inspectHeld held =>
    simp only [step]
    split
    · exact sure_missing _
    · exact sure_ok
  | join => exact sure_ok

end Workspace

/-! ## 5. Runs of managers -/

namespace Bench

/-- Whether an action ends the current transaction and nothing else. -/
def Action.isEnding : Action → Bool
  | .commit | .rollback => true
  | _ => false

/-- Whether a command ends a transaction in manual commit where there is none. -/
def Bare (b : Bench) (c : Command) : Prop :=
  ∃ i a m, c = .act i a ∧ a.isEnding = true ∧ b.managers[i]? = some m ∧ m.autocommit = false ∧
    m.compliant = true ∧ m.slot = none

/-- The bench after a transaction began in the slot of the manager `m` at place `i`. -/
def beginning (b : Bench) (i : Nat) (m : Manager) : Bench :=
  { b with
    ledger := b.ledger.beginTransaction.2
    managers := b.managers.set i { m with slot := some b.ledger.beginTransaction.1 } }

/-- **The bench after a failure.** -/
inductive Failed (b : Bench) : Command → Failure → Bench → Prop where
  /-- Nothing was done. -/
  | intact {c : Command} {e : Failure} (backed : ¬ b.Bare c) : Failed b c e b
  /-- There was no transaction to be ended. One begins, so that the next attempt succeeds. -/
  | begun {i : Nat} {a : Action} {m : Manager} (ending : a.isEnding = true)
      (manager : b.managers[i]? = some m) (manual : m.autocommit = false) (vacant : m.slot = none)
      (fresh : (b.beginning i m).ledger.transaction b.ledger.beginTransaction.1 =
        Transaction.empty)
      (retry : ∀ a', a'.isEnding = true → ((b.beginning i m).step (.act i a')).answer = .ok .done) :
      Failed b (.act i a) (.session .noTransaction) (b.beginning i m)

variable {b : Bench} {i : Nat} {m : Manager} {c : Command}

/-- What can come of a command: if it fails, the bench is one after a failure. -/
def Sure (b : Bench) (c : Command) (r : Reaction Bench Reply) : Prop :=
  ∀ e, r.answer = .error e → Failed b c e r.state

theorem sure_ok {b' : Bench} {reply : Reply} {events : List Event} :
    Sure b c ⟨.ok reply, b', events⟩ := fun e he => by cases he

theorem sure_missing (hc : ¬ b.Bare c) (what : Missing) : Sure b c (.missing b what) :=
  fun _ _ => .intact hc

/-- Only what ends a transaction can find none to end. -/
theorem not_bare {a : Action} (ha : a.isEnding = false) : ¬ b.Bare (.act i a) := by
  rintro ⟨j, a', n, hc, hend, -⟩
  cases hc
  exact absurd hend (ha ▸ Bool.false_ne_true)

theorem not_bare_of_ne (h : ∀ i a, c ≠ .act i a) : ¬ b.Bare c := by
  rintro ⟨j, a, n, hc, -⟩
  exact h j a hc

theorem eq_error_of_finished {o : Outcome Books Unit} {e : Failure}
    (h : (b.finished i o).answer = .error e) : ∃ e', o.answer = .error e' ∧ e = .session e' := by
  unfold finished at h
  cases ha : o.answer with
  | ok u =>
    rw [ha] at h
    cases h
  | error e' =>
    rw [ha] at h
    cases h
    exact ⟨e', rfl, rfl⟩

/-- An operation that fails without an effect. -/
theorem sure_finished (hm : b.managers[i]? = some m) {o : Outcome Books Unit}
    (hc : ¬ b.Bare c) (ho : o.Safe ⟨b.ledger, m⟩) : Sure b c (b.finished i o) := by
  intro e he
  obtain ⟨e', ha, rfl⟩ := eq_error_of_finished he
  rw [finished, (ho e' ha).2, putBooks_self hm]
  exact .intact hc

theorem sure_withSavepoint {n : Nat} {f : Savepoint → Reaction Bench Reply}
    (hc : ¬ b.Bare c) (hf : ∀ s, Sure b c (f s)) : Sure b c (b.withSavepoint n f) := by
  unfold withSavepoint
  split
  · exact sure_missing hc _
  · exact hf _

/-- The transaction that began can be ended. -/
theorem step_beginning (hm : b.managers[i]? = some m) (h : Books.Bare ⟨b.ledger, m⟩) {a : Action}
    (ha : a.isEnding = true) : ((b.beginning i m).step (.act i a)).answer = .ok .done := by
  have hm' : (b.beginning i m).managers[i]? =
      some { m with slot := some b.ledger.beginTransaction.1 } :=
    List.getElem?_set_self (List.getElem?_eq_some_iff.1 hm).1
  have hdone (ending : Ending) := (answer_finished (b := b.beginning i m) (i := i)).2
    (Books.finish_install h ending)
  simp only [step, hm']
  cases a with
  | commit => exact hdone .committed
  | rollback => exact hdone .rolledBack
  | _ => cases ha

theorem sure_finish (hm : b.managers[i]? = some m) (ending : Ending) {a : Action}
    (ha : a.isEnding = true) :
    Sure b (.act i a) (b.finished i (Books.finish ⟨b.ledger, m⟩ ending)) := by
  by_cases hbare : Books.Bare ⟨b.ledger, m⟩
  · -- here the books change though the answer is an error, so nothing is `Safe`
    intro e he
    obtain ⟨hanswer, hstate⟩ := Books.finish_of_bare hbare ending
    obtain ⟨e', he', rfl⟩ := eq_error_of_finished he
    cases hanswer.symm.trans he'
    rw [finished, hstate]
    exact .begun ha hm hbare.1 hbare.2.2 (Books.fresh_of_install (b := ⟨b.ledger, m⟩) rfl).2
      fun a' ha' => step_beginning hm hbare ha'
  · refine sure_finished hm ?_ (Books.safe_finish hbare ending)
    rintro ⟨j, a', n, hc, -, hn, hbare'⟩
    cases hc
    cases Option.some.inj (hm.symm.trans hn)
    exact hbare hbare'

theorem sure_act (hm : b.managers[i]? = some m) (a : Action) :
    Sure b (.act i a) (b.act i ⟨b.ledger, m⟩ a) := by
  cases a with
  | setAutocommit enable =>
    exact sure_finished hm (not_bare rfl) (Books.safe_setAutocommit _ enable)
  | commit => exact sure_finish hm .committed rfl
  | rollback => exact sure_finish hm .rolledBack rfl
  | setSavepoint name =>
    simp only [act]
    split
    · rename_i e hs
      intro e' he
      rw [(Books.safe_setSavepoint _ name e hs).2, putBooks_self hm]
      exact .intact (not_bare rfl)
    · exact sure_ok
  | rollbackTo n =>
    exact sure_withSavepoint (not_bare rfl) fun s =>
      sure_finished hm (not_bare rfl) (Books.safe_returnTo _ .rollback s)
  | release n =>
    exact sure_withSavepoint (not_bare rfl) fun s =>
      sure_finished hm (not_bare rfl) (Books.safe_returnTo _ .release s)
  | newQueryId => exact sure_ok
  | discard =>
    refine sure_finished hm (not_bare rfl) ?_
    unfold Books.discard
    split
    · exact Outcome.safe_ok ()
    · exact Outcome.safe_ok ()
  | hold =>
    simp only [act]
    split
    · exact sure_missing (not_bare rfl) _
    · exact sure_ok

/-- **Every command of a bench.** -/
theorem sure_step (b : Bench) (c : Command) : Sure b c (b.step c) := by
  cases c with
  | newManager compliant => exact sure_ok
  | newTransaction => exact sure_ok
  | act i a =>
    cases hm : b.managers[i]? with
    | some m =>
      simp only [step, hm]
      exact sure_act hm a
    | none =>
      simp only [step, hm]
      refine sure_missing ?_ _
      rintro ⟨j, a', n, hc, -, hn, -⟩
      cases hc
      cases hm.symm.trans hn
  | newQueryIn held =>
    simp only [step]
    split
    · exact sure_missing (not_bare_of_ne fun _ _ hc => by cases hc) _
    · exact sure_ok
  | inspect held =>
    simp only [step]
    split
    · exact sure_missing (not_bare_of_ne fun _ _ hc => by cases hc) _
    · exact sure_ok

end Bench

/-- **What fails changes nothing**: on every run of sessions, except that a session closes even if
its transport does not and that what was sent is not unsent; and on every bench of managers, except
that ending a transaction where there is none begins one, so that the next attempt succeeds. -/
theorem failures :
    (∀ cs c e, ((Workspace.empty.final cs).step c).answer = .error e →
      Workspace.Failed (Workspace.empty.final cs) c e ((Workspace.empty.final cs).step c).state) ∧
    ∀ (b : Bench) c e, (b.step c).answer = .error e → Bench.Failed b c e (b.step c).state :=
  ⟨fun cs c e he => Workspace.sure_step (Workspace.seated_final cs) c e he,
    fun b c e he => Bench.sure_step b c e he⟩

/-- A session whose transport does not close, and a manager that lost its transaction. -/
theorem failures_close_commit :
    let o := (Options.ofNode (Node.ofHost "h")).set (.serverInfo "UTC" "23.3")
    let w := Workspace.empty.final [.connect o (Transport.ofResponses []) none,
      .onSession 0 (.act (.setAutocommit false)), .onSession 0 (.failClose (.failed "gone"))]
    let b := Bench.empty.final [.newManager true, .act 0 (.setAutocommit false), .act 0 .discard]
    ((w.step (.onSession 0 (.act .close))).answer =
        .error (.session (.closeFailed (.failed "gone"))) ∧
      Workspace.Failed w (.onSession 0 (.act .close)) (.session (.closeFailed (.failed "gone")))
        (w.step (.onSession 0 (.act .close))).state) ∧
      (b.step (.act 0 .commit)).answer = .error (.session .noTransaction) ∧
      Bench.Failed b (.act 0 .commit) (.session .noTransaction)
        (b.step (.act 0 .commit)).state :=
  ⟨⟨rfl, failures.1 _ _ _ rfl⟩, rfl, failures.2 _ _ _ rfl⟩

end StatelessSession
