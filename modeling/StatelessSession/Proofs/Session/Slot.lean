import StatelessSession.Proofs.Session.Actions
import StatelessSession.Proofs.Session.Run
import StatelessSession.Proofs.Transaction.Operations

/-!
# An open session in manual commit has a transaction

A manager by itself can lose its transaction and stay in manual commit: `discard` takes it out of
the slot. A session lets its manager do so only as it closes. So an open session has a transaction
exactly in manual commit, and nothing that needs one finds none.

* `Manager.Seated` -- a transaction is in the slot exactly in manual commit.
* `Books.seated_operates` -- whatever a session has the manager do keeps this.
* `SessionBooks.session_newQueryId`, `session_prepareShape` -- a query id that is handed out leaves
  the session alone.
* `Session.Seated`, **`Workspace.seated_final`** -- open sessions, on every run.

NOT here: managers without a session, which `discard` unseats.
-/

namespace StatelessSession

/-- A transaction is in the slot exactly in manual commit. -/
def Manager.Seated (m : Manager) : Prop := m.slot = none ↔ m.autocommit = true

/-! ## 1. Managers -/

namespace Books

variable {b : Books}

theorem seated_opened (l : Ledger) (compliant : Bool) : (opened l compliant).manager.Seated :=
  iff_of_true rfl rfl

/-- In manual commit, a transaction in the slot is all that it takes. -/
theorem seated_of_slot {m : Manager} {id : TransactionId} (ha : ¬ m.autocommit = true)
    (hs : m.slot = some id) : m.Seated :=
  iff_of_false (hs ▸ Option.some_ne_none id) ha

theorem seated_setAutocommit (h : b.manager.Seated) (enable : Bool) :
    (b.setAutocommit enable).state.manager.Seated := by
  have ho := b.switched_setAutocommit enable
  generalize b.setAutocommit enable = o at ho ⊢
  cases ho with
  | same | unsupported => exact h
  | on he =>
    unfold discard
    split
    · exact iff_of_true ‹_› he
    · exact iff_of_true rfl he
  | begun he => exact seated_of_slot he rfl
  | kept he hne hc hs => exact iff_of_false hs he

theorem seated_finish (h : b.manager.Seated) (ending : Ending) :
    (b.finish ending).state.manager.Seated := by
  have ho := b.finished_finish ending
  generalize b.finish ending = o at ho ⊢
  cases ho with
  | inAutocommit | unsupported => exact h
  | vacant ha | ended ha => exact seated_of_slot ha rfl

theorem seated_setSavepoint (h : b.manager.Seated) (name : Option String) :
    (b.setSavepoint name).state.manager.Seated := by
  have ho := b.marked_setSavepoint name
  generalize b.setSavepoint name = o at ho ⊢
  cases ho with
  | inAutocommit | unsupported => exact h
  | set ha =>
    unfold current
    split
    · rename_i id hs
      exact seated_of_slot ha hs
    · exact seated_of_slot ha rfl

theorem seated_returnTo (h : b.manager.Seated) (how : Transaction.Return) (s : Savepoint) :
    (b.returnTo how s).state.manager.Seated := by
  have ho := b.tried_returnTo how s
  generalize b.returnTo how s = o at ho ⊢
  cases ho with
  | refused | unknown | done => exact h

/-- **Whatever a session has the manager do keeps a transaction in the slot.** -/
theorem seated_operates {α : Type} {o : Outcome Books α} (h : b.manager.Seated)
    (ho : b.Operates o) : o.state.manager.Seated := by
  cases ho with
  | setAutocommit enable => exact seated_setAutocommit h enable
  | finish ending => exact seated_finish h ending
  | setSavepoint name => exact seated_setSavepoint h name
  | returnTo how s => exact seated_returnTo h how s

theorem manager_newQueryId (b : Books) : b.newQueryId.2.manager = b.manager := by
  unfold newQueryId
  split
  · rfl
  · rfl

/-- A query id that is handed out is the next one. -/
theorem fst_newQueryId (b : Books) : b.newQueryId.1 = .issued b.ledger.nextQuery := by
  unfold newQueryId
  split
  · rfl
  · rfl

end Books

/-! ## 2. Sessions -/

/-- An open session has a transaction exactly in manual commit. -/
def Session.Seated (s : Session) : Prop := s.closed = false → s.manager.Seated

/-- A query id that is handed out changes nothing of a session. -/
theorem SessionBooks.session_newQueryId (b : SessionBooks) :
    b.newQueryId.2.session = b.session := by
  show { b.session with manager := b.books.newQueryId.2.manager } = b.session
  rw [Books.manager_newQueryId]
  rfl

theorem SessionBooks.state_prepareShape (b : SessionBooks) (sql : String) (shape : Sql.Shape) :
    (b.prepareShape sql shape).state = b.newQueryId.2 := by
  cases shape with
  | parameterized query unfit => rfl
  | streaming columns => rfl

/-- Nor does a statement that is prepared. -/
theorem SessionBooks.session_prepareShape (b : SessionBooks) (sql : String) (shape : Sql.Shape) :
    (b.prepareShape sql shape).state.session = b.session := by
  rw [state_prepareShape, session_newQueryId]

theorem SessionBooks.seated_perform {b : SessionBooks} (h : b.session.Seated) (a : Action) :
    (b.perform a).state.session.Seated := by
  have hp := performed b a
  generalize b.perform a = o at hp ⊢
  cases hp with
  | refused early => exact h
  | answered plain events => exact h
  | managed opened operates plain => exact fun _ => Books.seated_operates (h opened) operates
  | issued =>
    rw [session_newQueryId]
    exact h
  | @prepared sql shape opened fits =>
    show (b.prepareShape sql shape).state.session.Seated
    rw [session_prepareShape]
    exact h
  | recorded opened alike events => exact fun _ => alike.manager ▸ h opened
  | pinged opened node n => exact h
  | closed opened events => exact fun hopen => Bool.noConfusion hopen
  | unclosed opened failure events => exact fun hopen => Bool.noConfusion hopen
  | aborted opened events => exact fun hopen => Bool.noConfusion hopen

theorem Session.seated_openWith {l : Ledger} {o : Options} {t : Transport} {signal : Signal}
    {s : Session} (h : (Session.openWith l o t signal).answer.toOption = some s) : s.Seated := by
  rw [(openWith_eq_some h).2]
  exact fun _ => Books.seated_opened l o.compliant

namespace Workspace

/-- Every session that is open has a transaction exactly in manual commit. -/
def Seated (w : Workspace) : Prop := ∀ i s, w.session? i = some s → s.Seated

theorem seated_empty : empty.Seated := fun i s hs => by
  simp [empty, session?] at hs

theorem seated_step {w : Workspace} (h : w.Seated) (c : Command) : (w.step c).state.Seated := by
  intro i s hs
  have hm := moved_step w c i
  rw [hs] at hm
  generalize hx : some s = x at hm
  cases hm with
  | same => exact h i s hx.symm
  | opened command last => exact Session.seated_openWith hx.symm
  | act session l a =>
    cases hx
    exact SessionBooks.seated_perform (b := ⟨l, _⟩) (h i _ session) a
  | farSide session t sent =>
    cases hx
    have hbefore := h i _ session
    exact hbefore
  | send session command statement own r asks =>
    cases hx
    have hbefore := h i _ session
    exact hbefore

/-- **On every run, an open session has a transaction exactly in manual commit.** -/
theorem seated_final (cs : List Command) : (empty.final cs).Seated :=
  final_induction (P := Seated) (fun _ c h => seated_step h c) seated_empty cs

end Workspace

end StatelessSession
