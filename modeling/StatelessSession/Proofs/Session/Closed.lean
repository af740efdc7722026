import StatelessSession.Proofs.Session.Failures
import StatelessSession.Proofs.Session.Turns
import StatelessSession.Proofs.Transaction.Order

/-!
# Closed sessions

Closing sets a flag, and every operation looks at the flag before it does anything. So a session
that was closed stays as it is, whatever is asked of it or of its statements, and whatever aborts
are still to run: it refuses, and its transport hears no more of it.

* `Action.whenClosed` -- what a closed session answers to each action; `answer_of_closed`.
* `Session.Frozen` -- what may change of a closed session: the far side of its transport.
* `Session.Vacant`, `Workspace.vacant_play` -- a closed session has no transaction.
* `Workspace.step_execute_of_closed` -- its statements refuse, and keep their rows.
* **`closed_play`** -- all of it, at every point of a run after the session closed.

NOT here: how a session closes, and how often its transport does (`Shutdown`).
-/

namespace StatelessSession

/-! ## 1. Answers -/

namespace Session

variable {s : Session}

/-- **A session that no getter looks into.** -/
structure Mute (s : Session) : Prop where
  autocommit : s.getAutocommit = .error .closed
  readOnly : s.getReadOnly = .error .closed
  catalog : s.getCatalog = .error .closed
  isolation : s.getIsolation = .error .closed
  holdability : s.getHoldability = .error .closed
  networkTimeout : s.getNetworkTimeout = .error .closed
  clientInfo : ∀ name, s.getClientInfo name = .error .closed
  clientInfoAll : s.getClientInfoAll = .error .closed
  schema : s.getSchema = .error .closed

theorem mute_of_closed (h : s.closed = true) : s.Mute := by
  have hget {α : Type} (a : α) : s.whenOpen a = .error .closed := if_pos h
  exact ⟨hget _, hget _, hget _, hget _, hget _, hget _, fun _ => hget _, hget _, hget _⟩

end Session

namespace SessionBooks

/-- **What a closed session answers.** A query id is handed out all the same. -/
def Action.whenClosed (q : QueryId) : Action → Except SessionError Answer
  | .newQueryId => .ok (.queryId q)
  | .isValid seconds => if seconds < 0 then .error .negativePingTimeout else .ok (.flag false)
  | .setClientInfo _ _ | .setClientInfoAll _ => .error .clientInfoClosed
  | .close | .abort => .ok .done
  | _ => .error .closed

variable {b : SessionBooks}

theorem answer_of_closed (h : b.session.closed = true) (a : Action) :
    (b.perform a).answer = a.whenClosed b.newQueryId.1 := by
  have hopen {α : Type} (o : Outcome SessionBooks α) (f : α → Answer) :
      (answering f (b.whenOpen o)).answer = .error .closed := by
    rw [whenOpen, if_pos h]
    rfl
  have hget {α : Type} (a : α) (f : α → Answer) :
      (b.unchanged ((b.session.whenOpen a).map f)).answer = .error .closed := by
    rw [Session.whenOpen, if_pos h]
    rfl
  cases a with
  | newQueryId => rfl
  | isValid seconds =>
    by_cases hn : seconds < 0
    · simp only [perform, isValid, Action.whenClosed, if_pos hn]
      rfl
    · simp only [perform, isValid, Action.whenClosed, if_neg hn, if_pos h]
      rfl
  | setClientInfo name v =>
    simp only [perform, setClientInfo, if_pos h]
    rfl
  | setClientInfoAll values =>
    simp only [perform, setClientInfoAll, if_pos h]
    rfl
  | close =>
    simp only [perform, close, if_pos h]
    rfl
  | abort =>
    simp only [perform, abort, if_pos h]
    rfl
  | autocommit => exact hget _ _
  | nativeSql sql => exact hget _ _
  | clientInfo name => exact hget _ _
  | clientInfoAll => exact hget _ _
  | schema => exact hget _ _
  | _ => exact hopen _ _

/-- **No action changes a closed session.** -/
theorem session_of_closed (h : b.session.closed = true) (a : Action) :
    (b.perform a).state.session = b.session := by
  have hnot : ¬ b.session.closed = false := fun ho => Bool.noConfusion (h.symm.trans ho)
  have hp := performed b a
  generalize b.perform a = o at hp ⊢
  cases hp with
  | refused early => rfl
  | answered plain events => rfl
  | managed opened => exact absurd opened hnot
  | issued => exact session_newQueryId b
  | prepared opened => exact absurd opened hnot
  | recorded opened => exact absurd opened hnot
  | pinged opened => exact absurd opened hnot
  | closed opened => exact absurd opened hnot
  | unclosed opened => exact absurd opened hnot
  | aborted opened => exact absurd opened hnot

end SessionBooks

/-! ## 2. What may change -/

/-- **A session left as it is**: the far side of its transport may be another, but the transport was
    asked nothing. -/
structure Session.Frozen (s s' : Session) : Prop where
  fields : s' = { s with transport := s'.transport }
  unasked : s.transport.Unasked s'.transport

namespace Session.Frozen

variable {s s' s'' : Session}

theorem refl (s : Session) : s.Frozen s := ⟨rfl, rfl, rfl, rfl⟩

theorem trans (h : s.Frozen s') (h' : s'.Frozen s'') : s.Frozen s'' where
  fields := by
    rw [h'.fields, h.fields]
  unasked := by
    obtain ⟨hsent, hpings, hcalls⟩ := h.unasked
    obtain ⟨hsent', hpings', hcalls'⟩ := h'.unasked
    exact ⟨hsent'.trans hsent, hpings'.trans hpings, hcalls'.trans hcalls⟩

theorem closed (h : s.Frozen s') : s'.closed = s.closed := by
  rw [h.fields]

end Session.Frozen

/-- A closed session has no transaction. -/
def Session.Vacant (s : Session) : Prop := s.closed = true → s.manager.slot = none

theorem SessionBooks.slot_shut (b : SessionBooks) : b.shut.2.1.session.manager.slot = none :=
  Books.slot_discard b.books

theorem SessionBooks.vacant_perform {b : SessionBooks} (h : b.session.Vacant) (a : Action) :
    (b.perform a).state.session.Vacant := by
  have hp := performed b a
  generalize b.perform a = o at hp ⊢
  -- what leaves the session open has nothing to show
  have hopen {s : Session} (ho : b.session.closed = false) (hs : s.closed = b.session.closed) :
      s.Vacant := fun hc => Bool.noConfusion (hc.symm.trans (hs.trans ho))
  cases hp with
  | refused early => exact h
  | answered plain events => exact h
  | managed opened => exact hopen opened rfl
  | issued =>
    rw [session_newQueryId]
    exact h
  | @prepared sql shape opened fits =>
    show (b.prepareShape sql shape).state.session.Vacant
    rw [session_prepareShape]
    exact h
  | recorded opened alike => exact hopen opened alike.closed
  | pinged opened => exact hopen opened rfl
  | closed opened => exact fun _ => b.slot_shut
  | unclosed opened => exact fun _ => b.slot_shut
  | aborted opened => exact fun _ => b.slot_shut

namespace Workspace

/-! ## 3. Runs -/

variable {w : Workspace} {i j : Nat} {s : Session}

/-- Every session that is closed has no transaction. -/
def Vacant (w : Workspace) : Prop := ∀ i s, w.session? i = some s → s.Vacant

theorem vacant_empty : empty.Vacant := fun i s hs => by
  simp [empty, session?] at hs

theorem vacant_moved {c : Command} (h : w.Vacant) (hm : Moved w c i (some s)) : s.Vacant := by
  generalize hx : some s = x at hm
  cases hm with
  | same => exact h i s hx.symm
  | opened command last =>
    rw [(Session.openWith_eq_some hx.symm).2]
    exact fun hc => Bool.noConfusion hc
  | act session l a =>
    cases hx
    exact SessionBooks.vacant_perform (b := ⟨l, _⟩) (h i _ session) a
  | farSide session =>
    cases hx
    have hbefore := h i _ session
    exact hbefore
  | send session =>
    cases hx
    have hbefore := h i _ session
    exact hbefore

theorem vacant_turn (h : w.Vacant) (x : Turn) : (w.turn x).state.Vacant := fun i _ hs =>
  vacant_moved h (hs ▸ moved_turn w x i)

theorem vacant_play (xs : List Turn) : (empty.play xs).Vacant :=
  play_induction (P := Vacant) (fun _ x h => vacant_turn h x) vacant_empty xs

/-- **No turn changes a closed session.** -/
theorem frozen_turn (hs : w.session? i = some s) (hc : s.closed = true) (x : Turn) :
    ∃ s', (w.turn x).state.session? i = some s' ∧ s.Frozen s' := by
  obtain ⟨s', hs', hb⟩ := became_of_moved hs (moved_turn w x i)
  refine ⟨s', hs', ?_⟩
  cases hb with
  | same => exact .refl s
  | act l a orders =>
    have hsame := SessionBooks.session_of_closed (b := ⟨l, s⟩) hc a
    exact hsame.symm ▸ .refl s
  | farSide t unasked => exact ⟨rfl, unasked⟩
  | send command statement own r asks opened => exact Bool.noConfusion (hc.symm.trans opened)

/-- **No run changes a closed session.** -/
theorem frozen_play (hs : w.session? i = some s) (hc : s.closed = true) (xs : List Turn) :
    ∃ s', (w.play xs).session? i = some s' ∧ s.Frozen s' := by
  refine play_induction (P := fun w => ∃ s', w.session? i = some s' ∧ s.Frozen s')
    (fun w x h => ?_) ⟨s, hs, .refl s⟩ xs
  obtain ⟨s', hs', hf⟩ := h
  obtain ⟨s'', hs'', hf'⟩ := frozen_turn hs' (hf.closed.trans hc) x
  exact ⟨s'', hs'', hf.trans hf'⟩

theorem answer_act_of_closed (hs : w.session? i = some s) (hc : s.closed = true)
    (a : SessionBooks.Action) :
    (w.step (.onSession i (.act a))).answer =
      ((a.whenClosed (.issued w.ledger.nextQuery)).map Reply.answer).mapError Failure.session := by
  have hid : (SessionBooks.newQueryId ⟨w.ledger, s⟩).1 = .issued w.ledger.nextQuery :=
    Books.fst_newQueryId ⟨w.ledger, s.manager⟩
  have ha := SessionBooks.answer_of_closed (b := ⟨w.ledger, s⟩) hc a
  rw [hid] at ha
  rw [step_act hs]
  simp only [act, ha]
  -- no answer of a closed session brings a handle along
  cases a with
  | isValid seconds =>
    by_cases hn : seconds < 0
    · simp only [SessionBooks.Action.whenClosed, if_pos hn]
      rfl
    · simp only [SessionBooks.Action.whenClosed, if_neg hn]
      rfl
  | _ => rfl

/-- **A statement of a closed session refuses**, and keeps its rows. -/
theorem step_execute_of_closed {p : Prepared} (hp : w.statement? j = some p)
    (hs : w.session? p.session = some s) (hc : s.closed = true) (params : List Value) :
    w.step (.onStatement j (.execute params)) = ⟨.error (.session .closed), w, []⟩ := by
  obtain ⟨i, st⟩ := p
  have hj : w.statements[j]? = some (some ⟨i, st⟩) := Option.join_eq_some_iff.1 hp
  have hsame : w.putSession i { s with transport := s.transport } = w := putSession_self hs
  simp only [step, onStatement, hj, stepStatement, hs]
  cases st with
  | query q =>
    have hq : q.execute s.closed s.transport params = ⟨.error .closed, s.transport, []⟩ := if_pos hc
    simp only [execute, hq, hsame]
    rfl
  | insert q =>
    have hq : q.execute s.closed s.transport = ⟨.error .closed, (q, s.transport), []⟩ := if_pos hc
    simp only [execute, hq, hsame, putStatement_self hp]
    rfl

/-- **The session with number `i` is closed**, and it is as it was when it was `s`. -/
structure Closed (w : Workspace) (i : Nat) (s : Session) : Prop where
  /-- It is closed, it has no transaction, and nothing has changed or was asked of the transport. -/
  session : ∃ s', w.session? i = some s' ∧ s'.closed = true ∧ s'.manager.slot = none ∧
    s.Frozen s' ∧ s'.Mute
  /-- It refuses every action but for those that cannot fail, and a ping finds it invalid. -/
  refused : ∀ a : SessionBooks.Action, (w.step (.onSession i (.act a))).answer =
    ((a.whenClosed (.issued w.ledger.nextQuery)).map Reply.answer).mapError Failure.session
  /-- Its statements refuse, and keep their rows. -/
  statements : ∀ j p params, w.statement? j = some p → p.session = i →
    w.step (.onStatement j (.execute params)) = ⟨.error (.session .closed), w, []⟩

/-- **A closed session is closed for good**: whatever commands follow and aborts come to
run, it refuses, nothing of it changes, and its transport is asked nothing. A refusal is a client
error, except that client info has an error of its own, which names every property. -/
theorem closed_play (past later : List Turn) (hs : (empty.play past).session? i = some s)
    (hc : s.closed = true) :
    ((empty.play past).play later).Closed i s ∧
      SessionError.closed.kind = .client ∧ SessionError.negativePingTimeout.kind = .client ∧
      SessionError.clientInfoClosed.kind = .clientInfo ∧
      ∃ reason named, SessionError.clientInfoClosed.detail = clientInfoDetail reason named ∧
        ∀ p : ClientProperty, p ∈ named := by
  obtain ⟨s', hs', hf⟩ := frozen_play hs hc later
  have hc' : s'.closed = true := hf.closed.trans hc
  have hslot : s'.manager.slot = none := by
    rw [hf.fields]
    exact vacant_play past i s hs hc
  refine ⟨⟨⟨s', hs', hc', hslot, hf, Session.mute_of_closed hc'⟩, answer_act_of_closed hs' hc',
    fun j p params hp hown => ?_⟩, rfl, rfl, rfl, _, ClientProperty.all, rfl, fun p => ?_⟩
  · subst hown
    exact step_execute_of_closed hp hs' hc' params
  · cases p with
    | applicationName => exact List.mem_cons_self
    | customHttpHeaders => exact List.mem_cons_of_mem _ List.mem_cons_self
    | customHttpParameters =>
      exact List.mem_cons_of_mem _ (List.mem_cons_of_mem _ List.mem_cons_self)

/-- A session in manual commit that closes though its transport does not, with an abort scheduled
    and an insert that has a row to ship. -/
theorem closed_play_streaming :
    let o := (Options.ofNode (Node.ofHost "h")).set (.serverInfo "UTC" "23.3")
    let w := empty.play [.command (.connect o (Transport.ofResponses []) none),
      .command (.onSession 0 (.act (.setAutocommit false))),
      .command (.onSession 0 (.act (.prepare "insert into t select * from input('a Int8')"))),
      .command (.onStatement 0 (.addRow [.int 1])), .command (.onSession 0 .scheduleAbort),
      .command (.onSession 0 (.failClose (.failed "gone"))),
      .command (.onSession 0 (.act .close))]
    ∃ s, w.session? 0 = some s ∧ s.closed = true ∧ w.aborts = [0] ∧
      (w.statement? 0).map (·.statement.pending?) = some (some 1) ∧
      (w.play [.command (.onStatement 0 (.execute [])), .task 0]).Closed 0 s := by
  intro o w
  have hclosed : (w.session? 0).map (·.closed) = some true := by decide +kernel
  have haborts : w.aborts = [0] := by decide +kernel
  have hrows : (w.statement? 0).map (·.statement.pending?) = some (some 1) := by decide +kernel
  obtain ⟨s, hs, hc⟩ := Option.map_eq_some_iff.1 hclosed
  exact ⟨s, hs, hc, haborts, hrows, (closed_play _ _ hs hc).1⟩

end Workspace

end StatelessSession
