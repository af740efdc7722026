import StatelessSession.Proofs.Session.Ids

/-!
# Open sessions

A session keeps the same thing in several places: whether it is in manual commit, as a flag and by
what is in the slot of its manager; its database, in a field and in the request that its statements
start from. Different operations change them, through different handles. While the session is open,
they stay in step.

* `Manager.Gated` -- out of compliance a manager stays in autocommit.
* `Request.Blank` -- a request that carries settings and asks for nothing yet.
* `Session.InStep`, `Workspace.InStep`, `inStep_final` -- what all sessions keep, on every run.
* `schemas` -- the names that a run made the schema of a session; `database_final`.
* **`open_final`** -- all of it for a session that opened and is still open.

NOT here: what a session keeps once it is closed (`Closed`).
-/

namespace StatelessSession

/-- A manager that does not go along is in autocommit. -/
def Manager.Gated (m : Manager) : Prop := m.compliant = false → m.autocommit = true

/-- **A request that asks for nothing yet**: it carries settings only. -/
structure Request.Blank (r : Request) : Prop where
  sql : r.sql = none
  queryId : r.queryId = none
  write : r.write = false
  input : r.input = []

/-! ## 1. Managers -/

namespace Books

variable {b : Books} {α : Type} {o : Outcome Books α}

/-- **A manager that does not go along changes nothing.** -/
theorem state_operates_of_not_compliant (hc : b.manager.compliant = false) (ho : b.Operates o) :
    o.state = b := by
  have hnot : ¬ b.manager.compliant = true := Bool.eq_false_iff.1 hc
  cases ho with
  | setAutocommit enable =>
    have ho := b.switched_setAutocommit enable
    generalize b.setAutocommit enable = o at ho ⊢
    cases ho with
    | same | unsupported => rfl
    | on _ _ h | begun _ _ h | kept _ _ h => exact absurd h hnot
  | finish ending =>
    have ho := b.finished_finish ending
    generalize b.finish ending = o at ho ⊢
    cases ho with
    | inAutocommit | unsupported => rfl
    | vacant _ h | ended _ h => exact absurd h hnot
  | setSavepoint name =>
    have ho := b.marked_setSavepoint name
    generalize b.setSavepoint name = o at ho ⊢
    cases ho with
    | inAutocommit | unsupported => rfl
    | set _ h => exact absurd h hnot
  | returnTo how s =>
    have ho := b.tried_returnTo how s
    generalize b.returnTo how s = o at ho ⊢
    cases ho with
    | refused | unknown => rfl
    | done ht =>
      have htarget := b.targeted_target how s
      rw [ht] at htarget
      cases htarget with
      | found _ h => exact absurd h hnot

theorem within_operates (ho : b.Operates o) : b.Within o.state := by
  cases ho with
  | setAutocommit enable => exact within_setAutocommit b enable
  | finish ending => exact within_finish b ending
  | setSavepoint name => exact within_setSavepoint b name
  | returnTo how s => exact within_returnTo b how s

theorem gated_operates (h : b.manager.Gated) (ho : b.Operates o) : o.state.manager.Gated := by
  intro hc
  have hbefore : b.manager.compliant = false := (within_operates ho).compliant ▸ hc
  rw [state_operates_of_not_compliant hbefore ho]
  exact h hbefore

/-- **Where manual commit has a transaction, nothing that needs one finds none.** -/
theorem stateless_operates (hb : b.manager.Seated) (ho : b.Operates o) {e : SessionError}
    (he : o.answer = .error e) : e.kind ≠ .invalidTransactionState := by
  cases ho with
  | setAutocommit enable =>
    have ho := b.switched_setAutocommit enable
    generalize b.setAutocommit enable = o at ho he
    cases ho with
    | unsupported =>
      cases he
      exact ErrorKind.noConfusion
    | same | on | begun | kept => cases he
  | finish ending =>
    have ho := b.finished_finish ending
    generalize b.finish ending = o at ho he
    cases ho with
    | inAutocommit | unsupported =>
      cases he
      exact ErrorKind.noConfusion
    | vacant ha hc hs => exact absurd (hb.1 hs) ha
    | ended => cases he
  | setSavepoint name =>
    have ho := b.marked_setSavepoint name
    generalize b.setSavepoint name = o at ho he
    cases ho with
    | inAutocommit | unsupported =>
      cases he
      exact ErrorKind.noConfusion
    | set => cases he
  | returnTo how s =>
    have ho := b.tried_returnTo how s
    generalize b.returnTo how s = o at ho he
    cases ho with
    | refused ht =>
      cases he
      have htarget := b.targeted_target how s
      rw [ht] at htarget
      cases htarget with
      | inAutocommit | unsupported | foreign => exact ErrorKind.noConfusion
      | vacant ha hc hown hs => exact absurd (hb.1 hs) ha
    | unknown =>
      cases he
      exact ErrorKind.noConfusion
    | done => cases he

end Books

/-! ## 2. Sessions -/

/-- **What a session keeps in step**, open or closed. -/
structure Session.InStep (s : Session) : Prop where
  compliant : s.manager.compliant = s.profile.compliant
  gated : s.manager.Gated
  database : s.request.settings.database = some s.database
  blank : s.request.Blank

namespace SessionBooks

variable {b : SessionBooks}

theorem stateless_perform (hb : b.session.Seated) {a : Action} {e : SessionError}
    (he : (b.perform a).answer = .error e) : e.kind ≠ .invalidTransactionState := by
  have hp := performed b a
  generalize b.perform a = o at hp he
  cases hp with
  | refused early stateless =>
    cases he
    exact stateless
  | answered plain events => cases he
  | @managed _ _ o' opened operates f plain =>
    cases ho : o'.answer with
    | error e' =>
      rw [ho] at he
      cases he
      exact Books.stateless_operates (hb opened) operates ho
    | ok x =>
      rw [ho] at he
      cases he
  | issued => cases he
  | @prepared sql shape opened fits =>
    cases shape with
    | parameterized query unfit => cases he
    | streaming columns => cases he
  | recorded opened alike => cases he
  | pinged opened => cases he
  | closed opened => cases he
  | unclosed opened =>
    cases he
    exact ErrorKind.noConfusion
  | aborted opened => cases he

theorem inStep_perform (h : b.session.InStep) (a : Action) :
    (b.perform a).state.session.InStep := by
  have hp := performed b a
  generalize b.perform a = o at hp ⊢
  have hshut : b.shut.2.1.session.InStep := by
    have hmanager : b.books.discard.state.manager = { b.session.manager with slot := none } := by
      unfold Books.discard
      split
      · rename_i hs
        show b.session.manager = _
        rw [← hs]
        rfl
      · rfl
    refine ⟨?_, fun hc => ?_, h.database, h.blank⟩
    · show b.books.discard.state.manager.compliant = _
      rw [hmanager]
      exact h.compliant
    · show b.books.discard.state.manager.autocommit = true
      have hc' : b.books.discard.state.manager.compliant = false := hc
      rw [hmanager] at hc' ⊢
      exact h.gated hc'
  cases hp with
  | refused early => exact h
  | answered plain events => exact h
  | managed opened operates plain =>
    have hcompliant := (Books.within_operates operates).compliant.trans h.compliant
    exact ⟨hcompliant, Books.gated_operates (b := b.books) h.gated operates, h.database, h.blank⟩
  | issued =>
    rw [session_newQueryId]
    exact h
  | @prepared sql shape opened fits =>
    show (b.prepareShape sql shape).state.session.InStep
    rw [session_prepareShape]
    exact h
  | @recorded a s opened alike events calm databases =>
    obtain ⟨database, clientInfo, hrequest⟩ := alike.request
    refine ⟨?_, ?_, ?_, ?_⟩
    · rw [alike.manager, alike.profile]
      exact h.compliant
    · rw [alike.manager]
      exact h.gated
    · rcases databases with hsame | ⟨name, -, hname⟩
      · obtain ⟨hfield, hwritten⟩ := Prod.mk.inj hsame
        rw [hfield, hwritten]
        exact h.database
      · obtain ⟨hfield, hwritten⟩ := Prod.mk.inj hname
        rw [hfield, hwritten]
    · rw [hrequest]
      exact ⟨h.blank.sql, h.blank.queryId, h.blank.write, h.blank.input⟩
  | pinged opened => exact ⟨h.compliant, h.gated, h.database, h.blank⟩
  | closed opened => exact hshut
  | unclosed opened => exact hshut
  | aborted opened => exact hshut

theorem profile_perform (b : SessionBooks) (a : Action) :
    (b.perform a).state.session.profile = b.session.profile := by
  have hp := performed b a
  generalize b.perform a = o at hp ⊢
  cases hp with
  | @prepared sql shape opened fits =>
    show (b.prepareShape sql shape).state.session.profile = _
    rw [session_prepareShape]
  | recorded opened alike => exact alike.profile
  | _ => rfl

/-- Whatever is done but setting the schema leaves the database as it is. -/
theorem database_perform {a : Action} (h : ∀ name, a ≠ .setSchema name) :
    (b.perform a).state.session.database = b.session.database := by
  have hp := performed b a
  generalize b.perform a = o at hp ⊢
  cases hp with
  | @prepared sql shape opened fits =>
    show (b.prepareShape sql shape).state.session.database = _
    rw [session_prepareShape]
  | recorded opened alike events calm databases =>
    rcases databases with hsame | ⟨name, rfl, -⟩
    · exact (Prod.mk.inj hsame).1
    · exact absurd rfl (h name)
  | _ => rfl

/-- **The schema that was set is the database**, also if it was so before. -/
theorem database_setSchema (b : SessionBooks) (name : String) :
    (b.perform (.setSchema name)).state.session.database =
      if (b.perform (.setSchema name)).answer.isOk then name else b.session.database := by
  simp only [perform, finished, answering, setSchema, whenOpen]
  split
  · rfl
  split
  · rfl
  split
  · rename_i hsame
    exact hsame.symm
  · rfl

end SessionBooks

/-! ## 3. Sessions that open -/

namespace Negotiation

/-- A negotiation that succeeds takes over whether the session goes along. -/
theorem compliant_of_negotiate {o : Options} {r : Request} {t : Transport} {signal : Signal}
    {p : Profile} (h : (negotiate o r t signal).answer = .ok p) : p.compliant = o.compliant := by
  unfold negotiate at h
  dsimp only at h
  split at h
  · cases h
  · rename_i f hf
    dsimp only [Negotiation.profile] at h
    cases hz : effectiveZone o (Zone.ofServer f.timeZone).1 with
    | error e =>
      rw [hz] at h
      cases h
    | ok zone =>
      rw [hz] at h
      exact congrArg Profile.compliant (Except.ok.inj h).symm

/-- **A negotiation leaves a request that asks for nothing yet.** -/
theorem blank_negotiate (o : Options) (t : Transport) (signal : Signal) :
    (negotiate o (Request.ofOptions o) t signal).request.Blank := by
  rw [request_negotiate]
  rcases request_facts with h | ⟨timeZone, version, h⟩
  · rw [h]
    exact ⟨rfl, rfl, rfl, rfl⟩
  · rw [h]
    exact ⟨rfl, rfl, rfl, rfl⟩

end Negotiation

theorem Session.inStep_openWith {l : Ledger} {o : Options} {t : Transport} {signal : Signal}
    {s : Session} (h : (Session.openWith l o t signal).answer.toOption = some s) : s.InStep := by
  obtain ⟨hanswer, hs⟩ := openWith_eq_some h
  have hblank := Negotiation.blank_negotiate o t signal
  rw [hs]
  exact ⟨(Negotiation.compliant_of_negotiate hanswer).symm, fun _ => rfl, rfl,
    hblank.sql, hblank.queryId, hblank.write, hblank.input⟩

/-! ## 4. Runs -/

namespace Workspace

variable {w : Workspace} {i j : Nat} {s s' : Session} {c : Command}

/-- **What all sessions keep**, and what their queries were prepared with. -/
structure InStep (w : Workspace) : Prop where
  sessions : ∀ i s, w.session? i = some s → s.InStep
  queries : ∀ j i q, w.statement? j = some ⟨i, .query q⟩ → q.request.Blank

theorem inStep_empty : empty.InStep where
  sessions i s hs := by simp [empty, session?] at hs
  queries j i q hq := by simp [empty, statement?] at hq

theorem inStep_moved (h : w.InStep) (hm : Moved w c i (some s)) : s.InStep := by
  generalize hx : some s = x at hm
  cases hm with
  | same => exact h.sessions i s hx.symm
  | opened command last => exact Session.inStep_openWith hx.symm
  | act session l a =>
    cases hx
    exact SessionBooks.inStep_perform (b := ⟨l, _⟩) (h.sessions i _ session) a
  | farSide session =>
    cases hx
    have hbefore := h.sessions i _ session
    exact ⟨hbefore.compliant, hbefore.gated, hbefore.database, hbefore.blank⟩
  | send session =>
    cases hx
    have hbefore := h.sessions i _ session
    exact ⟨hbefore.compliant, hbefore.gated, hbefore.database, hbefore.blank⟩

theorem inStep_step (h : w.InStep) (c : Command) : (w.step c).state.InStep where
  sessions i s hs := inStep_moved h (hs ▸ moved_step w c i)
  queries j i q hq := by
    generalize hp : Prepared.mk i (.query q) = p at hq
    cases derived_step hq with
    | kept statement =>
      subst hp
      exact h.queries j i q statement
    | rows statement =>
      cases hp
    | @prepared i' s session a st answer last =>
      cases hp
      obtain ⟨sql, shape, -, -, -, hst⟩ := SessionBooks.statement_eq_ok answer
      have hblank := (h.sessions i s session).blank
      cases shape with
      | parameterized query unfit =>
        cases hst
        exact ⟨hblank.sql, hblank.queryId, hblank.write, hblank.input⟩
      | streaming columns => cases hst

theorem inStep_final (cs : List Command) : (empty.final cs).InStep :=
  final_induction (P := InStep) (fun _ c h => inStep_step h c) inStep_empty cs

/-- The name that a command makes the schema of the session with number `i`. -/
def schemaSet? (w : Workspace) (i : Nat) (c : Command) : Option String :=
  match c with
  | .onSession j (.act (.setSchema name)) =>
    if j = i ∧ (w.step c).answer.isOk then some name else none
  | _ => none

/-- The names that a run makes the schema of the session with number `i`, the earliest first. -/
def schemas (w : Workspace) (i : Nat) : List Command → List String
  | [] => []
  | c :: cs => (w.schemaSet? i c).toList ++ (w.step c).state.schemas i cs

theorem isOk_act (w : Workspace) (i : Nat) (s : Session) (a : SessionBooks.Action) :
    (w.act i s a).answer.isOk = (SessionBooks.perform ⟨w.ledger, s⟩ a).answer.isOk := by
  unfold act
  dsimp only
  split
  · rename_i e ha
    rw [ha]
    rfl
  · rename_i answer ha
    rw [ha]
    rfl

/-- **The profile stays, and the database is the schema that was set last.** -/
theorem database_step (hs : w.session? i = some s) (hs' : (w.step c).state.session? i = some s') :
    s'.profile = s.profile ∧ s'.database = (w.schemaSet? i c).getD s.database := by
  by_cases hset : ∃ name, c = .onSession i (.act (.setSchema name))
  · obtain ⟨name, rfl⟩ := hset
    rw [step_act hs, session?_act_self hs] at hs'
    cases Option.some.inj hs'
    refine ⟨SessionBooks.profile_perform ⟨w.ledger, s⟩ _, ?_⟩
    rw [SessionBooks.database_setSchema, schemaSet?, step_act hs, isOk_act]
    by_cases hok : (SessionBooks.perform ⟨w.ledger, s⟩ (.setSchema name)).answer.isOk = true
    · rw [if_pos hok, if_pos ⟨rfl, hok⟩]
      rfl
    · rw [if_neg hok, if_neg fun h => hok h.2]
      rfl
  · have hnone : w.schemaSet? i c = none := by
      unfold schemaSet?
      split
      · rename_i j name
        exact if_neg fun h => hset ⟨name, by rw [h.1]⟩
      · rfl
    rw [hnone]
    obtain ⟨s'', hs'', hb⟩ := became_step hs c
    cases Option.some.inj (hs''.symm.trans hs')
    cases hb with
    | same => exact ⟨rfl, rfl⟩
    | act l a orders =>
      refine ⟨SessionBooks.profile_perform ⟨l, s⟩ a,
        SessionBooks.database_perform fun name ha => ?_⟩
      subst ha
      cases orders with
      | act a => exact hset ⟨name, rfl⟩
    | farSide t unasked => exact ⟨rfl, rfl⟩
    | send command => exact ⟨rfl, rfl⟩

theorem getLastD_toList_append (x : Option String) (l : List String) (d : String) :
    (x.toList ++ l).getLastD d = l.getLastD (x.getD d) := by
  cases x with
  | none => rfl
  | some name => exact List.getLastD_cons

theorem database_final {cs : List Command} (hs : w.session? i = some s)
    (hs' : (w.final cs).session? i = some s') :
    s'.profile = s.profile ∧ s'.database = (w.schemas i cs).getLastD s.database := by
  induction cs generalizing w s with
  | nil =>
    cases Option.some.inj (hs.symm.trans hs')
    exact ⟨rfl, rfl⟩
  | cons c cs ih =>
    obtain ⟨u, hu, -⟩ := became_step hs c
    obtain ⟨hprofile, hdatabase⟩ := database_step hs hu
    obtain ⟨hprofile', hdatabase'⟩ := ih hu hs'
    refine ⟨hprofile'.trans hprofile, ?_⟩
    rw [hdatabase', hdatabase, schemas, getLastD_toList_append]

theorem housed_final (cs : List Command) : (empty.final cs).Housed :=
  final_induction (P := Housed) (fun _ c h => (changes_step h c).housed h) housed_empty cs

/-! ## 5. What open sessions answer and send -/

/-- **No command finds an open session without a transaction that it needs.** -/
theorem stateless_stepSession (h : s.Seated) {sc : SessionCommand} {e : SessionError}
    (he : (w.stepSession i s sc).answer = .error (.session e)) :
    e.kind ≠ .invalidTransactionState := by
  have hact (a : SessionBooks.Action) (e : SessionError)
      (he : (w.act i s a).answer = .error (.session e)) : e.kind ≠ .invalidTransactionState := by
    unfold act at he
    dsimp only at he
    split at he
    · rename_i e' ha
      cases he
      exact SessionBooks.stateless_perform (b := ⟨w.ledger, s⟩) h ha
    · cases he
  have hsavepoint (n : Nat) (f : Savepoint → SessionBooks.Action) :
      (w.withSavepoint n fun sp => w.act i s (f sp)).answer = .error (.session e) →
        e.kind ≠ .invalidTransactionState :=
    withSavepoint_induction
      (P := fun r => r.answer = .error (.session e) → e.kind ≠ .invalidTransactionState)
      (fun he => by cases he) fun sp => hact (f sp) e
  cases sc with
  | act a => exact hact a e he
  | rollbackTo n => exact hsavepoint n .rollbackTo he
  | release n => exact hsavepoint n .release he
  | hold =>
    simp only [stepSession] at he
    split at he
    · cases he
    · cases he
  | _ => cases he

/-- **Whatever id a session hands out in manual commit** goes to the end of the window. -/
theorem queries_stepSession (hs : w.session? i = some s) {id : TransactionId}
    (hid : s.manager.slot = some id) (hhas : w.ledger.Has id) {sc : SessionCommand} {q : QueryId}
    (hq : w.handedOut (.onSession i sc) = some q) :
    (w.step (.onSession i sc)).state.slot? i = some id ∧
      ((w.step (.onSession i sc)).state.ledger.transaction id).queries =
        (w.ledger.transaction id).queries ++ [q] := by
  have hact (a : SessionBooks.Action)
      (hq : (w.act i s a).answer.toOption.bind Reply.id? = some q) :
      (w.act i s a).state.slot? i = some id ∧
        ((w.act i s a).state.ledger.transaction id).queries =
          (w.ledger.transaction id).queries ++ [q] := by
    rw [id?_act] at hq
    obtain ⟨hqueries, hslot⟩ := SessionBooks.queries_of_handed (b := ⟨w.ledger, s⟩) hid hhas hq
    rw [ledger_act]
    exact ⟨(slot?_of_session? (session?_act_self hs a)).trans hslot, hqueries⟩
  have hsavepoint (n : Nat) (f : Savepoint → SessionBooks.Action) :
      (w.withSavepoint n fun sp => w.act i s (f sp)).answer.toOption.bind Reply.id? = some q →
        (w.withSavepoint n fun sp => w.act i s (f sp)).state.slot? i = some id ∧
          ((w.withSavepoint n fun sp => w.act i s (f sp)).state.ledger.transaction id).queries =
            (w.ledger.transaction id).queries ++ [q] :=
    withSavepoint_induction
      (P := fun r => r.answer.toOption.bind Reply.id? = some q → r.state.slot? i = some id ∧
        (r.state.ledger.transaction id).queries = (w.ledger.transaction id).queries ++ [q])
      (fun hq => by cases hq) fun sp => hact (f sp)
  have hstep : w.step (.onSession i sc) = w.stepSession i s sc := by simp only [step, hs]
  unfold handedOut at hq
  rw [hstep] at hq ⊢
  cases sc with
  | act a => exact hact a hq
  | rollbackTo n => exact hsavepoint n .rollbackTo hq
  | release n => exact hsavepoint n .release hq
  | hold =>
    simp only [stepSession, hid] at hq
    cases hq
  | _ => cases hq

/-- **A query is never sent as a write.** -/
theorem sent_execute_query (h : w.InStep) (hs : w.session? i = some s) {q : PreparedQuery}
    (hq : w.statement? j = some ⟨i, .query q⟩) (params : List Value) :
    ∃ s' rs, (w.step (.onStatement j (.execute params))).state.session? i = some s' ∧
      s'.transport.sent = s.transport.sent ++ rs ∧ ∀ r ∈ rs, r.write = false ∧ r.input = [] := by
  obtain ⟨s', hs', hsent⟩ := sent_onStatement hs j (.execute params)
  rcases hsent with hnothing | ⟨p, params', r, -, hp, -, hr, hsent⟩
  · refine ⟨s', [], hs', ?_, fun r hr => absurd hr List.not_mem_nil⟩
    rw [hnothing, List.append_nil]
  · cases Option.some.inj (hq.symm.trans hp)
    have hblank := h.queries j i q hq
    refine ⟨s', [r], hs', hsent, fun r' hr' => ?_⟩
    rw [List.mem_singleton.1 hr']
    cases hr with
    | query bound => exact ⟨hblank.write, hblank.input⟩

/-! ## 6. The whole -/

/-- **The session with number `i` is open**, and it is `s`; it opened with the profile `p`, and
    `names` were made its schema since. -/
structure Open (w : Workspace) (i : Nat) (s : Session) (p : Profile) (names : List String) :
    Prop where
  /-- It has a transaction exactly in manual commit. -/
  slot : s.manager.slot = none ↔ s.manager.autocommit = true
  /-- Out of compliance it is in autocommit. -/
  gated : p.compliant = false → s.manager.autocommit = true
  /-- So no command finds no transaction where it needs one. -/
  stateless : ∀ sc e, (w.step (.onSession i sc)).answer = .error (.session e) →
    e.kind ≠ .invalidTransactionState
  /-- In manual commit, every id that the session hands out goes to the end of the window. -/
  window : s.manager.autocommit = false → ∃ id, s.manager.slot = some id ∧
    ∀ sc q, w.handedOut (.onSession i sc) = some q →
      (w.step (.onSession i sc)).state.slot? i = some id ∧
        ((w.step (.onSession i sc)).state.ledger.transaction id).queries =
          (w.ledger.transaction id).queries ++ [q]
  /-- The database is the schema that was set last, or that of the profile. -/
  database : s.profile = p ∧ s.database = names.getLastD p.database
  /-- The request for statements to come is on that database. -/
  request : s.request.settings.database = some s.database
  /-- It asks for nothing yet. -/
  blank : s.request.Blank
  /-- So no query is sent as a write. -/
  reads : ∀ j q params, w.statement? j = some ⟨i, .query q⟩ →
    ∃ s' rs, (w.step (.onStatement j (.execute params))).state.session? i = some s' ∧
      s'.transport.sent = s.transport.sent ++ rs ∧ ∀ r ∈ rs, r.write = false ∧ r.input = []

/-- **An open session stays in step**, whatever was done in the workspace before and since it
opened. -/
theorem open_final {cs cs' : List Command} {o : Options} {t : Transport} {signal : Option Signal}
    {s₀ s : Session}
    (hopen : (Session.openWith (empty.final cs).ledger o t (signal.getD .never)).answer = .ok s₀)
    (hs : (((empty.final cs).step (.connect o t signal)).state.final cs').session?
      (empty.final cs).sessions.length = some s)
    (ho : s.closed = false) :
    (negotiate o (Request.ofOptions o) t (signal.getD .never)).answer = .ok s₀.profile ∧
      Open (((empty.final cs).step (.connect o t signal)).state.final cs')
        (empty.final cs).sessions.length s s₀.profile
        (schemas ((empty.final cs).step (.connect o t signal)).state
          (empty.final cs).sessions.length cs') := by
  have hsome : (Session.openWith (empty.final cs).ledger o t (signal.getD .never)).answer.toOption =
      some s₀ := by
    rw [hopen]
    rfl
  obtain ⟨hanswer, hs₀⟩ := Session.openWith_eq_some hsome
  have hrun : ((empty.final cs).step (.connect o t signal)).state.final cs' =
      empty.final (cs ++ .connect o t signal :: cs') :=
    (final_append empty cs (.connect o t signal :: cs')).symm
  obtain ⟨hprofile, hdatabase⟩ := database_final (session?_connect hsome) hs
  generalize schemas _ _ cs' = names at hdatabase ⊢
  generalize (empty.final cs).sessions.length = i at hs ⊢
  rw [hrun] at hs ⊢
  generalize cs ++ .connect o t signal :: cs' = run at hs ⊢
  have hinStep : (empty.final run).InStep := inStep_final run
  have hseated : s.Seated := seated_final run i s hs
  have hhoused : (empty.final run).Housed := housed_final run
  have hfirst : s₀.database = s₀.profile.database := by
    rw [hs₀]
    rfl
  have hs' := hinStep.sessions i s hs
  refine ⟨hanswer, hseated ho, fun hc => ?_, fun sc e he => ?_, fun ha => ?_,
    ⟨hprofile, hfirst ▸ hdatabase⟩, hs'.database, hs'.blank, fun j q params hq => ?_⟩
  · exact hs'.gated (hs'.compliant.trans (hprofile ▸ hc))
  · simp only [step, hs] at he
    exact stateless_stepSession hseated he
  · cases hid : s.manager.slot with
    | none => exact Bool.noConfusion (((hseated ho).1 hid).symm.trans ha)
    | some id =>
      have hhas := hhoused.has i id ((slot?_of_session? hs).trans hid)
      exact ⟨id, rfl, fun sc q hq => queries_stepSession hs hid hhas hq⟩
  · exact sent_execute_query hinStep hs hq params

/-- A session in manual commit on its third database, with a query that is prepared. -/
theorem open_final_schemas :
    let o := (Options.ofNode (Node.ofHost "h")).set (.serverInfo "UTC" "23.3")
    let t := Transport.ofResponses []
    let w := (empty.step (.connect o t none)).state
    let cs := [.onSession 0 (.act (.setAutocommit false)), .onSession 0 (.act (.setSchema "a")),
      .onSession 0 (.act (.setSchema "")), .onSession 0 (.act (.setSchema "b")),
      .onSession 0 (.act (.prepare "select ?"))]
    ∃ s₀ s, (Session.openWith Ledger.empty o t .never).answer = .ok s₀ ∧
      (w.final cs).session? 0 = some s ∧ s.closed = false ∧ w.schemas 0 cs = ["a", "b"] ∧
      (negotiate o (Request.ofOptions o) t .never).answer = .ok s₀.profile ∧
      Open (w.final cs) 0 s s₀.profile (w.schemas 0 cs) := by
  intro o t w cs
  have hopens : (Session.openWith Ledger.empty o t .never).answer.isOk = true := by decide +kernel
  obtain ⟨s₀, hopen⟩ := exists_eq_ok hopens
  have hstays : ((w.final cs).session? 0).map (·.closed) = some false := by decide +kernel
  obtain ⟨s, hs, ho⟩ := Option.map_eq_some_iff.1 hstays
  have hnames : w.schemas 0 cs = ["a", "b"] := by decide +kernel
  exact ⟨s₀, s, hopen, hs, ho, hnames, @open_final [] cs o t none s₀ s hopen hs ho⟩

end Workspace

end StatelessSession
