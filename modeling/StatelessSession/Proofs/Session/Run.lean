import StatelessSession.Session.Workspace

/-!
# Sessions over a run

A workspace holds many sessions, and a command changes one of them at most, or, where aborts are
joined, some of them in the same way. This file says once what a command can do to a session and to
a statement, so that an invariant of sessions is a fact about single actions.

* `Workspace.final`, `final_induction` -- the workspace that a run leaves.
* `Command.Orders` -- which action a command has a session carry out.
* `Moved`, **`moved_step`** -- what becomes of the session with a number; `Became`, `became_step` --
  the same for a session that opened before.
* `Derived`, **`derived_step`** -- where a statement comes from, and what it keeps.
* `Numbering`, `numbering_step` -- which numbers statements get.
* `withSavepoint_induction` -- commands that name a savepoint.
* `Owned` -- every statement belongs to a session that opened.

NOT here: what single actions do to a session (`ServerFacts`, `Failures`).
-/

namespace StatelessSession

theorem exists_eq_ok {ε α : Type} {x : Except ε α} (h : x.isOk = true) : ∃ a, x = .ok a := by
  cases x with
  | error e => cases h
  | ok a => exact ⟨a, rfl⟩

theorem eq_ok_of_toOption {ε α : Type} {x : Except ε α} {a : α} (h : x.toOption = some a) :
    x = .ok a := by
  cases x with
  | error e => cases h
  | ok b => rw [Option.some.inj h]

/-- **What the far side of a transport leaves alone**: what it was asked. -/
structure Transport.Unasked (t t' : Transport) : Prop where
  sent : t'.sent = t.sent
  pings : t'.pings = t.pings
  closeCalls : t'.closeCalls = t.closeCalls

/-- A request that the execution of a statement with parameters sends. -/
inductive Statement.Asks (params : List Value) : Statement → Request → Prop where
  | query {p : PreparedQuery} {sql : String} (bound : p.query.bind params = .ok sql) :
      Asks params (.query p) (p.request.withQuery sql (some p.id))
  | insert (p : PreparedInsert) : Asks params (.insert p) p.shipment

/-- **A session opens** with the profile, the request and the transport of its negotiation, and with
    a new manager. -/
theorem Session.openWith_eq_some {l : Ledger} {o : Options} {t : Transport} {signal : Signal}
    {s : Session} (h : (openWith l o t signal).answer.toOption = some s) :
    (negotiate o (Request.ofOptions o) t signal).answer = .ok s.profile ∧
      s = ofProfile s.profile (negotiate o (Request.ofOptions o) t signal).request
        (negotiate o (Request.ofOptions o) t signal).transport
        (Books.opened l o.compliant).manager o.compliant := by
  simp only [openWith] at h
  generalize negotiate o (Request.ofOptions o) t signal = n at h ⊢
  split at h
  · cases h
  split at h
  · cases h
  · rename_i profile hanswer
    cases h
    exact ⟨hanswer, rfl⟩

namespace Workspace

/-! ## 1. Runs -/

/-- The workspace that a run leaves. -/
def final (w : Workspace) : List Command → Workspace
  | [] => w
  | c :: cs => (w.step c).state.final cs

/-- What every command keeps, a run keeps. -/
theorem final_induction {P : Workspace → Prop} (step : ∀ w c, P w → P (w.step c).state)
    {w : Workspace} (h : P w) (cs : List Command) : P (w.final cs) := by
  induction cs generalizing w with
  | nil => exact h
  | cons c cs ih => exact ih (step w c h)

theorem final_append (w : Workspace) (cs cs' : List Command) :
    w.final (cs ++ cs') = (w.final cs).final cs' := by
  induction cs generalizing w with
  | nil => rfl
  | cons c cs ih => exact ih _

/-! ## 2. Sessions -/

/-- **The actions that a command has the session with number `i` carry out.** -/
inductive Command.Orders (i : Nat) : Command → SessionBooks.Action → Prop where
  | act (a : SessionBooks.Action) : Orders i (.onSession i (.act a)) a
  | rollbackTo (n : Nat) (sp : Savepoint) : Orders i (.onSession i (.rollbackTo n)) (.rollbackTo sp)
  | release (n : Nat) (sp : Savepoint) : Orders i (.onSession i (.release n)) (.release sp)
  | join : Orders i .join .abort

/-- **What a command can make of the session with number `i`.** -/
inductive Moved (w : Workspace) (c : Command) (i : Nat) : Option Session → Prop where
  | same : Moved w c i (w.session? i)
  /-- It opens. -/
  | opened {o : Options} {t : Transport} {signal : Option Signal}
      (command : c = .connect o t signal) (last : i = w.sessions.length) :
      Moved w c i (Session.openWith w.ledger o t (signal.getD .never)).answer.toOption
  /-- It carries out an action, over whatever ledger there is by then. -/
  | act {s : Session} (session : w.session? i = some s) (l : Ledger) (a : SessionBooks.Action)
      (orders : c.Orders i a) :
      Moved w c i (some (SessionBooks.perform ⟨l, s⟩ a).state.session)
  /-- The far side changes, without having been asked. -/
  | farSide {s : Session} (session : w.session? i = some s) (t : Transport)
      (unasked : s.transport.Unasked t) : Moved w c i (some { s with transport := t })
  /-- A statement that it prepared is executed, which an open session does. -/
  | send {s : Session} (session : w.session? i = some s) {j : Nat} {params : List Value}
      (command : c = .onStatement j (.execute params)) {p : Prepared}
      (statement : w.statement? j = some p) (own : p.session = i) (r : Request)
      (asks : p.statement.Asks params r) (opened : s.closed = false) :
      Moved w c i (some { s with transport := (s.transport.execute r).2 })

/-- **What a command can make of the session `s` with number `i`**, once it has opened. -/
inductive Became (w : Workspace) (c : Command) (i : Nat) (s : Session) : Session → Prop where
  | same : Became w c i s s
  | act (l : Ledger) (a : SessionBooks.Action) (orders : c.Orders i a) :
      Became w c i s (SessionBooks.perform ⟨l, s⟩ a).state.session
  | farSide (t : Transport) (unasked : s.transport.Unasked t) :
      Became w c i s { s with transport := t }
  | send {j : Nat} {params : List Value} (command : c = .onStatement j (.execute params))
      {p : Prepared} (statement : w.statement? j = some p) (own : p.session = i) (r : Request)
      (asks : p.statement.Asks params r) (opened : s.closed = false) :
      Became w c i s { s with transport := (s.transport.execute r).2 }

variable {w : Workspace} {c : Command} {i j : Nat} {s : Session}

theorem lt_of_session? (hs : w.session? i = some s) : i < w.sessions.length := by
  rw [session?, Option.join_eq_some_iff] at hs
  exact (List.getElem?_eq_some_iff.1 hs).1

theorem session?_putSession (hj : j < w.sessions.length) (s : Session) :
    (w.putSession j s).session? i = if j = i then some s else w.session? i := by
  show (w.sessions.set j (some s))[i]?.join = _
  split
  · rename_i hji
    subst hji
    rw [List.getElem?_set_self hj, Option.join_some]
  · rename_i hji
    rw [List.getElem?_set_ne hji]
    rfl

theorem set_of_join {α : Type} {l : List (Option α)} {i : Nat} {a : α}
    (h : l[i]?.join = some a) : l.set i (some a) = l := by
  obtain ⟨hlt, hget⟩ := List.getElem?_eq_some_iff.1 (Option.join_eq_some_iff.1 h)
  rw [← hget, List.set_getElem_self]

theorem putSession_self (hs : w.session? i = some s) : w.putSession i s = w := by
  rw [putSession, set_of_join hs]

theorem session?_concat (w : Workspace) (l : Ledger) (s : Option Session) (i : Nat) :
    session? { w with ledger := l, sessions := w.sessions ++ [s] } i =
      if i = w.sessions.length then s else w.session? i := by
  show (w.sessions ++ [s])[i]?.join = _
  split
  · rename_i hi
    rw [hi, List.getElem?_concat_length, Option.join_some]
  · rename_i hi
    rcases Nat.lt_or_gt_of_ne hi with hlt | hgt
    · rw [List.getElem?_append_left hlt]
      rfl
    · rw [session?, List.getElem?_eq_none (Nat.le_of_lt hgt), List.getElem?_eq_none (by
        rw [List.length_append, List.length_singleton]
        exact hgt)]

/-- A session is put back. -/
theorem moved_putSession {w' : Workspace} {u : Session} (hj : w.session? j = some s)
    (hw : ∀ k, w'.session? k = (w.putSession j u).session? k) (hm : Moved w c j (some u)) :
    Moved w c i (w'.session? i) := by
  rw [hw, session?_putSession (lt_of_session? hj)]
  split
  · rename_i hji
    subst hji
    exact hm
  · exact .same

theorem session?_register (w : Workspace) (i k : Nat) (a : SessionBooks.Answer) :
    (w.register i a).2.session? k = w.session? k := by
  cases a <;> rfl

/-- A command for a session that opened. -/
theorem step_act (hs : w.session? i = some s) (a : SessionBooks.Action) :
    w.step (.onSession i (.act a)) = w.act i s a := by
  simp only [step, hs, stepSession]

theorem session?_act (w : Workspace) (i k : Nat) (s : Session) (a : SessionBooks.Action) :
    (w.act i s a).state.session? k =
      (w.putSession i (SessionBooks.perform ⟨w.ledger, s⟩ a).state.session).session? k := by
  unfold act
  dsimp only
  split
  · rfl
  · exact session?_register _ i k _

theorem session?_act_self (hs : w.session? i = some s) (a : SessionBooks.Action) :
    (w.act i s a).state.session? i =
      some (SessionBooks.perform ⟨w.ledger, s⟩ a).state.session := by
  rw [session?_act, session?_putSession (lt_of_session? hs), if_pos rfl]

theorem moved_act (hj : w.session? j = some s) {a : SessionBooks.Action} (ha : c.Orders j a) :
    Moved w c i ((w.act j s a).state.session? i) :=
  moved_putSession hj (fun k => session?_act w j k s a) (.act hj w.ledger a ha)

/-- What holds of an answer that nothing is there, and of whatever is done with a savepoint. -/
theorem withSavepoint_induction {P : Reaction Workspace Reply → Prop} {n : Nat}
    {f : Savepoint → Reaction Workspace Reply} (missing : P (.missing w .savepoint))
    (found : ∀ sp, P (f sp)) : P (w.withSavepoint n f) := by
  unfold withSavepoint
  split
  · exact missing
  · exact found _

theorem moved_withSavepoint {n : Nat} {f : Savepoint → Reaction Workspace Reply}
    (hf : ∀ sp, Moved w c i ((f sp).state.session? i)) :
    Moved w c i ((w.withSavepoint n f).state.session? i) :=
  withSavepoint_induction (P := fun r => Moved w c i (r.state.session? i)) .same hf

theorem moved_stepSession (hj : w.session? j = some s) (sc : SessionCommand) :
    Moved w (.onSession j sc) i ((w.stepSession j s sc).state.session? i) := by
  cases sc with
  | act a => exact moved_act hj (.act a)
  | rollbackTo n => exact moved_withSavepoint fun sp => moved_act hj (.rollbackTo n sp)
  | release n => exact moved_withSavepoint fun sp => moved_act hj (.release n sp)
  | hold =>
    simp only [stepSession]
    split
    · exact .same
    · exact .same
  | scheduleAbort => exact .same
  | inspect => exact .same
  | pushResponse response =>
    exact moved_putSession hj (fun _ => rfl) (.farSide hj _ ⟨rfl, rfl, rfl⟩)
  | setAlive v => exact moved_putSession hj (fun _ => rfl) (.farSide hj _ ⟨rfl, rfl, rfl⟩)
  | failClose e => exact moved_putSession hj (fun _ => rfl) (.farSide hj _ ⟨rfl, rfl, rfl⟩)

/-- A query asks its transport, or nothing happens. -/
theorem state_executeQuery (q : PreparedQuery) (closed : Bool) (t : Transport)
    (params : List Value) : (q.execute closed t params).state = t ∨
      closed = false ∧ ∃ r, (Statement.query q).Asks params r ∧
        (q.execute closed t params).state = (t.execute r).2 := by
  unfold PreparedQuery.execute
  split
  · exact .inl rfl
  rename_i hopen
  split
  · exact .inl rfl
  · rename_i sql hbind
    exact .inr ⟨Bool.eq_false_iff.2 hopen, _, .query hbind, rfl⟩

theorem state_executeInsert (q : PreparedInsert) (closed : Bool) (t : Transport) :
    (q.execute closed t).state = (q, t) ∨
      closed = false ∧ (q.execute closed t).state = (q.clearRows, (t.execute q.shipment).2) := by
  unfold PreparedInsert.execute
  split
  · exact .inl rfl
  · rename_i hopen
    exact .inr ⟨Bool.eq_false_iff.2 hopen, rfl⟩

theorem moved_execute {p : Prepared} (hj : w.session? p.session = some s)
    (hp : w.statement? j = some p) (params : List Value) :
    Moved w (.onStatement j (.execute params)) i ((w.execute j p params s).state.session? i) := by
  have hsame : Moved w (.onStatement j (.execute params)) p.session
      (some { s with transport := s.transport }) := by
    rw [show some { s with transport := s.transport } = w.session? p.session from hj.symm]
    exact .same
  cases hst : p.statement with
  | query q =>
    refine moved_putSession hj (u :=
      { s with transport := (q.execute s.closed s.transport params).state })
      (fun _ => by rw [execute, hst]) ?_
    rcases state_executeQuery q s.closed s.transport params with hq | ⟨hopen, r, hr, hq⟩
    · rw [hq]
      exact hsame
    · rw [hq]
      exact .send hj rfl hp rfl r (hst ▸ hr) hopen
  | insert q =>
    refine moved_putSession hj (u :=
      { s with transport := (q.execute s.closed s.transport).state.2 })
      (fun _ => by rw [execute, hst]; rfl) ?_
    rcases state_executeInsert q s.closed s.transport with hq | ⟨hopen, hq⟩
    · rw [hq]
      exact hsame
    · rw [hq]
      exact .send hj rfl hp rfl q.shipment (hst ▸ .insert q) hopen

theorem moved_stepStatement {p : Prepared} (hp : w.statement? j = some p) (sc : StatementCommand) :
    Moved w (.onStatement j sc) i ((w.stepStatement j p sc).state.session? i) := by
  cases sc with
  | execute params =>
    simp only [stepStatement]
    split
    · exact .same
    · rename_i s hj
      exact moved_execute hj hp params
  | addRow row =>
    simp only [stepStatement]
    split
    · exact .same
    · exact .same
  | clearRows =>
    simp only [stepStatement]
    split
    · exact .same
    · exact .same
  | convert toInsert => exact .same
  | inspect => exact .same

theorem moved_onStatement (j : Nat) (sc : StatementCommand) :
    Moved w (.onStatement j sc) i ((w.onStatement j sc).state.session? i) := by
  unfold onStatement
  split
  · exact .same
  · exact .same
  · exact .same
  · rename_i p hp
    exact moved_stepStatement (Option.join_eq_some_iff.2 hp) _

/-- A session that was aborted is closed, and another abort does nothing. -/
theorem closed_abort (b : SessionBooks) : b.abort.state.session.closed = true := by
  unfold SessionBooks.abort
  split
  · assumption
  · rfl

theorem session_abort_of_closed (l : Ledger) (h : s.closed = true) :
    (SessionBooks.abort ⟨l, s⟩).state.session = s := by
  rw [SessionBooks.abort, if_pos h]
  rfl

/-- However often its abort is scheduled, a session is aborted once. -/
theorem session?_runAborts (w : Workspace) (is : List Nat) (i : Nat) :
    (w.runAborts is).1.session? i = w.session? i ∨ ∃ s l, w.session? i = some s ∧
      (w.runAborts is).1.session? i = some (SessionBooks.abort ⟨l, s⟩).state.session := by
  induction is generalizing w with
  | nil => exact .inl rfl
  | cons j is ih =>
    unfold runAborts
    cases hj : w.session? j with
    | none => exact ih w
    | some s =>
      have hput := session?_putSession (i := i) (lt_of_session? hj)
        (SessionBooks.abort ⟨w.ledger, s⟩).state.session
      have hrest := ih (w.putBooks j (SessionBooks.abort ⟨w.ledger, s⟩).state)
      by_cases hji : j = i
      · subst hji
        rw [if_pos rfl] at hput
        refine .inr ⟨s, w.ledger, hj, ?_⟩
        rcases hrest with hsame | ⟨s', l, hs', habort⟩
        · exact hsame.trans hput
        · cases Option.some.inj (hput.symm.trans hs')
          exact habort.trans (congrArg some (session_abort_of_closed l (closed_abort _)))
      · rw [if_neg hji] at hput
        rcases hrest with hsame | ⟨s', l, hs', habort⟩
        · exact .inl (hsame.trans hput)
        · exact .inr ⟨s', l, hput.symm.trans hs', habort⟩

theorem moved_runAborts (w : Workspace) (is : List Nat) (i : Nat) :
    Moved w .join i ((w.runAborts is).1.session? i) := by
  rcases session?_runAborts w is i with hsame | ⟨s, l, hs, habort⟩
  · exact hsame ▸ .same
  · exact habort ▸ .act hs l .abort .join

/-- **Every command does one of these to each session.** -/
theorem moved_step (w : Workspace) (c : Command) (i : Nat) :
    Moved w c i ((w.step c).state.session? i) := by
  cases c with
  | connect o t signal =>
    refine (session?_concat w _ _ i).symm ▸ ?_
    split
    · rename_i hi
      exact .opened rfl hi
    · exact .same
  | onSession j sc =>
    simp only [step]
    split
    · exact .same
    · rename_i s hj
      exact moved_stepSession hj sc
  | onStatement j sc => exact moved_onStatement j sc
  | newQueryIn held =>
    simp only [step]
    split
    · exact .same
    · exact .same
  | inspectHeld held =>
    simp only [step]
    split
    · exact .same
    · exact .same
  | join => exact moved_runAborts w w.aborts i

/-- **A session that opened stays**, and this is all that becomes of it. -/
theorem became_of_moved (hs : w.session? i = some s) {o : Option Session} (hm : Moved w c i o) :
    ∃ s', o = some s' ∧ Became w c i s s' := by
  have hself {u : Session} (hu : w.session? i = some u) : u = s :=
    Option.some.inj (hu.symm.trans hs)
  cases hm with
  | same => exact ⟨s, hs, .same⟩
  | opened command last => exact absurd last (Nat.ne_of_lt (lt_of_session? hs))
  | act session l a orders =>
    cases hself session
    exact ⟨_, rfl, .act l a orders⟩
  | farSide session t unasked =>
    cases hself session
    exact ⟨_, rfl, .farSide t unasked⟩
  | send session command statement own r asks opened =>
    cases hself session
    exact ⟨_, rfl, .send command statement own r asks opened⟩

theorem became_step (hs : w.session? i = some s) (c : Command) :
    ∃ s', (w.step c).state.session? i = some s' ∧ Became w c i s s' :=
  became_of_moved hs (moved_step w c i)

/-! ## 3. Statements -/

/-- **Where the statement with number `j` can come from** after a command. -/
inductive Derived (w : Workspace) (j : Nat) : Prepared → Prop where
  | kept {p : Prepared} (statement : w.statement? j = some p) : Derived w j p
  /-- The rows to be shipped are others. -/
  | rows {i : Nat} {q : PreparedInsert} (statement : w.statement? j = some ⟨i, .insert q⟩)
      (rows : List (List Value)) : Derived w j ⟨i, .insert { q with rows }⟩
  /-- A session prepares it, and it takes the next number. -/
  | prepared {i : Nat} {s : Session} (session : w.session? i = some s) {a : SessionBooks.Action}
      {st : Statement}
      (answer : (SessionBooks.perform ⟨w.ledger, s⟩ a).answer = .ok (.statement st))
      (last : j = w.statements.length) :
      Derived w j ⟨i, st⟩

variable {p : Prepared}

theorem putStatement_self {p : Prepared} (hp : w.statement? j = some p) :
    w.putStatement j (some p) = w := by
  rw [putStatement, set_of_join hp]

/-- Nothing was done to statements. -/
theorem derived_of_statements {w' : Workspace} (hw : w'.statements = w.statements)
    (hp : w'.statement? j = some p) : Derived w j p :=
  .kept (by rw [← hp, statement?, statement?, hw])

theorem derived_putStatement {w' : Workspace} {k : Nat} {x : Option Prepared}
    (hw : w'.statements = (w.putStatement k x).statements) (hx : ∀ p, x = some p → Derived w k p)
    (hp : w'.statement? j = some p) : Derived w j p := by
  rw [statement?, hw, putStatement, List.getElem?_set] at hp
  split at hp
  · rename_i hkj
    subst hkj
    split at hp
    · exact hx p (by simpa using hp)
    · cases hp
  · exact .kept hp

theorem derived_act {i : Nat} {s : Session} (hs : w.session? i = some s) (a : SessionBooks.Action)
    (hp : (w.act i s a).state.statement? j = some p) : Derived w j p := by
  unfold act at hp
  dsimp only at hp
  split at hp
  · exact derived_of_statements rfl hp
  · rename_i answer ha
    cases answer with
    | statement st =>
      replace hp : (w.statements ++ [some ⟨i, st⟩])[j]?.join = some p := hp
      rw [Option.join_eq_some_iff, List.getElem?_append] at hp
      split at hp
      · exact .kept (Option.join_eq_some_iff.2 hp)
      · rename_i hge
        obtain ⟨hlt, -⟩ := List.getElem?_eq_some_iff.1 hp
        have hlast : j = w.statements.length := by
          rw [List.length_singleton] at hlt
          omega
        cases Option.some.inj (List.mem_singleton.1 (List.mem_of_getElem? hp))
        exact .prepared hs ha hlast
    | _ => exact derived_of_statements rfl hp

theorem derived_withSavepoint {n : Nat} {f : Savepoint → Reaction Workspace Reply}
    (hf : ∀ sp, (f sp).state.statement? j = some p → Derived w j p) :
    (w.withSavepoint n f).state.statement? j = some p → Derived w j p :=
  withSavepoint_induction (P := fun r => r.state.statement? j = some p → Derived w j p) .kept hf

theorem derived_stepSession {i : Nat} {s : Session} (hs : w.session? i = some s)
    (sc : SessionCommand) (hp : (w.stepSession i s sc).state.statement? j = some p) :
    Derived w j p := by
  cases sc with
  | act a => exact derived_act hs a hp
  | rollbackTo n => exact derived_withSavepoint (fun sp => derived_act hs _) hp
  | release n => exact derived_withSavepoint (fun sp => derived_act hs _) hp
  | hold =>
    refine derived_of_statements ?_ hp
    simp only [stepSession]
    split
    · rfl
    · rfl
  | scheduleAbort => exact derived_of_statements rfl hp
  | inspect => exact derived_of_statements rfl hp
  | pushResponse response => exact derived_of_statements rfl hp
  | setAlive v => exact derived_of_statements rfl hp
  | failClose e => exact derived_of_statements rfl hp

theorem derived_stepStatement {k : Nat} {q : Prepared} (hq : w.statement? k = some q)
    (sc : StatementCommand) (hp : (w.stepStatement k q sc).state.statement? j = some p) :
    Derived w j p := by
  obtain ⟨i, st⟩ := q
  have hrows {q : PreparedInsert} (hst : st = .insert q) (rows : List (List Value)) (p : Prepared)
      (hp : some (Prepared.mk i (.insert { q with rows })) = some p) : Derived w k p := by
    cases hp
    subst hst
    exact .rows hq rows
  cases sc with
  | execute params =>
    simp only [stepStatement] at hp
    split at hp
    · exact .kept hp
    rename_i s hs
    cases st with
    | query q => exact derived_of_statements rfl hp
    | insert q =>
      refine derived_putStatement (k := k) rfl ?_ hp
      rcases state_executeInsert q s.closed s.transport with hx | ⟨-, hx⟩
      · rw [hx]
        exact hrows rfl q.rows
      · rw [hx]
        exact hrows rfl []
  | addRow row =>
    simp only [stepStatement] at hp
    cases st with
    | query q => exact .kept hp
    | insert q =>
      refine derived_putStatement (k := k) rfl ?_ hp
      unfold PreparedInsert.addRow
      split
      · exact hrows rfl _
      · exact hrows rfl q.rows
  | clearRows =>
    simp only [stepStatement] at hp
    cases st with
    | query q => exact .kept hp
    | insert q => exact derived_putStatement (k := k) rfl (hrows rfl []) hp
  | convert toInsert =>
    refine derived_putStatement (k := k) rfl (fun p hp => ?_) hp
    dsimp only at hp
    split at hp
    · cases hp
      exact .kept hq
    · cases hp
  | inspect => exact .kept hp

theorem statements_runAborts (w : Workspace) (is : List Nat) :
    (w.runAborts is).1.statements = w.statements := by
  induction is generalizing w with
  | nil => rfl
  | cons j is ih =>
    unfold runAborts
    split
    · exact ih w
    · exact ih _

/-- **Every statement was there, or was prepared.** -/
theorem derived_step (hp : (w.step c).state.statement? j = some p) : Derived w j p := by
  cases c with
  | connect o t signal => exact derived_of_statements rfl hp
  | onSession i sc =>
    simp only [step] at hp
    split at hp
    · exact .kept hp
    · rename_i s hs
      exact derived_stepSession hs sc hp
  | onStatement k sc =>
    simp only [step, onStatement] at hp
    split at hp
    · exact .kept hp
    · exact .kept hp
    · exact .kept hp
    · rename_i q hq
      exact derived_stepStatement (Option.join_eq_some_iff.2 hq) _ hp
  | newQueryIn held =>
    simp only [step] at hp
    split at hp
    · exact .kept hp
    · exact derived_of_statements rfl hp
  | inspectHeld held =>
    simp only [step] at hp
    split at hp
    · exact .kept hp
    · exact .kept hp
  | join => exact derived_of_statements (statements_runAborts w w.aborts) hp

/-- **What comes of a command**: no number for a statement, or the next one, with an answer that
    says so. -/
inductive Numbering (w : Workspace) (r : Reaction Workspace Reply) : Prop where
  | none (same : r.state.statements.length = w.statements.length)
  | next {st : Statement} (answer : r.answer = .ok (.prepared w.statements.length st))
      (more : r.state.statements.length = w.statements.length + 1)

theorem numbering_act (w : Workspace) (i : Nat) (s : Session) (a : SessionBooks.Action) :
    w.Numbering (w.act i s a) := by
  unfold act
  dsimp only
  split
  · exact .none rfl
  · rename_i answer ha
    cases answer with
    | statement st => exact .next rfl List.length_append
    | _ => exact .none rfl

theorem numbering_stepSession (w : Workspace) (i : Nat) (s : Session) (sc : SessionCommand) :
    w.Numbering (w.stepSession i s sc) := by
  have hsavepoint (n : Nat) (f : Savepoint → SessionBooks.Action) :
      w.Numbering (w.withSavepoint n fun sp => w.act i s (f sp)) :=
    withSavepoint_induction (P := w.Numbering) (.none rfl) fun sp => numbering_act w i s (f sp)
  cases sc with
  | act a => exact numbering_act w i s a
  | rollbackTo n => exact hsavepoint n .rollbackTo
  | release n => exact hsavepoint n .release
  | hold =>
    simp only [stepSession]
    split
    · exact .none rfl
    · exact .none rfl
  | _ => exact .none rfl

theorem statements_length_stepStatement (w : Workspace) (j : Nat) (p : Prepared)
    (sc : StatementCommand) :
    (w.stepStatement j p sc).state.statements.length = w.statements.length := by
  have hput (w' : Workspace) (x : Option Prepared) :
      (w'.putStatement j x).statements.length = w'.statements.length := List.length_set
  cases sc with
  | execute params =>
    simp only [stepStatement]
    split
    · rfl
    rename_i s hs
    cases hst : p.statement with
    | query q =>
      simp only [execute, hst]
      rfl
    | insert q =>
      simp only [execute, hst]
      exact hput (w.putSession p.session _) _
  | addRow row =>
    simp only [stepStatement]
    split
    · rfl
    · exact hput w _
  | clearRows =>
    simp only [stepStatement]
    split
    · rfl
    · exact hput w _
  | convert toInsert => exact hput w _
  | inspect => rfl

theorem numbering_step (w : Workspace) (c : Command) : w.Numbering (w.step c) := by
  cases c with
  | connect o t signal => exact .none rfl
  | onSession i sc =>
    simp only [step]
    split
    · exact .none rfl
    · exact numbering_stepSession w i _ sc
  | onStatement j sc =>
    simp only [step, onStatement]
    split
    · exact .none rfl
    · exact .none rfl
    · exact .none rfl
    · exact .none (statements_length_stepStatement w j _ _)
  | newQueryIn held =>
    simp only [step]
    split
    · exact .none rfl
    · exact .none rfl
  | inspectHeld held =>
    simp only [step]
    split
    · exact .none rfl
    · exact .none rfl
  | join => exact .none (congrArg List.length (statements_runAborts w w.aborts))

/-- A session that opens takes the next number. -/
theorem session?_connect {o : Options} {t : Transport} {signal : Option Signal}
    (h : (Session.openWith w.ledger o t (signal.getD .never)).answer.toOption = some s) :
    (w.step (.connect o t signal)).state.session? w.sessions.length = some s := by
  rw [← h]
  exact (session?_concat w _ _ _).trans (if_pos rfl)

/-- **A command on a statement sends what the statement asks**, over its session, or nothing. -/
theorem sent_onStatement (hs : w.session? i = some s) (j : Nat) (sc : StatementCommand) :
    ∃ s', (w.step (.onStatement j sc)).state.session? i = some s' ∧
      (s'.transport.sent = s.transport.sent ∨ ∃ p params r, sc = .execute params ∧
        w.statement? j = some p ∧ p.session = i ∧ p.statement.Asks params r ∧
        s'.transport.sent = s.transport.sent ++ [r]) := by
  obtain ⟨s', hs', hb⟩ := became_step hs (.onStatement j sc)
  refine ⟨s', hs', ?_⟩
  cases hb with
  | same => exact .inl rfl
  | act l a orders => cases orders
  | farSide t unasked => exact .inl unasked.sent
  | @send _ params command p statement own r asks opened =>
    cases command
    exact .inr ⟨p, params, r, rfl, statement, own, asks, Transport.sent_execute _ _⟩

theorem step_onStatement {p : Prepared} (hp : w.statement? j = some p) (sc : StatementCommand) :
    w.step (.onStatement j sc) = w.stepStatement j p sc := by
  have hj : w.statements[j]? = some (some p) := Option.join_eq_some_iff.1 hp
  simp only [step, onStatement, hj]

/-- Every statement belongs to a session that opened. -/
def Owned (w : Workspace) : Prop :=
  ∀ j p, w.statement? j = some p → ∃ s, w.session? p.session = some s

theorem owned_empty : empty.Owned := fun j p hp => by
  simp [empty, statement?] at hp

theorem owned_step (h : w.Owned) (c : Command) : (w.step c).state.Owned := by
  intro j p hp
  have hbefore : ∃ s, w.session? p.session = some s := by
    cases derived_step hp with
    | kept hkept => exact h j p hkept
    | @rows k q hrows => exact h j ⟨k, .insert q⟩ hrows
    | prepared hs => exact ⟨_, hs⟩
  obtain ⟨s, hs⟩ := hbefore
  obtain ⟨s', hs', -⟩ := became_step hs c
  exact ⟨s', hs'⟩

theorem owned_final (cs : List Command) : (empty.final cs).Owned :=
  final_induction (P := Owned) (fun _ c h => owned_step h c) owned_empty cs

/-- The number that comes next is not that of a session. -/
theorem session?_length (w : Workspace) : w.session? w.sessions.length = none := by
  rw [session?, List.getElem?_eq_none (Nat.le_refl _)]
  rfl

end Workspace

end StatelessSession
