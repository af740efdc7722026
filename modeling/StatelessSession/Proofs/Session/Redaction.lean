import StatelessSession.Session.Workspace

/-!
# Sessions with their passwords blanked

Nothing that a session decides, answers or reports may depend on its password. Here every password
in a workspace is blanked, wherever the program keeps a copy of it, and every function is shown to
commute with that: it makes no difference whether the passwords are blanked before or after.

* `Request.redacted` and its kin -- blanking, for all data that hold a request.
* `Outcome.mapState`, `Outcome.mapBoth`, `Reaction.mapBoth` -- results in another form.
* `execute_redacted`, `negotiate_redacted`, `openWith_redacted` -- requests, the negotiation,
  opening.
* **`perform_redacted`** -- every action of a session.
* **`step_redacted`** -- every command.

NOT here: two runs that differ in their passwords (`Secrecy`).
-/

namespace StatelessSession

/-! ## 1. Blanking -/

/-- What is left of a password: whether there is one. -/
def blanked (password : Option String) : Option String := password.map fun _ => ""

/-- The options with their password blanked. -/
def Options.redacted (o : Options) : Options := { o with password := blanked o.password }

/-- The request with its password blanked. -/
def Request.redacted (r : Request) : Request :=
  { r with settings := { r.settings with password := blanked r.settings.password } }

/-- The transport with the passwords blanked in what it was asked. -/
def Transport.redacted (t : Transport) : Transport := { t with sent := t.sent.map Request.redacted }

def PreparedQuery.redacted (p : PreparedQuery) : PreparedQuery :=
  { p with request := p.request.redacted }

def PreparedInsert.redacted (p : PreparedInsert) : PreparedInsert :=
  { p with request := p.request.redacted }

/-- The statement with the password blanked in its request. -/
def Statement.redacted : Statement → Statement
  | .query p => .query p.redacted
  | .insert p => .insert p.redacted

def Prepared.redacted (p : Prepared) : Prepared := { p with statement := p.statement.redacted }

/-- The session with the passwords blanked in its request and its transport. -/
def Session.redacted (s : Session) : Session :=
  { s with request := s.request.redacted, transport := s.transport.redacted }

def Negotiation.redacted (n : Negotiation) : Negotiation :=
  { n with request := n.request.redacted, transport := n.transport.redacted }

def Opening.redacted (x : Opening) : Opening :=
  { x with answer := x.answer.map Session.redacted, transport := x.transport.redacted }

def SessionBooks.redacted (b : SessionBooks) : SessionBooks :=
  { b with session := b.session.redacted }

/-- An answer of a session. Only a statement holds a request. -/
def SessionBooks.Answer.redacted : SessionBooks.Answer → SessionBooks.Answer
  | .statement s => .statement s.redacted
  | a => a

namespace Workspace

/-- The workspace with all passwords blanked. -/
def redacted (w : Workspace) : Workspace :=
  { w with
    sessions := w.sessions.map (Option.map Session.redacted)
    statements := w.statements.map (Option.map Prepared.redacted) }

/-- The command with the password of its options blanked. -/
def Command.redacted : Command → Command
  | .connect o t signal => .connect o.redacted t.redacted signal
  | c => c

/-- A reply with the passwords blanked in what it shows. -/
def Reply.redacted : Reply → Reply
  | .answer a => .answer a.redacted
  | .prepared n s => .prepared n s.redacted
  | .opening x => .opening x.redacted
  | .session s => .session s.redacted
  | .statement s => .statement s.redacted
  | .number n => .number n
  | .rows s => .rows s

end Workspace

/-- An outcome with its state in another form. -/
def Outcome.mapState {σ τ α : Type} (f : σ → τ) (o : Outcome σ α) : Outcome τ α :=
  ⟨o.answer, f o.state, o.events⟩

/-- An outcome with its state and its answer in another form. -/
def Outcome.mapBoth {σ τ α β : Type} (f : σ → τ) (g : α → β) (o : Outcome σ α) : Outcome τ β :=
  ⟨o.answer.map g, f o.state, o.events⟩

/-- A reaction with its state and its reply in another form. -/
def Reaction.mapBoth {σ τ α β : Type} (f : σ → τ) (g : α → β) (x : Reaction σ α) : Reaction τ β :=
  ⟨x.answer.map g, f x.state, x.events⟩

/-! ## 2. Statements -/

theorem Transport.record_redacted (t : Transport) (r : Request) :
    t.redacted.record r.redacted = (t.record r).redacted := by
  simp only [record, redacted, List.map_append, List.map_cons, List.map_nil]

/-- **A transport answers** without a look at the password. -/
theorem Transport.execute_redacted (t : Transport) (r : Request) :
    t.redacted.execute r.redacted = ((t.execute r).1, (t.execute r).2.redacted) := by
  unfold execute
  rw [record_redacted]
  generalize t.record r = t'
  rcases t' with ⟨responses, sent, alive, pings, closeCalls, closeError⟩
  cases responses with
  | nil => rfl
  | cons response rest => rfl

theorem PreparedQuery.execute_redacted (p : PreparedQuery) (closed : Bool) (t : Transport)
    (params : List Value) :
    p.redacted.execute closed t.redacted params =
      (p.execute closed t params).mapState Transport.redacted := by
  cases closed with
  | true => rfl
  | false =>
    simp only [execute, redacted, Bool.false_eq_true, if_false]
    cases p.query.bind params with
    | error e => rfl
    | ok sql =>
      have ht : t.redacted.execute (p.request.redacted.withQuery sql (some p.id)) = _ :=
        t.execute_redacted (p.request.withQuery sql (some p.id))
      simp only [ht]
      rfl

theorem PreparedInsert.execute_redacted (p : PreparedInsert) (closed : Bool) (t : Transport) :
    p.redacted.execute closed t.redacted =
      (p.execute closed t).mapState fun pt => (pt.1.redacted, pt.2.redacted) := by
  cases closed with
  | true => rfl
  | false =>
    have ht : t.redacted.execute p.redacted.shipment = _ := t.execute_redacted p.shipment
    simp only [execute, Bool.false_eq_true, if_false, ht]
    rfl

theorem PreparedInsert.addRow_redacted (p : PreparedInsert) (row : List Value) :
    p.redacted.addRow row = (p.addRow row).mapState PreparedInsert.redacted := by
  unfold addRow
  show (if row.length = p.columns.length then _ else _) = _
  split
  · rfl
  · rfl

/-! ## 3. Opening -/

namespace Negotiation

theorem facts_redacted (o : Options) (r : Request) (t : Transport) (signal : Signal) :
    facts o.redacted r.redacted t.redacted signal =
      ((facts o r t signal).1, (facts o r t signal).2.1.redacted,
        (facts o r t signal).2.2.1.redacted, (facts o r t signal).2.2.2) := by
  have hinfo : o.redacted.serverInfo? = o.serverInfo? := rfl
  unfold facts
  rw [hinfo]
  cases o.serverInfo? with
  | some info => rfl
  | none =>
    cases signal with
    | before => rfl
    | during =>
      have ht : t.redacted.record (probeRequest r.redacted) = _ :=
        t.record_redacted (probeRequest r)
      simp only [ht]
    | never =>
      have ht : t.redacted.execute (probeRequest r.redacted) = _ :=
        t.execute_redacted (probeRequest r)
      simp only [ht]
      cases factsOfAnswer (t.execute (probeRequest r)).1 with
      | error e => rfl
      | ok f => rfl

end Negotiation

theorem negotiate_redacted (o : Options) (r : Request) (t : Transport) (signal : Signal) :
    negotiate o.redacted r.redacted t.redacted signal = (negotiate o r t signal).redacted := by
  unfold negotiate
  rw [Negotiation.facts_redacted]
  dsimp only
  cases (Negotiation.facts o r t signal).1 with
  | error e => rfl
  | ok f => rfl

/-- **A session opens** without a look at the password. -/
theorem Session.openWith_redacted (l : Ledger) (o : Options) (t : Transport) (signal : Signal) :
    openWith l o.redacted t.redacted signal = (openWith l o t signal).redacted := by
  have hcheck : o.redacted.validate = o.validate := rfl
  have hn : negotiate o.redacted (Request.ofOptions o.redacted) t.redacted signal = _ :=
    negotiate_redacted o (Request.ofOptions o) t signal
  unfold openWith
  rw [hcheck, hn]
  cases o.validate with
  | error f => rfl
  | ok _ =>
    generalize negotiate o (Request.ofOptions o) t signal = n
    rcases n with ⟨answer, request, transport, cancelled, events⟩
    cases answer with
    | error e => rfl
    | ok profile => rfl

/-! ## 4. Actions -/

namespace SessionBooks

variable {α : Type} {b : SessionBooks}

@[simp] theorem closed_redacted (b : SessionBooks) :
    b.redacted.session.closed = b.session.closed := rfl

theorem whenOpen_redacted {o o' : Outcome SessionBooks α} (h : o' = o.mapState redacted) :
    b.redacted.whenOpen o' = (b.whenOpen o).mapState redacted := by
  unfold whenOpen
  rw [h, closed_redacted]
  split
  · rfl
  · rfl

/-- The manager has no part in the request. -/
theorem manage_redacted (b : SessionBooks) (op : Books → Outcome Books α) :
    b.redacted.manage op = (b.manage op).mapState redacted :=
  whenOpen_redacted rfl

/-- An answer that holds no request is the same. -/
theorem answering_redacted {f : α → Answer} (hf : ∀ a, (f a).redacted = f a)
    {o o' : Outcome SessionBooks α} (h : o' = o.mapState redacted) :
    answering f o' = (answering f o).mapBoth redacted Answer.redacted := by
  rw [h]
  rcases o with ⟨answer, state, events⟩
  cases answer with
  | error e => rfl
  | ok a => exact congrArg (fun x => Outcome.mk (.ok x) state.redacted events) (hf a).symm

theorem get_redacted {f : α → Answer} (hf : ∀ a, (f a).redacted = f a)
    (x : Except SessionError α) :
    b.redacted.unchanged (x.map f) = (b.unchanged (x.map f)).mapBoth redacted Answer.redacted := by
  cases x with
  | error e => rfl
  | ok a => exact congrArg (fun x => b.redacted.unchanged (.ok x)) (hf a).symm

/-- A statement that is prepared takes the request along. -/
theorem prepare_redacted (b : SessionBooks) (sql : String) :
    b.redacted.prepare sql = (b.prepare sql).mapBoth redacted Statement.redacted := by
  unfold prepare whenOpen
  rw [closed_redacted]
  cases b.session.closed with
  | true => rfl
  | false =>
    cases Sql.Shape.ofSql sql with
    | error f => rfl
    | ok shape =>
      cases shape with
      | parameterized query unfit => rfl
      | streaming columns => rfl

theorem setClientInfo_redacted (b : SessionBooks) (name : String) (v : Option String) :
    b.redacted.setClientInfo name v = (b.setClientInfo name v).mapState redacted := by
  unfold setClientInfo
  rw [closed_redacted]
  split
  · rfl
  · cases ClientProperty.ofName? name with
    | none => rfl
    | some p => rfl

theorem setClientInfoAll_redacted (b : SessionBooks) (values : List (String × String)) :
    b.redacted.setClientInfoAll values = (b.setClientInfoAll values).mapState redacted := by
  unfold setClientInfoAll
  rw [closed_redacted]
  split
  · rfl
  · rfl

theorem setSchema_redacted (b : SessionBooks) (name : String) :
    b.redacted.setSchema name = (b.setSchema name).mapState redacted := by
  have hdatabase : b.redacted.session.database = b.session.database := rfl
  refine whenOpen_redacted ?_
  rw [hdatabase]
  split
  · rfl
  split
  · rfl
  · rfl

theorem isValid_redacted (b : SessionBooks) (seconds : Int) :
    b.redacted.isValid seconds = (b.isValid seconds).mapState redacted := by
  unfold isValid
  rw [closed_redacted]
  split
  · rfl
  split
  · rfl
  · rfl

/-- Shutting looks at the transport, not at what it was asked. -/
theorem shut_redacted (b : SessionBooks) :
    b.redacted.shut = (b.shut.1, b.shut.2.1.redacted, b.shut.2.2) := rfl

theorem close_redacted (b : SessionBooks) : b.redacted.close = b.close.mapState redacted := by
  unfold close
  rw [closed_redacted, shut_redacted]
  split
  · rfl
  · dsimp only
    cases b.shut.1 with
    | none => rfl
    | some e => rfl

theorem abort_redacted (b : SessionBooks) : b.redacted.abort = b.abort.mapState redacted := by
  unfold abort
  rw [closed_redacted, shut_redacted]
  split
  · rfl
  · rfl

/-- **Every action** leaves and answers the same with the passwords blanked. -/
theorem perform_redacted (b : SessionBooks) (a : Action) :
    b.redacted.perform a = (b.perform a).mapBoth redacted Answer.redacted := by
  have hdone : ∀ _ : Unit, Answer.done.redacted = .done := fun _ => rfl
  -- all actions but one answer without a request
  cases a with
  | setAutocommit enable => exact answering_redacted hdone (manage_redacted b _)
  | autocommit => exact get_redacted (fun _ => rfl) _
  | commit => exact answering_redacted hdone (manage_redacted b _)
  | rollback => exact answering_redacted hdone (manage_redacted b _)
  | setSavepoint name => exact answering_redacted (fun _ => rfl) (manage_redacted b _)
  | rollbackTo s => exact answering_redacted hdone (manage_redacted b _)
  | release s => exact answering_redacted hdone (manage_redacted b _)
  | newQueryId => rfl
  | prepare sql =>
    refine (congrArg (answering .statement) (prepare_redacted b sql)).trans ?_
    show _ = (answering .statement (b.prepare sql)).mapBoth redacted Answer.redacted
    generalize b.prepare sql = o
    rcases o with ⟨answer, state, events⟩
    cases answer with
    | error e => rfl
    | ok s => rfl
  | nativeSql sql => exact get_redacted (fun _ => rfl) _
  | setReadOnly v => exact answering_redacted hdone (whenOpen_redacted rfl)
  | setCatalog name => exact answering_redacted hdone (whenOpen_redacted rfl)
  | setIsolation level =>
    refine answering_redacted hdone (whenOpen_redacted ?_)
    split
    · rfl
    · rfl
  | setHoldability v => exact answering_redacted hdone (whenOpen_redacted rfl)
  | setNetworkTimeout ms =>
    refine answering_redacted hdone (whenOpen_redacted ?_)
    split
    · rfl
    · rfl
  | setClientInfo name v => exact answering_redacted hdone (setClientInfo_redacted b name v)
  | setClientInfoAll values => exact answering_redacted hdone (setClientInfoAll_redacted b values)
  | clientInfo name => exact get_redacted (fun _ => rfl) _
  | clientInfoAll => exact get_redacted (fun _ => rfl) _
  | setSchema name => exact answering_redacted hdone (setSchema_redacted b name)
  | schema => exact get_redacted (fun _ => rfl) _
  | isValid seconds => exact answering_redacted (fun _ => rfl) (isValid_redacted b seconds)
  | close => exact answering_redacted hdone (close_redacted b)
  | abort => exact answering_redacted hdone (abort_redacted b)

end SessionBooks

/-! ## 5. Commands -/

namespace Workspace

theorem session?_redacted (w : Workspace) (i : Nat) :
    w.redacted.session? i = (w.session? i).map Session.redacted := by
  unfold session?
  show (w.sessions.map (Option.map Session.redacted))[i]?.join = _
  rw [List.getElem?_map]
  cases w.sessions[i]? with
  | none => rfl
  | some s => rfl

theorem putSession_redacted (w : Workspace) (i : Nat) (s : Session) :
    w.redacted.putSession i s.redacted = (w.putSession i s).redacted := by
  simp only [putSession, redacted, List.map_set, Option.map_some]

theorem putBooks_redacted (w : Workspace) (i : Nat) (b : SessionBooks) :
    w.redacted.putBooks i b.redacted = (w.putBooks i b).redacted := by
  have hs : w.redacted.putSession i b.session.redacted = _ := putSession_redacted w i b.session
  exact congrArg (fun w : Workspace => { w with ledger := b.ledger }) hs

theorem putStatement_redacted (w : Workspace) (i : Nat) (p : Option Prepared) :
    w.redacted.putStatement i (p.map Prepared.redacted) = (w.putStatement i p).redacted := by
  simp only [putStatement, redacted, List.map_set]

theorem connect_redacted (w : Workspace) (o : Options) (t : Transport) (signal : Option Signal) :
    w.redacted.connect o.redacted t.redacted signal =
      (w.connect o t signal).mapBoth redacted Reply.redacted := by
  unfold connect
  have hx : Session.openWith w.redacted.ledger o.redacted t.redacted (signal.getD .never) = _ :=
    Session.openWith_redacted w.ledger o t (signal.getD .never)
  rw [hx]
  generalize Session.openWith w.ledger o t (signal.getD .never) = x
  rcases x with ⟨answer, ledger, transport, cancelled, events⟩
  cases answer with
  | error e =>
    simp only [redacted, Reaction.mapBoth, List.map_append]
    rfl
  | ok s =>
    simp only [redacted, Reaction.mapBoth, List.map_append]
    rfl

theorem register_redacted (w : Workspace) (i : Nat) (a : SessionBooks.Answer) :
    w.redacted.register i a.redacted =
      ((w.register i a).1.redacted, (w.register i a).2.redacted) := by
  cases a with
  | statement s =>
    simp only [register, redacted, List.map_append, SessionBooks.Answer.redacted, List.length_map]
    rfl
  | _ => rfl

theorem act_redacted (w : Workspace) (i : Nat) (s : Session) (a : SessionBooks.Action) :
    w.redacted.act i s.redacted a = (w.act i s a).mapBoth redacted Reply.redacted := by
  unfold act
  have ho : SessionBooks.perform ⟨w.redacted.ledger, s.redacted⟩ a = _ :=
    SessionBooks.perform_redacted ⟨w.ledger, s⟩ a
  rw [ho]
  generalize SessionBooks.perform ⟨w.ledger, s⟩ a = o
  rcases o with ⟨answer, state, events⟩
  have hput : w.redacted.putBooks i state.redacted = _ := putBooks_redacted w i state
  cases answer with
  | error e =>
    show Reaction.mk _ (w.redacted.putBooks i state.redacted) events = _
    rw [hput]
    rfl
  | ok a =>
    show Reaction.mk (.ok ((w.redacted.putBooks i state.redacted).register i a.redacted).1)
      ((w.redacted.putBooks i state.redacted).register i a.redacted).2 events = _
    rw [hput, register_redacted (w.putBooks i state) i a]
    rfl

theorem withSavepoint_redacted (w : Workspace) (n : Nat)
    {f g : Savepoint → Reaction Workspace Reply}
    (h : ∀ s, g s = (f s).mapBoth redacted Reply.redacted) :
    w.redacted.withSavepoint n g = (w.withSavepoint n f).mapBoth redacted Reply.redacted := by
  have hsaved : w.redacted.savepoints = w.savepoints := rfl
  simp only [withSavepoint, hsaved]
  cases w.savepoints[n]? with
  | none => rfl
  | some s => exact h s

theorem changeTransport_redacted (w : Workspace) (i : Nat) (s : Session)
    (f : Transport → Transport) (hf : f s.transport.redacted = (f s.transport).redacted) :
    w.redacted.changeTransport i s.redacted f =
      (w.changeTransport i s f).mapBoth redacted Reply.redacted := by
  have ht : f s.redacted.transport = (f s.transport).redacted := hf
  have hs : w.redacted.putSession i { s.redacted with transport := (f s.transport).redacted } = _ :=
    putSession_redacted w i { s with transport := f s.transport }
  simp only [changeTransport, ht, hs]
  rfl

theorem stepSession_redacted (w : Workspace) (i : Nat) (s : Session) (c : SessionCommand) :
    w.redacted.stepSession i s.redacted c =
      (w.stepSession i s c).mapBoth redacted Reply.redacted := by
  cases c with
  | act a => exact act_redacted w i s a
  | rollbackTo n => exact withSavepoint_redacted w n fun sp => act_redacted w i s _
  | release n => exact withSavepoint_redacted w n fun sp => act_redacted w i s _
  | hold =>
    have hslot : s.redacted.manager.slot = s.manager.slot := rfl
    simp only [stepSession, hslot]
    cases s.manager.slot with
    | none => rfl
    | some id => rfl
  | scheduleAbort => rfl
  | inspect => rfl
  | pushResponse response => exact changeTransport_redacted w i s (·.push response) rfl
  | setAlive v => exact changeTransport_redacted w i s ({ · with alive := v }) rfl
  | failClose e =>
    exact changeTransport_redacted w i s ({ · with closeError := some e }) rfl

theorem execute_redacted (w : Workspace) (i : Nat) (p : Prepared) (params : List Value)
    (s : Session) :
    w.redacted.execute i p.redacted params s.redacted =
      (w.execute i p params s).mapBoth redacted Reply.redacted := by
  -- a statement may be executed over any session, so both are blanked by themselves
  rcases p with ⟨session, statement⟩
  cases statement with
  | query q =>
    have ho : q.redacted.execute s.redacted.closed s.redacted.transport params = _ :=
      q.execute_redacted s.closed s.transport params
    simp only [execute, Prepared.redacted, Statement.redacted, ho]
    generalize q.execute s.closed s.transport params = o
    rcases o with ⟨answer, t, events⟩
    have hs : w.redacted.putSession session { s.redacted with transport := t.redacted } = _ :=
      putSession_redacted w session { s with transport := t }
    simp only [Outcome.mapState, hs]
    cases answer with
    | error e => rfl
    | ok rows => rfl
  | insert q =>
    have ho : q.redacted.execute s.redacted.closed s.redacted.transport = _ :=
      q.execute_redacted s.closed s.transport
    simp only [execute, Prepared.redacted, Statement.redacted, ho]
    generalize q.execute s.closed s.transport = o
    rcases o with ⟨answer, ⟨q', t⟩, events⟩
    have hs : w.redacted.putSession session { s.redacted with transport := t.redacted } = _ :=
      putSession_redacted w session { s with transport := t }
    have hq : (w.putSession session { s with transport := t }).redacted.putStatement i
        (some ⟨session, .insert q'.redacted⟩) = _ :=
      putStatement_redacted _ i (some ⟨session, .insert q'⟩)
    simp only [Outcome.mapState, hs, hq]
    cases answer with
    | error e => rfl
    | ok n => rfl

theorem stepStatement_redacted (w : Workspace) (i : Nat) (p : Prepared) (c : StatementCommand) :
    w.redacted.stepStatement i p.redacted c =
      (w.stepStatement i p c).mapBoth redacted Reply.redacted := by
  cases c with
  | execute params =>
    have hs : w.redacted.session? p.redacted.session = _ := session?_redacted w p.session
    simp only [stepStatement, hs]
    cases w.session? p.session with
    | none => rfl
    | some s => exact execute_redacted w i p params s
  | addRow row =>
    rcases p with ⟨session, statement⟩
    cases statement with
    | query q => rfl
    | insert q =>
      simp only [stepStatement, Prepared.redacted, Statement.redacted, q.addRow_redacted]
      generalize q.addRow row = o
      rcases o with ⟨answer, q', events⟩
      have hq : w.redacted.putStatement i (some ⟨session, .insert q'.redacted⟩) = _ :=
        putStatement_redacted w i (some ⟨session, .insert q'⟩)
      simp only [Outcome.mapState, hq]
      cases answer with
      | error e => rfl
      | ok _ => rfl
  | clearRows =>
    rcases p with ⟨session, statement⟩
    cases statement with
    | query q => rfl
    | insert q =>
      have hq : w.redacted.putStatement i (some ⟨session, .insert q.redacted.clearRows⟩) = _ :=
        putStatement_redacted w i (some ⟨session, .insert q.clearRows⟩)
      simp only [stepStatement, Prepared.redacted, Statement.redacted, hq]
      rfl
  | convert toInsert =>
    have hkind : p.redacted.statement.isInsert = p.statement.isInsert := by
      rcases p with ⟨session, statement⟩
      cases statement with
      | query q => rfl
      | insert q => rfl
    simp only [stepStatement, hkind]
    generalize (p.statement.isInsert == toInsert) = fits
    have hkept : (if fits = true then some p.redacted else none) =
        (if fits = true then some p else none).map Prepared.redacted := by
      cases fits with
      | true => rfl
      | false => rfl
    rw [hkept, putStatement_redacted]
    rfl
  | inspect => rfl

theorem onStatement_redacted (w : Workspace) (i : Nat) (c : StatementCommand) :
    w.redacted.onStatement i c = (w.onStatement i c).mapBoth redacted Reply.redacted := by
  have hp : w.redacted.statements[i]? = w.statements[i]?.map (Option.map Prepared.redacted) :=
    List.getElem?_map
  simp only [onStatement, hp]
  cases w.statements[i]? with
  | none => rfl
  | some p =>
    cases p with
    | none => cases c <;> rfl
    | some p => exact stepStatement_redacted w i p c

theorem runAborts_redacted (w : Workspace) (is : List Nat) :
    w.redacted.runAborts is = ((w.runAborts is).1.redacted, (w.runAborts is).2) := by
  induction is generalizing w with
  | nil => rfl
  | cons i is ih =>
    simp only [runAborts, session?_redacted]
    cases w.session? i with
    | none => exact ih w
    | some s =>
      have ho : SessionBooks.abort ⟨w.redacted.ledger, s.redacted⟩ = _ :=
        SessionBooks.abort_redacted ⟨w.ledger, s⟩
      simp only [Option.map_some, ho, Outcome.mapState, putBooks_redacted, ih]

/-- **Every command** leaves and answers the same with the passwords blanked. -/
theorem step_redacted (w : Workspace) (c : Command) :
    w.redacted.step c.redacted = (w.step c).mapBoth redacted Reply.redacted := by
  have hheld : w.redacted.held = w.held := rfl
  cases c with
  | connect o t signal => exact connect_redacted w o t signal
  | onSession i c =>
    simp only [step, Command.redacted, session?_redacted]
    cases w.session? i with
    | none => rfl
    | some s => exact stepSession_redacted w i s c
  | onStatement i c => exact onStatement_redacted w i c
  | newQueryIn n =>
    simp only [step, Command.redacted, hheld]
    cases w.held[n]? with
    | none => rfl
    | some id => rfl
  | inspectHeld n =>
    simp only [step, Command.redacted, hheld]
    cases w.held[n]? with
    | none => rfl
    | some id => rfl
  | join =>
    have hruns : w.redacted.runAborts w.redacted.aborts = _ := runAborts_redacted w w.aborts
    simp only [step, Command.redacted, hruns]
    rfl

end Workspace

end StatelessSession
