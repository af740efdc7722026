import StatelessSession.Session.Action

/-!
# What an action does to a session

There are two dozen actions, and few things that they do. An action is refused, or answered without
any effect; it has the manager do something; it hands out a query id; it records a setting; it pings
or closes the transport. This file says so once, and what holds of every action is shown by going
through these cases.

* `SessionError.late` -- the errors of what was done all the same; `Event.ends`, `Event.Calm` --
  the events that report the end of a transaction, and those that report none.
* `Books.Operates` -- what an action can have the manager do.
* `Session.Alike` -- what stays when a setting is recorded.
* `SessionBooks.Performed`, **`performed`** -- every action is one of these cases.
  `statement_eq_ok` -- where a statement comes from.

NOT here: what becomes of several sessions, and of statements (`Run`).
-/

namespace StatelessSession

/-- Whether an error comes after the deed: a transport that failed to close, or to answer. -/
def SessionError.late : SessionError → Bool
  | .closeFailed _ | .queryFailed _ _ | .insertFailed _ _ => true
  | _ => false

/-- Whether an event reports the end of the transaction `id`. -/
def Event.ends (id : TransactionId) : Event → Bool
  | .transactionEnded _ id' _ => id' == id
  | _ => false

/-- Events that report the end of no transaction. -/
def Event.Calm (events : List Event) : Prop := ∀ id, events.filter (·.ends id) = []

/-- The database of a session, as the session has it and as its request has it. -/
def Session.databases (s : Session) : String × Option String :=
  (s.database, s.request.settings.database)

/-- What an action can have the manager do. -/
inductive Books.Operates (b : Books) : {α : Type} → Outcome Books α → Prop where
  | setAutocommit (enable : Bool) : Operates b (b.setAutocommit enable)
  | finish (ending : Ending) : Operates b (b.finish ending)
  | setSavepoint (name : Option String) : Operates b (b.setSavepoint name)
  | returnTo (how : Transaction.Return) (s : Savepoint) : Operates b (b.returnTo how s)

/-- **What stays when a setting is recorded.** In the request, that is all but the database and the
    client info. -/
structure Session.Alike (s s' : Session) : Prop where
  transport : s'.transport = s.transport
  profile : s'.profile = s.profile
  manager : s'.manager = s.manager
  closed : s'.closed = s.closed
  request : ∃ database clientInfo, s'.request =
    { s.request with settings := { s.request.settings with database, clientInfo } }

namespace SessionBooks

/-- The query id that an answer hands out, by itself or with a statement. -/
def Answer.id? : Answer → Option QueryId
  | .queryId q => some q
  | .statement st => some st.id
  | _ => none

/-- **All that an action can do.** -/
inductive Performed (b : SessionBooks) : Action → Outcome SessionBooks Answer → Prop where
  | refused {a : Action} {e : SessionError} (early : e.late = false)
      (stateless : e.kind ≠ .invalidTransactionState) : Performed b a ⟨.error e, b, []⟩
  | answered {a : Action} {x : Answer} (plain : x.id? = none) (events : List Event)
      (calm : Event.Calm events) : Performed b a ⟨.ok x, b, events⟩
  | managed {a : Action} {α : Type} {o : Outcome Books α} (opened : b.session.closed = false)
      (operates : b.books.Operates o) {f : α → Answer} (plain : ∀ x, (f x).id? = none) :
      Performed b a ⟨o.answer.map f, b.putBooks o.state, o.events⟩
  | issued : Performed b .newQueryId ⟨.ok (.queryId b.newQueryId.1), b.newQueryId.2, []⟩
  | prepared {sql : String} {shape : Sql.Shape} (opened : b.session.closed = false)
      (fits : Sql.Shape.ofSql sql = .ok shape) :
      Performed b (.prepare sql) (answering .statement (b.prepareShape sql shape))
  | recorded {a : Action} {s : Session} (opened : b.session.closed = false)
      (alike : b.session.Alike s) (events : List Event) (calm : Event.Calm events)
      (databases : s.databases = b.session.databases ∨
        ∃ name, a = .setSchema name ∧ s.databases = (name, some name)) :
      Performed b a ⟨.ok .done, { b with session := s }, events⟩
  | pinged {seconds : Int} (opened : b.session.closed = false) (node : Node) (n : Nat) :
      Performed b (.isValid seconds) ⟨.ok (.flag (b.session.transport.ping node n).1),
        { b with session := { b.session with transport := (b.session.transport.ping node n).2 } },
        []⟩
  | closed (opened : b.session.closed = false) (events : List Event)
      (told : ∀ id, events.filter (·.ends id) = b.shut.2.2.filter (·.ends id)) :
      Performed b .close ⟨.ok .done, b.shut.2.1, events⟩
  | unclosed (opened : b.session.closed = false) {e : TransportError}
      (failure : b.session.transport.closeError = some e) (events : List Event)
      (told : ∀ id, events.filter (·.ends id) = b.shut.2.2.filter (·.ends id)) :
      Performed b .close ⟨.error (.closeFailed e), b.shut.2.1, events⟩
  | aborted (opened : b.session.closed = false) (events : List Event)
      (told : ∀ id, events.filter (·.ends id) = b.shut.2.2.filter (·.ends id)) :
      Performed b .abort ⟨.ok .done, b.shut.2.1, events⟩

variable {b : SessionBooks} {α : Type}

/-- What only an open session does. -/
theorem performed_whenOpen {a : Action} {o : Outcome SessionBooks α} {f : α → Answer}
    (h : b.session.closed = false → Performed b a (answering f o)) :
    Performed b a (answering f (b.whenOpen o)) := by
  unfold whenOpen
  split
  · exact .refused rfl ErrorKind.noConfusion
  · rename_i hopen
    exact h (Bool.eq_false_iff.2 hopen)

theorem performed_manage {a : Action} {op : Books → Outcome Books α} {f : α → Answer}
    (h : b.books.Operates (op b.books)) (hf : ∀ x, (f x).id? = none) :
    Performed b a (answering f (b.manage op)) :=
  performed_whenOpen fun hopen => .managed hopen h hf

/-- A getter of an open session. -/
theorem performed_get {a : Action} {x : α} {f : α → Answer} (hf : (f x).id? = none) :
    Performed b a (b.unchanged ((b.session.whenOpen x).map f)) := by
  unfold Session.whenOpen
  split
  · exact .refused rfl ErrorKind.noConfusion
  · exact .answered hf [] fun _ => rfl

theorem performed_update {a : Action} {f : Session → Session} (hopen : b.session.closed = false)
    (h : b.session.Alike (f b.session)) (hd : (f b.session).databases = b.session.databases) :
    Performed b a (finished (b.update f)) :=
  .recorded hopen h [] (fun _ => rfl) (.inl hd)

/-- **Every action is one of these cases.** -/
theorem performed (b : SessionBooks) (a : Action) : Performed b a (b.perform a) := by
  cases a with
  | setAutocommit enable => exact performed_manage (.setAutocommit enable) fun _ => rfl
  | autocommit => exact performed_get rfl
  | commit => exact performed_manage (.finish .committed) fun _ => rfl
  | rollback => exact performed_manage (.finish .rolledBack) fun _ => rfl
  | setSavepoint name => exact performed_manage (.setSavepoint name) fun _ => rfl
  | rollbackTo s => exact performed_manage (.returnTo .rollback s) fun _ => rfl
  | release s => exact performed_manage (.returnTo .release s) fun _ => rfl
  | newQueryId => exact .issued
  | prepare sql =>
    refine performed_whenOpen fun hopen => ?_
    split
    · exact .refused rfl ErrorKind.noConfusion
    · rename_i shape hshape
      exact .prepared hopen hshape
  | nativeSql sql => exact performed_get rfl
  | setReadOnly v =>
    exact performed_whenOpen fun hopen => performed_update hopen ⟨rfl, rfl, rfl, rfl, _, _, rfl⟩ rfl
  | setCatalog name => exact performed_whenOpen fun _ => .answered rfl _ fun _ => rfl
  | setIsolation level =>
    refine performed_whenOpen fun hopen => ?_
    split
    · exact .refused rfl ErrorKind.noConfusion
    · exact performed_update hopen ⟨rfl, rfl, rfl, rfl, _, _, rfl⟩ rfl
  | setHoldability v =>
    exact performed_whenOpen fun hopen => performed_update hopen ⟨rfl, rfl, rfl, rfl, _, _, rfl⟩ rfl
  | setNetworkTimeout ms =>
    refine performed_whenOpen fun hopen => ?_
    split
    · exact .refused rfl ErrorKind.noConfusion
    · exact performed_update hopen ⟨rfl, rfl, rfl, rfl, _, _, rfl⟩ rfl
  | setClientInfo name v =>
    simp only [perform, finished, setClientInfo]
    split
    · exact .refused rfl ErrorKind.noConfusion
    rename_i hopen
    split
    · exact performed_update (Bool.eq_false_iff.2 hopen) ⟨rfl, rfl, rfl, rfl, _, _, rfl⟩ rfl
    · exact .answered rfl _ fun _ => rfl
  | setClientInfoAll values =>
    simp only [perform, finished, setClientInfoAll]
    split
    · exact .refused rfl ErrorKind.noConfusion
    · rename_i hopen
      exact performed_update (Bool.eq_false_iff.2 hopen) ⟨rfl, rfl, rfl, rfl, _, _, rfl⟩ rfl
  | clientInfo name => exact performed_get rfl
  | clientInfoAll => exact performed_get rfl
  | setSchema name =>
    refine performed_whenOpen fun hopen => ?_
    split
    · exact .refused rfl ErrorKind.noConfusion
    split
    · exact .answered rfl _ fun _ => rfl
    · refine .recorded hopen (s := { b.session with
        database := name, request := b.session.request.onDatabase name }) ?_ _ (fun _ => rfl)
        (.inr ⟨name, rfl, rfl⟩)
      exact ⟨rfl, rfl, rfl, rfl, _, _, rfl⟩
  | schema => exact performed_get rfl
  | isValid seconds =>
    simp only [perform, isValid]
    split
    · exact .refused rfl ErrorKind.noConfusion
    split
    · exact .answered rfl _ fun _ => rfl
    · rename_i hopen
      exact .pinged (Bool.eq_false_iff.2 hopen) _ _
  | close =>
    simp only [perform, finished, close]
    split
    · exact .answered rfl _ fun _ => rfl
    rename_i hopen
    split
    · exact .closed (Bool.eq_false_iff.2 hopen) _ fun _ => rfl
    · rename_i e he
      refine .unclosed (Bool.eq_false_iff.2 hopen) he _ fun id => ?_
      rw [List.filter_append]
      exact List.append_nil _
  | abort =>
    simp only [perform, finished, abort]
    split
    · exact .answered rfl _ fun _ => rfl
    · rename_i hopen
      refine .aborted (Bool.eq_false_iff.2 hopen) _ fun id => ?_
      rw [List.filter_append]
      cases b.shut.1 with
      | none => rfl
      | some e => rfl

/-- **A statement comes only of preparing a text** that fits a shape, in an open session. -/
theorem statement_eq_ok {a : Action} {st : Statement}
    (h : (b.perform a).answer = .ok (.statement st)) :
    ∃ sql shape, a = .prepare sql ∧ b.session.closed = false ∧ Sql.Shape.ofSql sql = .ok shape ∧
      (b.prepareShape sql shape).answer = .ok st := by
  have hp := performed b a
  generalize b.perform a = o at hp h
  cases hp with
  | refused early => cases h
  | answered plain events =>
    cases h
    cases plain
  | @managed _ _ o' opened operates f plain =>
    cases ho : o'.answer with
    | error e =>
      rw [ho] at h
      cases h
    | ok x =>
      rw [ho] at h
      have hx := plain x
      rw [Except.ok.inj h] at hx
      cases hx
  | issued => cases h
  | @prepared sql shape opened fits =>
    refine ⟨sql, shape, rfl, opened, fits, ?_⟩
    cases shape with
    | parameterized query unfit =>
      cases h
      rfl
    | streaming columns =>
      cases h
      rfl
  | recorded opened alike events => cases h
  | pinged opened node n => cases h
  | closed opened events => cases h
  | unclosed opened failure events => cases h
  | aborted opened events => cases h

end SessionBooks

end StatelessSession
