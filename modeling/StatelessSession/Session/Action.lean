import StatelessSession.Session.Basic

/-!
# What a session does

The operations of a session that change it, each an `Outcome` over the session and the ledger of
transactions, and `SessionBooks.perform`, which carries out any of them by its `Action`. A session's
ledger is shared with other sessions, so it is a part of the state of its own.
-/

namespace StatelessSession

/-- A session with the ledger that its manager works on. -/
structure SessionBooks where
  ledger : Ledger
  session : Session

namespace SessionBooks

/-! ## 1. Wrappers -/

/-- The books of the session's manager. -/
def books (b : SessionBooks) : Books := ⟨b.ledger, b.session.manager⟩

/-- Puts the books of the manager back. -/
def putBooks (b : SessionBooks) (books : Books) : SessionBooks :=
  ⟨books.ledger, { b.session with manager := books.manager }⟩

/-- An answer without any effect. -/
def unchanged {α : Type} (b : SessionBooks) (answer : Except SessionError α) :
    Outcome SessionBooks α :=
  ⟨answer, b, []⟩

/-- An operation that only an open session carries out. -/
def whenOpen {α : Type} (b : SessionBooks) (o : Outcome SessionBooks α) : Outcome SessionBooks α :=
  if b.session.closed then b.unchanged (.error .closed) else o

/-- Changes the session. -/
def update (b : SessionBooks) (f : Session → Session) : Outcome SessionBooks Unit :=
  ⟨.ok (), { b with session := f b.session }, []⟩

/-- Lets the manager of an open session do something. -/
def manage {α : Type} (b : SessionBooks) (op : Books → Outcome Books α) : Outcome SessionBooks α :=
  let o := op b.books
  b.whenOpen ⟨o.answer, b.putBooks o.state, o.events⟩

/-! ## 2. Transactions -/

/-- Turns autocommit on or off. -/
def setAutocommit (b : SessionBooks) (enable : Bool) : Outcome SessionBooks Unit :=
  b.manage (·.setAutocommit enable)

/-- Ends the current transaction. -/
def commit (b : SessionBooks) : Outcome SessionBooks Unit := b.manage Books.commit

/-- Ends the current transaction; nothing is undone. -/
def rollback (b : SessionBooks) : Outcome SessionBooks Unit := b.manage Books.rollback

/-- Sets a savepoint. -/
def setSavepoint (b : SessionBooks) (name : Option String) : Outcome SessionBooks Savepoint :=
  b.manage (·.setSavepoint name)

/-- Returns to a savepoint, with or without keeping it. -/
def returnTo (b : SessionBooks) (how : Transaction.Return) (s : Savepoint) :
    Outcome SessionBooks Unit :=
  b.manage (·.returnTo how s)

/-- Hands out a query id, also when the session is closed. -/
def newQueryId (b : SessionBooks) : QueryId × SessionBooks :=
  let (q, books) := b.books.newQueryId
  (q, b.putBooks books)

/-! ## 3. Statements -/

/-- What is reported when a query is classified. -/
def unfitEvents (unfit : Option Sql.InputUse) : List Event := (unfit.map Event.unfitInput).toList

/-- Prepares a statement of a shape that was decided. -/
def prepareShape (b : SessionBooks) (sql : String) (shape : Sql.Shape) :
    Outcome SessionBooks Statement :=
  let (id, b) := b.newQueryId
  let r := b.session.request
  let timeout := b.session.requestTimeout
  match shape with
  | .parameterized query unfit =>
    ⟨.ok (.query ⟨query, id, r.withTimeout timeout⟩), b,
      unfitEvents unfit ++ [.prepared id query.parameterCount]⟩
  | .streaming columns =>
    ⟨.ok (.insert ⟨sql, id, columns, (r.asWrite.withQuery sql (some id)).withTimeout timeout, []⟩),
      b, [.insertPrepared id columns.length]⟩

/-- Prepares a statement. -/
def prepare (b : SessionBooks) (sql : String) : Outcome SessionBooks Statement :=
  b.whenOpen <|
    match Sql.Shape.ofSql sql with
    | .error f => b.unchanged (.error (.sql f))
    | .ok shape => b.prepareShape sql shape

/-! ## 4. Settings -/

/-- Declares the session read-only or not. -/
def setReadOnly (b : SessionBooks) (v : Bool) : Outcome SessionBooks Unit :=
  b.whenOpen (b.update ({ · with readOnly := v }))

/-- Catalogs do not exist; the name is reported and ignored. -/
def setCatalog (b : SessionBooks) (name : String) : Outcome SessionBooks Unit :=
  b.whenOpen ⟨.ok (), b, [.catalogIgnored name]⟩

/-- Records an isolation level. -/
def setIsolation (b : SessionBooks) (level : IsolationLevel) : Outcome SessionBooks Unit :=
  b.whenOpen <|
    if level = .none then b.unchanged (.error .isolationNone)
    else b.update ({ · with isolation := level })

/-- Records a holdability. -/
def setHoldability (b : SessionBooks) (v : Holdability) : Outcome SessionBooks Unit :=
  b.whenOpen (b.update ({ · with holdability := v }))

/-- Sets the timeout of statements prepared from now on. -/
def setNetworkTimeout (b : SessionBooks) (milliseconds : Int) : Outcome SessionBooks Unit :=
  b.whenOpen <|
    if milliseconds < 0 then b.unchanged (.error .negativeNetworkTimeout)
    else b.update ({ · with networkTimeout := milliseconds.toNat })

/-- Changes the client info of an open session. -/
def changeClientInfo (b : SessionBooks) (f : ClientInfo → ClientInfo) : Outcome SessionBooks Unit :=
  b.update fun s =>
    { s with request := s.request.withClientInfo (f s.request.settings.clientInfo) }

/-- Sets a client property; a name that is none is reported and ignored. -/
def setClientInfo (b : SessionBooks) (name : String) (v : Option String) :
    Outcome SessionBooks Unit :=
  if b.session.closed then b.unchanged (.error .clientInfoClosed)
  else
    match ClientProperty.ofName? name with
    | some p => b.changeClientInfo (·.write p v)
    | none => ⟨.ok (), b, [.propertyIgnored name]⟩

/-- The value that a list of named values has for a property. -/
def namedValue (values : List (String × String)) (p : ClientProperty) : Option String :=
  (values.find? (·.1 == p.name)).map Prod.snd

/-- Sets all client properties; one without a value is removed. -/
def setClientInfoAll (b : SessionBooks) (values : List (String × String)) :
    Outcome SessionBooks Unit :=
  if b.session.closed then b.unchanged (.error .clientInfoClosed)
  else b.changeClientInfo (·.writeAll (namedValue values))

/-- Switches the database for statements prepared from now on. -/
def setSchema (b : SessionBooks) (name : String) : Outcome SessionBooks Unit :=
  b.whenOpen <|
    if name.isEmpty then b.unchanged (.error .emptySchema)
    else if name = b.session.database then b.unchanged (.ok ())
    else
      ⟨.ok (),
        { b with session :=
          { b.session with database := name, request := b.session.request.onDatabase name } },
        [.schemaSwitched b.session.database name]⟩

/-! ## 5. Liveness and closing -/

/-- Whether the node answers in time. A closed session is never valid. -/
def isValid (b : SessionBooks) (seconds : Int) : Outcome SessionBooks Bool :=
  if seconds < 0 then b.unchanged (.error .negativePingTimeout)
  else if b.session.closed then b.unchanged (.ok false)
  else
    let (answer, t) := b.session.transport.ping b.session.request.node seconds.toNat
    ⟨.ok answer, { b with session := { b.session with transport := t } }, []⟩

/-- Marks an open session closed, closes its transport and drops its transaction. -/
def shut (b : SessionBooks) : Option TransportError × SessionBooks × List Event :=
  let (failure, t) := b.session.transport.close
  let o := b.books.discard
  (failure,
    ⟨o.state.ledger, { b.session with closed := true, transport := t, manager := o.state.manager }⟩,
    o.events)

/-- Closes the session. It counts as closed even if the transport fails; closing again does
    nothing. -/
def close (b : SessionBooks) : Outcome SessionBooks Unit :=
  if b.session.closed then b.unchanged (.ok ())
  else
    let (failure, b', events) := b.shut
    match failure with
    | none => ⟨.ok (), b', events⟩
    | some e =>
      ⟨.error (.closeFailed e), b', events ++ [.closeFailed b.session.request.node e]⟩

/-- Closes the session when a scheduled abort comes to run; nobody waits for the answer. -/
def abort (b : SessionBooks) : Outcome SessionBooks Unit :=
  if b.session.closed then b.unchanged (.ok ())
  else
    let (failure, b', events) := b.shut
    ⟨.ok (), b',
      (failure.map (Event.abortFailed b.session.request.node)).toList ++ events⟩

/-! ## 6. Actions -/

/-- What can be asked of a session. -/
inductive Action where
  | setAutocommit (enable : Bool)
  | autocommit
  | commit
  | rollback
  | setSavepoint (name : Option String)
  | rollbackTo (s : Savepoint)
  | release (s : Savepoint)
  | newQueryId
  | prepare (sql : String)
  /-- The text that the server understands, which is the same. -/
  | nativeSql (sql : String)
  | setReadOnly (v : Bool)
  | setCatalog (name : String)
  | setIsolation (level : IsolationLevel)
  | setHoldability (v : Holdability)
  | setNetworkTimeout (milliseconds : Int)
  | setClientInfo (name : String) (v : Option String)
  | setClientInfoAll (values : List (String × String))
  | clientInfo (name : String)
  | clientInfoAll
  | setSchema (name : String)
  | schema
  | isValid (seconds : Int)
  | close
  | abort

/-- What a session answers. -/
inductive Answer where
  | done
  | flag (b : Bool)
  | text (s : String)
  | maybeText (s : Option String)
  | entries (es : List (String × String))
  | savepoint (s : Savepoint)
  | queryId (q : QueryId)
  | statement (s : Statement)

/-- An outcome with its answer in another form. -/
def answering {α : Type} (f : α → Answer) (o : Outcome SessionBooks α) :
    Outcome SessionBooks Answer :=
  ⟨o.answer.map f, o.state, o.events⟩

/-- An outcome that answers nothing. -/
def finished (o : Outcome SessionBooks Unit) : Outcome SessionBooks Answer :=
  answering (fun _ => .done) o

/-- Carries out an action. -/
def perform (b : SessionBooks) : Action → Outcome SessionBooks Answer
  | .setAutocommit enable => finished (b.setAutocommit enable)
  | .autocommit => b.unchanged (b.session.getAutocommit.map .flag)
  | .commit => finished b.commit
  | .rollback => finished b.rollback
  | .setSavepoint name => answering .savepoint (b.setSavepoint name)
  | .rollbackTo s => finished (b.returnTo .rollback s)
  | .release s => finished (b.returnTo .release s)
  | .newQueryId => let (q, b) := b.newQueryId; ⟨.ok (.queryId q), b, []⟩
  | .prepare sql => answering .statement (b.prepare sql)
  | .nativeSql sql => b.unchanged ((b.session.whenOpen sql).map .text)
  | .setReadOnly v => finished (b.setReadOnly v)
  | .setCatalog name => finished (b.setCatalog name)
  | .setIsolation level => finished (b.setIsolation level)
  | .setHoldability v => finished (b.setHoldability v)
  | .setNetworkTimeout ms => finished (b.setNetworkTimeout ms)
  | .setClientInfo name v => finished (b.setClientInfo name v)
  | .setClientInfoAll values => finished (b.setClientInfoAll values)
  | .clientInfo name => b.unchanged ((b.session.getClientInfo name).map .maybeText)
  | .clientInfoAll => b.unchanged (b.session.getClientInfoAll.map .entries)
  | .setSchema name => finished (b.setSchema name)
  | .schema => b.unchanged (b.session.getSchema.map .text)
  | .isValid seconds => answering .flag (b.isValid seconds)
  | .close => finished b.close
  | .abort => finished b.abort

end SessionBooks

end StatelessSession
