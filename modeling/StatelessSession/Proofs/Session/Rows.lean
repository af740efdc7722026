import StatelessSession.Proofs.Session.Prepared
import StatelessSession.Proofs.Session.Closed
import StatelessSession.Proofs.Session.ServerFacts

/-!
# Rows of an insert

An insert takes rows one by one and ships them all at once. It lets go of them before the transport
answers, so a row is never shipped twice, and it looks whether the session is open before that, so a
closed session loses none.

* `Passage` -- a row that comes in, and rows that leave; `Orderly` -- passages that leave nothing
  behind and take nothing twice.
* `Workspace.passages`, `Workspace.passed` -- the passages of a command and of a run, as answers and
  the transport show them.
* `statement?_step_of_ne`, **`courses_step`** -- one command; **`courses_final`** -- a run.
* `requests_step`, `requests_final` -- what was sent under the id of the insert.
* **`rows_final`** -- all rows of an insert from when it was prepared.

NOT here: what else a request carries (`Prepared`).
-/

namespace StatelessSession

/-! ## 1. Passages -/

/-- **What can happen to the rows of an insert.** -/
inductive Passage where
  | accepted (row : List Value)
  | dropped (rows : List (List Value))
  | shipped (r : Request)

namespace Passage

/-- The row that comes in. -/
def entering : Passage → List (List Value)
  | accepted row => [row]
  | dropped _ | shipped _ => []

/-- The rows that leave, if any can. -/
def leaving? : Passage → Option (List (List Value))
  | accepted _ => none
  | dropped rows => some rows
  | shipped r => some r.input

/-- The request that takes rows along. -/
def request? : Passage → Option Request
  | shipped r => some r
  | accepted _ | dropped _ => none

/-- The rows that wait afterwards. -/
def next (rows : List (List Value)) : Passage → List (List Value)
  | accepted row => rows ++ [row]
  | dropped _ | shipped _ => []

end Passage

/-- **The rows that were accepted since rows left last**, or since `rows` waited. -/
def waitingAfter (rows : List (List Value)) (ps : List Passage) : List (List Value) :=
  ps.foldl Passage.next rows

/-- The rows that left, the earliest first. -/
def departed (ps : List Passage) : List (List Value) :=
  ps.flatMap fun p => p.leaving?.getD []

/-- **Passages in order**, from when `rows` wait: a row that comes in has `width` values, and
    whenever rows leave, these are all that wait. -/
inductive Orderly (width : Nat) : List (List Value) → List Passage → Prop where
  | nil (rows : List (List Value)) : Orderly width rows []
  | accepted {rows : List (List Value)} {row : List Value} {ps : List Passage}
      (wide : row.length = width) (h : Orderly width (rows ++ [row]) ps) :
      Orderly width rows (.accepted row :: ps)
  | dropped {rows : List (List Value)} {ps : List Passage} (h : Orderly width [] ps) :
      Orderly width rows (.dropped rows :: ps)
  | shipped {rows : List (List Value)} {r : Request} {ps : List Passage} (all : r.input = rows)
      (h : Orderly width [] ps) : Orderly width rows (.shipped r :: ps)

namespace Orderly

variable {width : Nat} {rows : List (List Value)} {ps ps' : List Passage}

/-- Passages that come later are in order from when the rows wait that wait then. -/
theorem rest (h : Orderly width rows (ps ++ ps')) : Orderly width (waitingAfter rows ps) ps' := by
  induction ps generalizing rows with
  | nil => exact h
  | cons p ps ih =>
    cases h with
    | accepted wide h => exact ih h
    | dropped h => exact ih h
    | shipped all h => exact ih h

theorem append (h : Orderly width rows ps) (h' : Orderly width (waitingAfter rows ps) ps') :
    Orderly width rows (ps ++ ps') := by
  induction h with
  | nil rows => exact h'
  | accepted wide _ ih => exact .accepted wide (ih h')
  | dropped _ ih => exact .dropped (ih h')
  | shipped all _ ih => exact .shipped all (ih h')

/-- **No row is lost and none is taken twice.** -/
theorem conserved (h : Orderly width rows ps) :
    rows ++ ps.flatMap Passage.entering = departed ps ++ waitingAfter rows ps := by
  induction h with
  | nil rows => exact List.append_nil rows
  | @accepted rows row ps wide _ ih =>
    rw [List.append_assoc] at ih
    exact ih
  | @dropped rows ps _ ih =>
    show rows ++ ([] ++ ps.flatMap Passage.entering) = (rows ++ departed ps) ++ waitingAfter [] ps
    rw [ih, List.append_assoc]
  | @shipped rows r ps all _ ih =>
    show rows ++ ([] ++ ps.flatMap Passage.entering) =
      (r.input ++ departed ps) ++ waitingAfter [] ps
    rw [ih, all, List.append_assoc]

theorem wide (h : Orderly width rows ps) {row : List Value} (hrow : .accepted row ∈ ps) :
    row.length = width := by
  obtain ⟨before, after, rfl⟩ := List.append_of_mem hrow
  cases h.rest with
  | accepted wide _ => exact wide

/-- **Rows that leave are those that came in since rows left last.** -/
theorem leaving {before after : List Passage} {p : Passage} {batch : List (List Value)}
    (h : Orderly width rows (before ++ p :: after)) (hbatch : p.leaving? = some batch) :
    batch = waitingAfter rows before := by
  cases h.rest with
  | accepted wide _ => cases hbatch
  | dropped _ => exact (Option.some.inj hbatch).symm
  | shipped all _ => exact (Option.some.inj hbatch).symm.trans all

end Orderly

/-- Whatever a statement sends goes under its id. -/
theorem Statement.Asks.queryId {st : Statement} {params : List Value} {r : Request}
    (h : st.Asks params r) : r.queryId = some st.id := by
  cases h with
  | query bound => rfl
  | insert p => rfl

namespace Workspace

variable {w : Workspace} {i j k : Nat} {s s' : Session} {q : PreparedInsert} {c : Command}

/-! ## 2. What a command shows -/

/-- What the session with number `i` has sent. -/
def sentBy (w : Workspace) (i : Nat) : List Request :=
  ((w.session? i).map (·.transport.sent)).getD []

/-- The rows that wait in the statement with number `j`. -/
def rowsOf (w : Workspace) (j : Nat) : List (List Value) :=
  match w.statement? j with
  | some ⟨_, .insert q⟩ => q.rows
  | _ => []

/-- **The passages of a command**, for the insert with number `j` over the session with number `i`:
    a row is accepted or rows are dropped if the answer says so, and a request ships rows if the
    execution of the insert has the transport hear of it. -/
def passages (w : Workspace) (i j : Nat) (c : Command) : List Passage :=
  match c with
  | .onStatement k (.addRow row) => if k = j ∧ (w.step c).answer.isOk then [.accepted row] else []
  | .onStatement k .clearRows =>
    if k = j ∧ (w.step c).answer.isOk then [.dropped (w.rowsOf j)] else []
  | .onStatement k (.execute _) =>
    if k = j then (((w.step c).state.sentBy i).drop (w.sentBy i).length).map .shipped else []
  | _ => []

/-- The passages of a run, the earliest first. -/
def passed (w : Workspace) (i j : Nat) : List Command → List Passage
  | [] => []
  | c :: cs => w.passages i j c ++ (w.step c).state.passed i j cs

theorem passages_of_ne (h : ∀ sc, c ≠ .onStatement j sc) (w : Workspace) (i : Nat) :
    w.passages i j c = [] := by
  cases c with
  | onStatement k sc =>
    have hk : k ≠ j := fun e => h sc (e ▸ rfl)
    cases sc with
    | addRow row => exact if_neg fun e => hk e.1
    | clearRows => exact if_neg fun e => hk e.1
    | execute params => exact if_neg hk
    | convert toInsert => rfl
    | inspect => rfl
  | _ => rfl

/-! ## 3. Commands on something else -/

theorem statement?_putStatement_of_ne (h : k ≠ j) (w : Workspace) (x : Option Prepared) :
    (w.putStatement k x).statement? j = w.statement? j := by
  show (w.statements.set k x)[j]?.join = _
  rw [List.getElem?_set_ne h]
  rfl

theorem statement?_putStatement (h : j < w.statements.length) (x : Option Prepared) :
    (w.putStatement j x).statement? j = x := by
  show (w.statements.set j x)[j]?.join = _
  rw [List.getElem?_set_self h, Option.join_some]

/-- An action may prepare a statement, which takes the next number. -/
theorem statement?_act (hj : j < w.statements.length) (s : Session) (a : SessionBooks.Action) :
    (w.act i s a).state.statement? j = w.statement? j := by
  unfold act
  dsimp only
  split
  · rfl
  · rename_i answer ha
    cases answer with
    | statement st =>
      show (w.statements ++ [some ⟨i, st⟩])[j]?.join = _
      rw [List.getElem?_append_left hj]
      rfl
    | _ => rfl

theorem statement?_stepSession (hj : j < w.statements.length) (s : Session) (sc : SessionCommand) :
    (w.stepSession i s sc).state.statement? j = w.statement? j := by
  have hsavepoint (n : Nat) (f : Savepoint → SessionBooks.Action) :
      (w.withSavepoint n fun sp => w.act i s (f sp)).state.statement? j = w.statement? j :=
    withSavepoint_induction (P := fun r => r.state.statement? j = w.statement? j) rfl
      fun sp => statement?_act hj s (f sp)
  cases sc with
  | act a => exact statement?_act hj s a
  | rollbackTo n => exact hsavepoint n .rollbackTo
  | release n => exact hsavepoint n .release
  | hold =>
    simp only [stepSession]
    split
    · rfl
    · rfl
  | _ => rfl

theorem statement?_stepStatement (h : k ≠ j) (w : Workspace) (p : Prepared)
    (sc : StatementCommand) : (w.stepStatement k p sc).state.statement? j = w.statement? j := by
  cases sc with
  | execute params =>
    simp only [stepStatement]
    split
    · rfl
    rename_i s hs
    cases hst : p.statement with
    | query q =>
      simp only [execute, hst]
      rfl
    | insert q =>
      simp only [execute, hst]
      exact statement?_putStatement_of_ne h _ _
  | addRow row =>
    simp only [stepStatement]
    split
    · rfl
    · exact statement?_putStatement_of_ne h _ _
  | clearRows =>
    simp only [stepStatement]
    split
    · rfl
    · exact statement?_putStatement_of_ne h _ _
  | convert toInsert => exact statement?_putStatement_of_ne h _ _
  | inspect => rfl

/-- **A command on something else** leaves a statement as it is. -/
theorem statement?_step_of_ne (hj : j < w.statements.length) (h : ∀ sc, c ≠ .onStatement j sc) :
    (w.step c).state.statement? j = w.statement? j := by
  cases c with
  | connect o t signal => rfl
  | onSession i sc =>
    simp only [step]
    split
    · rfl
    · exact statement?_stepSession hj _ sc
  | onStatement k sc =>
    have hk : k ≠ j := fun e => h sc (e ▸ rfl)
    simp only [step, onStatement]
    split
    · rfl
    · rfl
    · rfl
    · exact statement?_stepStatement hk w _ _
  | newQueryIn held =>
    simp only [step]
    split
    · rfl
    · rfl
  | inspectHeld held =>
    simp only [step]
    split
    · rfl
    · rfl
  | join =>
    show ((w.runAborts w.aborts).1.statements)[j]?.join = _
    rw [statements_runAborts]
    rfl

/-! ## 4. Commands on the insert -/

/-- A row of the right width is accepted. -/
theorem step_addRow (hq : w.statement? j = some ⟨i, .insert q⟩) {row : List Value}
    (hw : row.length = q.columns.length) :
    w.step (.onStatement j (.addRow row)) = ⟨.ok (.answer .done),
      w.putStatement j (some ⟨i, .insert { q with rows := q.rows ++ [row] }⟩), []⟩ := by
  rw [step_onStatement hq]
  simp only [stepStatement, PreparedInsert.addRow, if_pos hw]
  rfl

/-- **A row of another width is refused**, and nothing changes. -/
theorem step_addRow_of_ne (hq : w.statement? j = some ⟨i, .insert q⟩) {row : List Value}
    (hw : row.length ≠ q.columns.length) :
    w.step (.onStatement j (.addRow row)) =
      ⟨.error (.session (.rowWidth q.columns.length row.length)), w, []⟩ := by
  rw [step_onStatement hq]
  simp only [stepStatement, PreparedInsert.addRow, if_neg hw, putStatement_self hq]
  rfl

theorem step_clearRows (hq : w.statement? j = some ⟨i, .insert q⟩) :
    w.step (.onStatement j .clearRows) =
      ⟨.ok (.answer .done), w.putStatement j (some ⟨i, .insert q.clearRows⟩), []⟩ := by
  rw [step_onStatement hq]
  rfl

/-- **An insert of an open session is executed**: its rows are gone, whatever the transport
    answers. -/
theorem step_execute (hq : w.statement? j = some ⟨i, .insert q⟩) (hs : w.session? i = some s)
    (ho : s.closed = false) (params : List Value) :
    w.step (.onStatement j (.execute params)) =
      ⟨((((s.transport.execute q.shipment).1.mapError (.insertFailed q.id)).map
          ResultSet.affected).map .number).mapError .session,
        (w.putSession i { s with transport := (s.transport.execute q.shipment).2 }).putStatement j
          (some ⟨i, .insert q.clearRows⟩),
        [.streaming q.id q.rows.length]⟩ := by
  have hexec : q.execute s.closed s.transport =
      ⟨((s.transport.execute q.shipment).1.mapError (.insertFailed q.id)).map ResultSet.affected,
        (q.clearRows, (s.transport.execute q.shipment).2), [.streaming q.id q.rows.length]⟩ := by
    rw [PreparedInsert.execute, ho]
    rfl
  rw [step_onStatement hq]
  simp only [stepStatement, hs, execute, hexec]

theorem sentBy_of_session? (hs : w.session? i = some s) : w.sentBy i = s.transport.sent := by
  rw [sentBy, hs]
  rfl

/-- The statement after the passages of a command. -/
structure Courses (w w' : Workspace) (i j : Nat) (q : PreparedInsert) (ps : List Passage) :
    Prop where
  statement : w'.statement? j = some ⟨i, .insert { q with rows := waitingAfter q.rows ps }⟩
  orderly : Orderly q.columns.length q.rows ps

/-- Nothing happens to the rows. -/
theorem courses_nil {w' : Workspace} (h : w'.statement? j = some ⟨i, .insert q⟩) :
    Courses w w' i j q [] := ⟨h, .nil q.rows⟩

/-- **One command**, unless it consumes the insert. -/
theorem courses_step (hq : w.statement? j = some ⟨i, .insert q⟩) (hs : w.session? i = some s)
    (hc : c ≠ .onStatement j (.convert false)) :
    Courses w (w.step c).state i j q (w.passages i j c) := by
  have hj := lt_of_statement? hq
  by_cases hown : ∃ sc, c = .onStatement j sc
  · obtain ⟨sc, rfl⟩ := hown
    cases sc with
    | addRow row =>
      by_cases hw : row.length = q.columns.length
      · have hstep := step_addRow hq hw
        have hpass : w.passages i j (.onStatement j (.addRow row)) = [.accepted row] :=
          if_pos ⟨rfl, by rw [hstep]; rfl⟩
        rw [hpass, hstep]
        exact ⟨statement?_putStatement hj _, .accepted hw (.nil _)⟩
      · have hstep := step_addRow_of_ne hq hw
        have hpass : w.passages i j (.onStatement j (.addRow row)) = [] :=
          if_neg fun h => by rw [hstep] at h; cases h.2
        rw [hpass, hstep]
        exact courses_nil hq
    | clearRows =>
      have hstep := step_clearRows hq
      have hrows : w.rowsOf j = q.rows := by simp only [rowsOf, hq]
      have hpass : w.passages i j (.onStatement j .clearRows) = [.dropped q.rows] := by
        rw [← hrows]
        exact if_pos ⟨rfl, by rw [hstep]; rfl⟩
      rw [hpass, hstep]
      exact ⟨statement?_putStatement hj _, .dropped (.nil _)⟩
    | execute params =>
      have hpass : w.passages i j (.onStatement j (.execute params)) =
          (((w.step (.onStatement j (.execute params))).state.sentBy i).drop
            (w.sentBy i).length).map .shipped := if_pos rfl
      cases hclosed : s.closed with
      | true =>
        have hstep := step_execute_of_closed hq hs hclosed params
        rw [hpass, hstep, List.drop_length, List.map_nil]
        exact courses_nil hq
      | false =>
        have hstep := step_execute hq hs hclosed params
        have hsession : (w.step (.onStatement j (.execute params))).state.session? i =
            some { s with transport := (s.transport.execute q.shipment).2 } := by
          rw [hstep]
          exact (session?_putSession (lt_of_session? hs) _).trans (if_pos rfl)
        rw [hpass, sentBy_of_session? hsession, sentBy_of_session? hs, Transport.sent_execute,
          List.drop_left, hstep]
        exact ⟨statement?_putStatement hj _, .shipped rfl (.nil _)⟩
    | convert toInsert =>
      cases toInsert with
      | true =>
        have hstep : (w.step (.onStatement j (.convert true))).state = w := by
          rw [step_onStatement hq]
          exact putStatement_self hq
        show Courses w _ i j q []
        rw [hstep]
        exact courses_nil hq
      | false => exact absurd rfl hc
    | inspect =>
      show Courses w _ i j q []
      rw [step_onStatement hq]
      exact courses_nil hq
  · have hne : ∀ sc, c ≠ .onStatement j sc := fun sc hsc => hown ⟨sc, hsc⟩
    rw [passages_of_ne hne]
    exact courses_nil ((statement?_step_of_ne hj hne).trans hq)

/-! ## 5. Runs -/

/-- **A run**, unless it consumes the insert. -/
theorem courses_final {cs : List Command} (hq : w.statement? j = some ⟨i, .insert q⟩)
    (hs : w.session? i = some s) (hkept : .onStatement j (.convert false) ∉ cs) :
    Courses w (w.final cs) i j q (w.passed i j cs) := by
  induction cs generalizing w q s with
  | nil => exact courses_nil hq
  | cons c cs ih =>
    rw [List.mem_cons, not_or] at hkept
    obtain ⟨hfirst, horderly⟩ := courses_step hq hs fun e => hkept.1 e.symm
    obtain ⟨s', hs', -⟩ := became_step hs c
    obtain ⟨hrest, horderly'⟩ := ih hfirst hs' hkept.2
    refine ⟨?_, horderly.append horderly'⟩
    rw [passed, waitingAfter, List.foldl_append]
    exact hrest

/-- A session is there for good. -/
theorem session?_final (hs : w.session? i = some s) (cs : List Command) :
    ∃ s', (w.final cs).session? i = some s' := by
  induction cs generalizing w s with
  | nil => exact ⟨s, hs⟩
  | cons c cs ih =>
    obtain ⟨s', hs', -⟩ := became_step hs c
    exact ih hs'

/-- Only executing the insert has it ship rows. -/
theorem requests_passages_of_ne (h : ∀ params, c ≠ .onStatement j (.execute params))
    (w : Workspace) (i : Nat) : (w.passages i j c).filterMap Passage.request? = [] := by
  cases c with
  | onStatement k sc =>
    cases sc with
    | addRow row =>
      simp only [passages]
      split
      · rfl
      · rfl
    | clearRows =>
      simp only [passages]
      split
      · rfl
      · rfl
    | execute params =>
      have hk : k ≠ j := fun e => h params (e ▸ rfl)
      simp only [passages, if_neg hk]
      rfl
    | convert toInsert => rfl
    | inspect => rfl
  | _ => rfl

/-- **What a command sends under the id of the insert** is what its passages ship. -/
theorem requests_step (hw : w.Identified) (hq : w.statement? j = some ⟨i, .insert q⟩)
    (hs : w.session? i = some s) (c : Command) :
    ∃ news, (w.step c).state.sentBy i = w.sentBy i ++ news ∧
      news.filter (·.queryId == some q.id) = (w.passages i j c).filterMap Passage.request? := by
  by_cases hexec : ∃ params, c = .onStatement j (.execute params)
  · obtain ⟨params, rfl⟩ := hexec
    obtain ⟨s', hs', hsent⟩ := sent_onStatement hs j (.execute params)
    have hnews : ∃ news, (w.step (.onStatement j (.execute params))).state.sentBy i =
        w.sentBy i ++ news ∧ ∀ r ∈ news, r.queryId = some q.id := by
      rw [sentBy_of_session? hs', sentBy_of_session? hs]
      rcases hsent with hsame | ⟨p, params', r, -, hp, -, hr, hone⟩
      · exact ⟨[], hsame.trans (List.append_nil _).symm, fun r hr => absurd hr List.not_mem_nil⟩
      · cases Option.some.inj (hq.symm.trans hp)
        exact ⟨[r], hone, fun r' hr' => List.mem_singleton.1 hr' ▸ hr.queryId⟩
    obtain ⟨news, hsplit, hall⟩ := hnews
    have hpass : w.passages i j (.onStatement j (.execute params)) = news.map .shipped := by
      simp only [passages, if_true, hsplit, List.drop_left]
    have hships : (news.map Passage.shipped).filterMap Passage.request? = news := by
      rw [List.filterMap_map]
      exact List.filterMap_some
    rw [hpass, hships]
    exact ⟨news, hsplit, List.filter_eq_self.2 fun r hr => beq_iff_eq.2 (hall r hr)⟩
  · rw [requests_passages_of_ne fun params e => hexec ⟨params, e⟩]
    obtain ⟨s', hs', hb⟩ := became_step hs c
    rw [sentBy_of_session? hs, sentBy_of_session? hs']
    cases hb with
    | same => exact ⟨[], (List.append_nil _).symm, rfl⟩
    | act l a orders =>
      exact ⟨[], (SessionBooks.within_perform ⟨l, s⟩ a).sent.trans (List.append_nil _).symm, rfl⟩
    | farSide t unasked => exact ⟨[], unasked.sent.trans (List.append_nil _).symm, rfl⟩
    | @send k params command p statement own r asks opened =>
      refine ⟨[r], Transport.sent_execute _ _, List.filter_eq_nil_iff.2 fun r' hr' hid => ?_⟩
      -- the id would be that of another statement
      rw [List.mem_singleton.1 hr', asks.queryId] at hid
      have hsame : p.statement.id = q.id := Option.some.inj (eq_of_beq hid)
      have hk := hw.distinct k j p ⟨i, .insert q⟩ statement hq hsame
      exact hexec ⟨params, hk ▸ command⟩

theorem requests_final {cs : List Command} (hw : w.Identified)
    (hq : w.statement? j = some ⟨i, .insert q⟩) (hs : w.session? i = some s)
    (hkept : .onStatement j (.convert false) ∉ cs) :
    ∃ news, (w.final cs).sentBy i = w.sentBy i ++ news ∧
      news.filter (·.queryId == some q.id) =
        (w.passed i j cs).filterMap Passage.request? := by
  induction cs generalizing w q s with
  | nil => exact ⟨[], (List.append_nil _).symm, rfl⟩
  | cons c cs ih =>
    rw [List.mem_cons, not_or] at hkept
    have hcourse := courses_step hq hs fun e => hkept.1 e.symm
    obtain ⟨s', hs', -⟩ := became_step hs c
    obtain ⟨first, hfirst, hpassages⟩ := requests_step hw hq hs c
    obtain ⟨rest, hrest, hpassed⟩ := ih (identified_step hw c) hcourse.statement hs' hkept.2
    refine ⟨first ++ rest, ?_, ?_⟩
    · rw [final, hrest, hfirst, List.append_assoc]
    · rw [passed, List.filterMap_append, List.filter_append, hpassages, ← hpassed]

/-! ## 6. The whole -/

/-- **What became of the rows of an insert** in the passages `ps`. It was prepared with these
    columns when its session had sent `sent`; by now it is `q`, and its session is `s`. -/
structure RowsKept (w : Workspace) (i j : Nat) (columns : List Sql.Column) (sent : List Request)
    (q : PreparedInsert) (s : Session) (ps : List Passage) : Prop where
  insert : w.statement? j = some ⟨i, .insert q⟩
  session : w.session? i = some s
  declared : q.columns = columns
  /-- Every row that was accepted has left once or still waits, and none has overtaken another. -/
  conserved : ps.flatMap Passage.entering = departed ps ++ q.rows
  wide : ∀ row, .accepted row ∈ ps → row.length = columns.length
  /-- Whenever rows leave, dropped or with a request, these are all that were accepted since rows
      left last. -/
  leaving : ∀ before p after batch, ps = before ++ p :: after → p.leaving? = some batch →
    batch = waitingAfter [] before
  /-- So are those that wait. -/
  waiting : q.rows = waitingAfter [] ps
  /-- The requests under its id are those that took rows along, each once, in this order. -/
  sent : ∃ news, s.transport.sent = sent ++ news ∧
    news.filter (·.queryId == some q.id) = ps.filterMap Passage.request?
  /-- The next row is accepted if and only if it is as wide as the columns, -/
  accepts : ∀ row, (w.step (.onStatement j (.addRow row))).answer.isOk = true ↔
    row.length = columns.length
  /-- and otherwise nothing changes. -/
  refuses : ∀ row, row.length ≠ columns.length → w.step (.onStatement j (.addRow row)) =
    ⟨.error (.session (.rowWidth columns.length row.length)), w, []⟩
  /-- Dropping never fails, and leaves no row. -/
  drops : (w.step (.onStatement j .clearRows)).answer = .ok (.answer .done) ∧
    (w.step (.onStatement j .clearRows)).state =
      w.putStatement j (some ⟨i, .insert { q with rows := [] }⟩)
  /-- Once the session is closed, nothing is sent and all rows stay. -/
  closed : s.closed = true → ∀ params,
    w.step (.onStatement j (.execute params)) = ⟨.error (.session .closed), w, []⟩
  /-- While it is open, one request takes all rows along, whatever the transport answers. -/
  ships : s.closed = false → ∀ params, ∃ r t, r.input = q.rows ∧ s.transport.execute r = t ∧
    (w.step (.onStatement j (.execute params))).answer =
      (((t.1.mapError (.insertFailed q.id)).map ResultSet.affected).map .number).mapError
        .session ∧
    (w.step (.onStatement j (.execute params))).state =
      (w.putSession i { s with transport := t.2 }).putStatement j
        (some ⟨i, .insert { q with rows := [] }⟩) ∧
    t.2.sent = s.transport.sent ++ [r]

/-- **Rows are shipped at most once, in order.** An insert is prepared in an open session; whatever
    is done with it and with the session later, short of consuming the insert, no row that it
    accepted is lost or taken twice. -/
theorem rows_final {past later : List Command} {s₀ : Session} {sql : String}
    {columns : List Sql.Column} (hs₀ : (empty.final past).session? i = some s₀)
    (ho : s₀.closed = false) (hshape : Sql.Shape.ofSql sql = .ok (.streaming columns))
    (hkept : .onStatement (empty.final past).statements.length (.convert false) ∉ later) :
    ∃ q s, RowsKept
      (((empty.final past).step (.onSession i (.act (.prepare sql)))).state.final later) i
      (empty.final past).statements.length columns s₀.transport.sent q s
      (((empty.final past).step (.onSession i (.act (.prepare sql)))).state.passed i
        (empty.final past).statements.length later) := by
  obtain ⟨st, hfits, -, -, -, hstatements, -⟩ :=
    step_prepare_of_ok (housed_final past) hs₀ ho hshape
  have hs₁ := session?_act_self hs₀ (.prepare sql)
  have hquiet := (SessionBooks.within_perform ⟨(empty.final past).ledger, s₀⟩ (.prepare sql)).sent
  have hw := identified_step (identified_final past) (.onSession i (.act (.prepare sql)))
  rw [← step_act hs₀] at hs₁
  generalize ((empty.final past).step (.onSession i (.act (.prepare sql)))).state = w
    at hstatements hs₁ hw ⊢
  generalize hj : (empty.final past).statements.length = j at hkept ⊢
  cases hfits with
  | @insert columns p text same none =>
    subst same
    have hp : w.statement? j = some ⟨i, .insert p⟩ := by
      rw [statement?, hstatements, ← hj, List.getElem?_concat_length]
      rfl
    obtain ⟨hq, horderly⟩ := courses_final hp hs₁ hkept
    obtain ⟨news, hsent, hrequests⟩ := requests_final hw hp hs₁ hkept
    rw [none] at hq horderly
    obtain ⟨s, hs⟩ := session?_final hs₁ later
    rw [sentBy_of_session? hs, sentBy_of_session? hs₁, hquiet] at hsent
    refine ⟨_, s, hq, hs, rfl, horderly.conserved, fun row hrow => horderly.wide hrow,
      fun before p after batch hsplit hbatch => ?_, rfl, ?_, fun row => ?_,
      fun row hrow => step_addRow_of_ne hq hrow, ?_, fun hc => step_execute_of_closed hq hs hc,
      fun ho params => ?_⟩
    · rw [hsplit] at horderly
      exact horderly.leaving hbatch
    · exact ⟨news, hsent, hrequests⟩
    · by_cases hrow : row.length = p.columns.length
      · rw [step_addRow hq hrow]
        exact iff_of_true rfl hrow
      · rw [step_addRow_of_ne hq hrow]
        exact iff_of_false Bool.false_ne_true hrow
    · rw [step_clearRows hq]
      exact ⟨rfl, rfl⟩
    · rw [step_execute hq hs ho params]
      exact ⟨_, _, rfl, rfl, rfl, rfl, Transport.sent_execute _ _⟩

/-- An insert whose first shipment fails: a row too narrow, a row that is lost with the shipment,
    one that is dropped, and one that the session, closed by then, leaves where it is. -/
theorem rows_final_failing :
    let o := (Options.ofNode (Node.ofHost "h")).set (.serverInfo "UTC" "23.3")
    let past := [.connect o (Transport.ofResponses [.error (.failed "full")]) none]
    let sql := "insert into t select * from input('a Int8')"
    let later := [.onStatement 0 (.addRow []), .onStatement 0 (.addRow [.int 1]),
      .onStatement 0 (.execute []), .onStatement 0 (.addRow [.int 2]), .onStatement 0 .clearRows,
      .onStatement 0 (.addRow [.int 3]), .onSession 0 (.act .close), .onStatement 0 (.execute [])]
    let w := ((empty.final past).step (.onSession 0 (.act (.prepare sql)))).state
    ∃ s₀ columns, (empty.final past).session? 0 = some s₀ ∧ s₀.closed = false ∧
      Sql.Shape.ofSql sql = .ok (.streaming columns) ∧
      .onStatement (empty.final past).statements.length (.convert false) ∉ later ∧
      ((w.passed 0 0 later).length, (departed (w.passed 0 0 later)).length) = (5, 2) ∧
      ∃ q s, RowsKept (w.final later) 0 0 columns s₀.transport.sent q s (w.passed 0 0 later) := by
  intro o past sql later w
  have hopen : ((empty.final past).session? 0).map (·.closed) = some false := by decide +kernel
  obtain ⟨s₀, hs₀, ho⟩ := Option.map_eq_some_iff.1 hopen
  have hstreams : (Sql.Shape.ofSql sql).toOption.map Sql.Shape.streams = some true := by
    decide +kernel
  obtain ⟨columns, hshape⟩ : ∃ columns, Sql.Shape.ofSql sql = .ok (.streaming columns) := by
    obtain ⟨shape, hsome, hshape⟩ := Option.map_eq_some_iff.1 hstreams
    cases shape with
    | parameterized query unfit => cases hshape
    | streaming columns => exact ⟨columns, eq_ok_of_toOption hsome⟩
  have hkept : .onStatement (empty.final past).statements.length (.convert false) ∉ later := by
    simp [later]
  have hpassed : ((w.passed 0 0 later).length, (departed (w.passed 0 0 later)).length) =
      (5, 2) := by decide +kernel
  exact ⟨s₀, columns, hs₀, ho, hshape, hkept, hpassed, rows_final hs₀ ho hshape hkept⟩

end Workspace

end StatelessSession
