import StatelessSession.Proofs.Session.Holders

/-!
# Which query ids are handed out, and where they go

A session hands out a query id when it is asked for one, and with every statement that it prepares.
Nothing else does, but for a transaction that is held. The ids are numbered over all sessions, and
in manual commit they go to the window of the session's transaction.

* `SessionBooks.Answer.id?`, `SessionBooks.Handing` -- the id that an action hands out, if any;
  `handing_perform` -- every action.
* `Workspace.handedOut`, `Workspace.Handing`, **`handing_step`** -- every command.
* `Workspace.handed` -- all ids of a run; `of_mem_handed` -- they are those that come next;
  `count_handed` -- none is handed out twice.
* `Identified`, `identified_final` -- so no two statements have the same.

NOT here: how long an id stays in a window (`Conservation`).
-/

namespace StatelessSession

/-! ## 1. Managers -/

namespace Books

variable {b : Books} {id : TransactionId}

theorem nextQuery_newQueryId (b : Books) :
    b.newQueryId.2.ledger.nextQuery = b.ledger.nextQuery + 1 := by
  unfold newQueryId
  split
  · rfl
  · rfl

/-- **A query id goes to the end of the window** of the current transaction. -/
theorem queries_newQueryId (hs : b.manager.slot = some id) (hb : b.ledger.Has id) :
    (b.newQueryId.2.ledger.transaction id).queries =
      (b.ledger.transaction id).queries ++ [b.newQueryId.1] := by
  have hnew : b.newQueryId = (.issued b.ledger.nextQuery,
      { b with
        ledger := b.ledger.issue.2.modify id (·.addQuery (.issued b.ledger.nextQuery)) }) := by
    simp only [newQueryId, hs]
    rfl
  have hhas : b.ledger.issue.2.Has id := hb
  rw [hnew]
  show (Ledger.transaction (b.ledger.issue.2.modify id _) id).queries = _
  rw [Ledger.transaction_modify hhas, if_pos rfl]
  rfl

/-- No other transaction has to do with it. -/
theorem transaction_newQueryId (hs : b.manager.slot ≠ some id) :
    b.newQueryId.2.ledger.transaction id = b.ledger.transaction id := by
  unfold newQueryId
  split
  · rfl
  · rename_i id' hid
    have hne : id' ≠ id := fun e => hs (hid.trans (congrArg some e))
    exact Ledger.transaction_modify_of_ne hne _

theorem nextQuery_discard (b : Books) : b.discard.state.ledger.nextQuery = b.ledger.nextQuery := by
  unfold discard
  split
  · rfl
  · rfl

theorem nextQuery_setAutocommit (b : Books) (enable : Bool) :
    (b.setAutocommit enable).state.ledger.nextQuery = b.ledger.nextQuery := by
  have ho := b.switched_setAutocommit enable
  generalize b.setAutocommit enable = o at ho ⊢
  cases ho with
  | same | unsupported | begun | kept => rfl
  | on => exact nextQuery_discard _

theorem nextQuery_finish (b : Books) (ending : Ending) :
    (b.finish ending).state.ledger.nextQuery = b.ledger.nextQuery := by
  have ho := b.finished_finish ending
  generalize b.finish ending = o at ho ⊢
  cases ho with
  | inAutocommit | unsupported | vacant | ended => rfl

theorem nextQuery_setSavepoint (b : Books) (name : Option String) :
    (b.setSavepoint name).state.ledger.nextQuery = b.ledger.nextQuery := by
  have ho := b.marked_setSavepoint name
  generalize b.setSavepoint name = o at ho ⊢
  cases ho with
  | inAutocommit | unsupported => rfl
  | set =>
    unfold current
    split
    · rfl
    · rfl

theorem nextQuery_returnTo (b : Books) (how : Transaction.Return) (s : Savepoint) :
    (b.returnTo how s).state.ledger.nextQuery = b.ledger.nextQuery := by
  have ho := b.tried_returnTo how s
  generalize b.returnTo how s = o at ho ⊢
  cases ho with
  | refused | unknown | done => rfl

/-- Nothing that a session has the manager do hands out a query id. -/
theorem nextQuery_operates {α : Type} {o : Outcome Books α} (ho : b.Operates o) :
    o.state.ledger.nextQuery = b.ledger.nextQuery := by
  cases ho with
  | setAutocommit enable => exact nextQuery_setAutocommit b enable
  | finish ending => exact nextQuery_finish b ending
  | setSavepoint name => exact nextQuery_setSavepoint b name
  | returnTo how s => exact nextQuery_returnTo b how s

end Books

/-! ## 2. Sessions -/

namespace SessionBooks

variable {b : SessionBooks} {id : TransactionId}

/-- **What an action hands out**: nothing, or the next query id. -/
inductive Handing (b : SessionBooks) (o : Outcome SessionBooks Answer) : Prop where
  | none (answer : o.answer.toOption.bind Answer.id? = .none)
      (next : o.state.ledger.nextQuery = b.ledger.nextQuery)
  | id (answer : o.answer.toOption.bind Answer.id? = some b.newQueryId.1)
      (state : o.state = b.newQueryId.2)

theorem handing_perform (b : SessionBooks) (a : Action) : b.Handing (b.perform a) := by
  have hp := performed b a
  generalize b.perform a = o at hp ⊢
  cases hp with
  | refused early => exact .none rfl rfl
  | answered plain events => exact .none plain rfl
  | @managed _ _ o' opened operates f plain =>
    refine .none ?_ (Books.nextQuery_operates operates)
    cases ho : o'.answer with
    | error e => rfl
    | ok x => exact plain x
  | issued => exact .id rfl rfl
  | @prepared sql shape opened fits =>
    cases shape with
    | parameterized query unfit => exact .id rfl rfl
    | streaming columns => exact .id rfl rfl
  | recorded opened alike => exact .none rfl rfl
  | pinged opened => exact .none rfl rfl
  | closed opened => exact .none rfl (Books.nextQuery_discard b.books)
  | unclosed opened => exact .none rfl (Books.nextQuery_discard b.books)
  | aborted opened => exact .none rfl (Books.nextQuery_discard b.books)

theorem nextQuery_abort (b : SessionBooks) :
    b.abort.state.ledger.nextQuery = b.ledger.nextQuery := by
  unfold abort
  split
  · rfl
  · exact Books.nextQuery_discard b.books

theorem fst_newQueryId (b : SessionBooks) : b.newQueryId.1 = .issued b.ledger.nextQuery :=
  Books.fst_newQueryId b.books

/-- **What a session hands out goes to the window of its transaction**, which stays where it is. -/
theorem queries_of_handed (hs : b.session.manager.slot = some id) (hb : b.ledger.Has id)
    {a : Action} {q : QueryId} (hq : (b.perform a).answer.toOption.bind Answer.id? = some q) :
    ((b.perform a).state.ledger.transaction id).queries =
        (b.ledger.transaction id).queries ++ [q] ∧
      (b.perform a).state.session.manager.slot = some id := by
  cases handing_perform b a with
  | none answer => cases answer.symm.trans hq
  | id answer state =>
    cases Option.some.inj (answer.symm.trans hq)
    have hslot : b.books.newQueryId.2.manager.slot = some id :=
      (congrArg Manager.slot (Books.manager_newQueryId b.books)).trans hs
    rw [state]
    exact ⟨Books.queries_newQueryId (b := b.books) hs hb, hslot⟩

end SessionBooks

/-! ## 3. Commands -/

namespace Workspace

variable {w : Workspace} {c : Command}

/-- The query id that a reply hands out, by itself or with a new statement. -/
def Reply.id? : Reply → Option QueryId
  | .answer a => a.id?
  | .prepared _ st => some st.id
  | _ => none

/-- The query id that a command hands out. -/
def handedOut (w : Workspace) (c : Command) : Option QueryId :=
  (w.step c).answer.toOption.bind Reply.id?

/-- **What comes of a command**: no query id, or the next one. -/
inductive Handing (w : Workspace) (r : Reaction Workspace Reply) : Prop where
  | none (answer : r.answer.toOption.bind Reply.id? = .none)
      (next : r.state.ledger.nextQuery = w.ledger.nextQuery)
  | id (answer : r.answer.toOption.bind Reply.id? = some (.issued w.ledger.nextQuery))
      (next : r.state.ledger.nextQuery = w.ledger.nextQuery + 1)

theorem handing_missing (w : Workspace) (what : Missing) : w.Handing (.missing w what) :=
  .none rfl rfl

theorem id?_register (w : Workspace) (i : Nat) (a : SessionBooks.Answer) :
    (w.register i a).1.id? = a.id? := by
  cases a with
  | _ => rfl

theorem id?_act (w : Workspace) (i : Nat) (s : Session) (a : SessionBooks.Action) :
    (w.act i s a).answer.toOption.bind Reply.id? =
      (SessionBooks.perform ⟨w.ledger, s⟩ a).answer.toOption.bind SessionBooks.Answer.id? := by
  unfold act
  dsimp only
  split
  · rename_i e ha
    rw [ha]
    rfl
  · rename_i answer ha
    rw [ha]
    exact id?_register _ i answer

theorem handing_act (w : Workspace) (i : Nat) (s : Session) (a : SessionBooks.Action) :
    w.Handing (w.act i s a) := by
  have hl := ledger_act w i s a
  cases SessionBooks.handing_perform ⟨w.ledger, s⟩ a with
  | none answer next => exact .none ((id?_act w i s a).trans answer) (by rw [hl, next])
  | id answer state =>
    refine .id ((id?_act w i s a).trans ?_) ?_
    · rw [answer, SessionBooks.fst_newQueryId]
    · rw [hl, state]
      exact Books.nextQuery_newQueryId ⟨w.ledger, s.manager⟩

theorem handing_stepSession (w : Workspace) (i : Nat) (s : Session) (sc : SessionCommand) :
    w.Handing (w.stepSession i s sc) := by
  have hsavepoint (n : Nat) (f : Savepoint → SessionBooks.Action) :
      w.Handing (w.withSavepoint n fun sp => w.act i s (f sp)) :=
    withSavepoint_induction (P := w.Handing) (handing_missing w _) fun sp =>
      handing_act w i s (f sp)
  cases sc with
  | act a => exact handing_act w i s a
  | rollbackTo n => exact hsavepoint n .rollbackTo
  | release n => exact hsavepoint n .release
  | hold =>
    simp only [stepSession]
    split
    · exact handing_missing w _
    · exact .none rfl rfl
  | _ => exact .none rfl rfl

theorem id?_of_mapError {α : Type} {f : α → Reply} (hf : ∀ x, (f x).id? = none)
    (x : Except SessionError α) :
    ((x.map f).mapError Failure.session).toOption.bind Reply.id? = none := by
  cases x with
  | error e => rfl
  | ok x => exact hf x

theorem handing_stepStatement (w : Workspace) (j : Nat) (p : Prepared) (sc : StatementCommand) :
    w.Handing (w.stepStatement j p sc) := by
  cases sc with
  | execute params =>
    simp only [stepStatement]
    split
    · exact handing_missing w _
    unfold execute
    split
    · exact .none (id?_of_mapError (fun _ => rfl) _) rfl
    · exact .none (id?_of_mapError (fun _ => rfl) _) rfl
  | addRow row =>
    simp only [stepStatement]
    split
    · exact handing_missing w _
    · exact .none (id?_of_mapError (fun _ => rfl) _) rfl
  | clearRows =>
    simp only [stepStatement]
    split
    · exact handing_missing w _
    · exact .none rfl rfl
  | convert toInsert => exact .none rfl rfl
  | inspect => exact .none rfl rfl

theorem nextQuery_openWith (l : Ledger) (o : Options) (t : Transport) (signal : Signal) :
    (Session.openWith l o t signal).ledger.nextQuery = l.nextQuery := by
  unfold Session.openWith
  split
  · rfl
  dsimp only
  split
  · rfl
  · rfl

theorem nextQuery_runAborts (w : Workspace) (is : List Nat) :
    (w.runAborts is).1.ledger.nextQuery = w.ledger.nextQuery := by
  induction is generalizing w with
  | nil => rfl
  | cons j is ih =>
    unfold runAborts
    split
    · exact ih w
    · rename_i s hs
      exact (ih _).trans (SessionBooks.nextQuery_abort ⟨w.ledger, s⟩)

/-- **Every command hands out the next query id or none.** -/
theorem handing_step (w : Workspace) (c : Command) : w.Handing (w.step c) := by
  cases c with
  | connect o t signal => exact .none rfl (nextQuery_openWith _ _ _ _)
  | onSession i sc =>
    simp only [step]
    split
    · exact handing_missing w _
    · exact handing_stepSession w i _ sc
  | onStatement j sc =>
    simp only [step, onStatement]
    split
    · exact handing_missing w _
    · exact .none rfl rfl
    · exact handing_missing w _
    · exact handing_stepStatement w j _ _
  | newQueryIn held =>
    simp only [step]
    split
    · exact handing_missing w _
    · exact .id rfl rfl
  | inspectHeld held =>
    simp only [step]
    split
    · exact handing_missing w _
    · exact .none rfl rfl
  | join => exact .none rfl (nextQuery_runAborts w w.aborts)

/-! ## 4. Runs -/

theorem nextQuery_le_step (w : Workspace) (c : Command) :
    w.ledger.nextQuery ≤ (w.step c).state.ledger.nextQuery := by
  cases handing_step w c with
  | none answer next => omega
  | id answer next => omega

/-- **Every statement has an id that was handed out**, and no two have the same. -/
structure Identified (w : Workspace) : Prop where
  issued : ∀ j p, w.statement? j = some p →
    ∃ n, p.statement.id = .issued n ∧ n < w.ledger.nextQuery
  distinct : ∀ j k p p', w.statement? j = some p → w.statement? k = some p' →
    p.statement.id = p'.statement.id → j = k

theorem lt_of_statement? {j : Nat} {p : Prepared} (h : w.statement? j = some p) :
    j < w.statements.length := by
  rw [statement?, Option.join_eq_some_iff] at h
  exact (List.getElem?_eq_some_iff.1 h).1

/-- A statement has the id that it had, or is new and has the next one. -/
theorem id_step {j : Nat} {p : Prepared} (hp : (w.step c).state.statement? j = some p) :
    (∃ p', w.statement? j = some p' ∧ p'.statement.id = p.statement.id) ∨
      j = w.statements.length ∧ p.statement.id = .issued w.ledger.nextQuery ∧
        (w.step c).state.ledger.nextQuery = w.ledger.nextQuery + 1 := by
  cases derived_step hp with
  | kept statement => exact .inl ⟨p, statement, rfl⟩
  | rows statement rows => exact .inl ⟨_, statement, rfl⟩
  | @prepared i s session a st ha last =>
    have hid : st.id = .issued w.ledger.nextQuery := by
      cases SessionBooks.handing_perform ⟨w.ledger, s⟩ a with
      | none answer next =>
        rw [ha] at answer
        cases answer
      | id answer state =>
        rw [ha] at answer
        exact (Option.some.inj answer).trans (SessionBooks.fst_newQueryId ⟨w.ledger, s⟩)
    refine .inr ⟨last, hid, ?_⟩
    -- a statement under a new number comes with an answer that tells its id
    cases numbering_step w c with
    | none same => exact absurd (lt_of_statement? hp) (by omega)
    | next told more =>
      cases handing_step w c with
      | none answer next =>
        rw [told] at answer
        cases answer
      | id answer next => exact next

theorem identified_empty : empty.Identified where
  issued j p hp := by simp [empty, statement?] at hp
  distinct j k p p' hp := by simp [empty, statement?] at hp

theorem identified_step (h : w.Identified) (c : Command) : (w.step c).state.Identified where
  issued j p hp := by
    have hle := nextQuery_le_step w c
    rcases id_step hp with ⟨p₀, hp₀, hid⟩ | ⟨-, hid, hnext⟩
    · obtain ⟨n, hn, hlt⟩ := h.issued j p₀ hp₀
      exact ⟨n, hid.symm.trans hn, by omega⟩
    · exact ⟨_, hid, by omega⟩
  distinct j k p p' hp hp' hsame := by
    -- an id that was there is not the next one
    have hold {j p n} (hp : w.statement? j = some p) (hid : p.statement.id = .issued n) :
        n < w.ledger.nextQuery := by
      obtain ⟨m, hm, hlt⟩ := h.issued j p hp
      cases hid.symm.trans hm
      exact hlt
    rcases id_step hp with ⟨p₀, hp₀, hid⟩ | ⟨hlast, hid, -⟩
    · rcases id_step hp' with ⟨p₀', hp₀', hid'⟩ | ⟨-, hid', -⟩
      · exact h.distinct j k p₀ p₀' hp₀ hp₀' (hid.trans (hsame.trans hid'.symm))
      · exact absurd (hold hp₀ (hid.trans (hsame.trans hid'))) (Nat.lt_irrefl _)
    · rcases id_step hp' with ⟨p₀', hp₀', hid'⟩ | ⟨hlast', -, -⟩
      · exact absurd (hold hp₀' (hid'.trans (hsame.symm.trans hid))) (Nat.lt_irrefl _)
      · exact hlast.trans hlast'.symm

theorem identified_final (cs : List Command) : (empty.final cs).Identified :=
  final_induction (P := Identified) (fun _ c h => identified_step h c) identified_empty cs

end Workspace

end StatelessSession
