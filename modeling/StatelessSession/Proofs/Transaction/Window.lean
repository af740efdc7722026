import StatelessSession.Proofs.Transaction.Handles

/-!
# Windows

What becomes of a query id that was issued into the slot of a manager. It stays in the window until
the window is reported, as the transaction ends, or is cut, as the manager goes back to a savepoint.

* `Books.window` -- the query ids of the transaction in the slot; `settled_discard`,
  `settled_finish`, `window_returnTo`, … say what each operation does to it.
* `Bench.Moment` -- one command and the bench that it met; `issued`, `reported` and `removed` are
  what it does to the window of the manager at place `i`.
* **`Moment.balance`** -- what was in the window or came in is in the window, reported or removed
  afterwards, in this order.
* `Moment.ended_whole` -- a report lists the whole window of the transaction in the slot.

NOT here: whole runs, and why no query id comes in twice (`Conservation`).
-/

namespace StatelessSession

/-- The query ids that an event reports of a transaction that ended. -/
def Event.endedQueries? : Event → Option (List QueryId)
  | .transactionEnded _ _ queries => some queries
  | _ => none

/-! ## 1. The window of one manager -/

namespace Books

/-- The query ids of the transaction in the slot. -/
def window (b : Books) : List QueryId :=
  match b.manager.slot with
  | none => []
  | some id => (b.ledger.transaction id).queries

variable {b : Books} {minted : List Savepoint} {id : TransactionId}

theorem window_of_slot_none (hs : b.manager.slot = none) : b.window = [] := by
  simp only [window, hs]

theorem window_of_slot (hs : b.manager.slot = some id) :
    b.window = (b.ledger.transaction id).queries := by
  simp only [window, hs]

/-- The window is what the slot and the transaction in it make it. -/
theorem window_congr {b' : Books} (hs : b'.manager.slot = b.manager.slot)
    (ht : ∀ id, b.manager.slot = some id → b'.ledger.transaction id = b.ledger.transaction id) :
    b'.window = b.window := by
  cases h : b.manager.slot with
  | none => rw [window_of_slot_none h, window_of_slot_none (hs.trans h)]
  | some id => rw [window_of_slot h, window_of_slot (hs.trans h), ht id h]

@[simp] theorem window_install (b : Books) : b.install.window = [] := by
  have hs : b.install.manager.slot = some b.ledger.beginTransaction.1 := rfl
  rw [window_of_slot hs, (fresh_of_install hs).2]
  rfl

/-- The current transaction has the window that was there before it was asked for. -/
theorem window_current (b : Books) : b.current.2.window = b.window := by
  unfold current
  split
  · rfl
  · rename_i hs
    exact (window_install b).trans (window_of_slot_none hs).symm

/-- A change of the transaction in the slot shows in the window. -/
theorem window_modify (h : b.Sound minted) (hs : b.manager.slot = some id)
    (f : Transaction → Transaction) {m : Manager} (hm : m.slot = some id) :
    window ⟨b.ledger.modify id f, m⟩ = (f (b.ledger.transaction id)).queries := by
  rw [window_of_slot hm]
  show ((b.ledger.modify id f).transaction id).queries = _
  rw [Ledger.transaction_modify (h.has id hs), if_pos rfl]

/-! ## 2. What each operation does to the window -/

/-- **A window that ends is reported whole**: what was in the window is still there or in a report,
    and a report is of the transaction in the slot with all its query ids. -/
structure Settled (b : Books) (o : Outcome Books Unit) : Prop where
  balance : b.window = o.state.window ++ (o.events.filterMap Event.endedQueries?).flatten
  whole : ∀ ending id queries, .transactionEnded ending id queries ∈ o.events →
    b.manager.slot = some id ∧ queries = b.window

/-- What neither touches the window nor reports one. -/
theorem Settled.of_window_eq {o : Outcome Books Unit} (hw : o.state.window = b.window)
    (he : o.events.filterMap Event.endedQueries? = []) : Settled b o where
  balance := by rw [hw, he, List.flatten_nil, List.append_nil]
  whole ending id queries hq := by
    have hn := List.filterMap_eq_nil_iff.1 he _ hq
    cases hn

/-- What empties the window and reports it at last. -/
theorem Settled.of_ended {o : Outcome Books Unit} {ending : Ending} (hs : b.manager.slot = some id)
    (hw : o.state.window = []) {p : List Event}
    (hp : p.filterMap Event.endedQueries? = [])
    (he : o.events = p ++ [b.ended ending id]) : Settled b o where
  balance := by
    rw [hw, he, List.filterMap_append, hp, window_of_slot hs]
    exact (List.append_nil _).symm
  whole ending' id' queries hq := by
    rw [he] at hq
    rcases List.mem_append.1 hq with hq | hq
    · have hn := List.filterMap_eq_nil_iff.1 hp _ hq
      cases hn
    · cases List.mem_singleton.1 hq
      exact ⟨hs, (window_of_slot hs).symm⟩

theorem settled_discard (b : Books) : Settled b b.discard := by
  unfold discard
  split
  · exact .of_window_eq rfl rfl
  · rename_i id hs
    exact .of_ended (p := []) hs (window_of_slot_none rfl) rfl rfl

theorem settled_setAutocommit (b : Books) (enable : Bool) :
    Settled b (b.setAutocommit enable) := by
  have ho := b.switched_setAutocommit enable
  generalize b.setAutocommit enable = o at ho ⊢
  cases ho with
  | same | unsupported | kept => exact .of_window_eq rfl rfl
  | on =>
    have h := settled_discard { b with manager := { b.manager with autocommit := enable } }
    refine ⟨h.balance, fun ending id queries hq => h.whole ending id queries ?_⟩
    rcases List.mem_cons.1 hq with hq | hq
    · cases hq
    · exact hq
  | begun he hne hc hs =>
    refine .of_window_eq ?_ rfl
    rw [window_install, window_of_slot_none hs]

theorem settled_finish (h : b.Sound minted) (ending : Ending) :
    Settled b (b.finish ending) := by
  have ho := b.finished_finish ending
  generalize b.finish ending = o at ho ⊢
  cases ho with
  | inAutocommit | unsupported => exact .of_window_eq rfl rfl
  | vacant ha hc hs =>
    refine .of_window_eq ?_ rfl
    rw [window_install, window_of_slot_none hs]
  | @ended id ha hc hs =>
    refine .of_ended (p := [_]) hs ?_ rfl rfl
    -- the transaction that ends is emptied, but the slot holds the one that begins
    have hw : (b.install.clear id).window = b.install.window :=
      window_congr rfl fun id' hi => transaction_clear_install (h.has id hs) hi
    exact hw.trans (window_install b)

/-- A savepoint leaves the window as it is, whether it is set or not. -/
theorem window_setSavepoint (h : b.Sound minted) (name : Option String) :
    (b.setSavepoint name).state.window = b.window := by
  cases ha : (b.setSavepoint name).answer with
  | error e => rw [setSavepoint_eq_error ha]
  | ok s =>
    rw [(setSavepoint_eq_ok ha).2]
    refine (window_modify h.current b.slot_current (·.addSavepoint s)
      (m := { b.current.2.manager with nextSavepoint := b.current.2.manager.nextSavepoint + 1 })
      b.slot_current).trans ?_
    show (b.current.2.ledger.transaction b.current.1).queries = b.window
    rw [← window_of_slot b.slot_current, window_current]

theorem endedQueries_setSavepoint (b : Books) (name : Option String) :
    (b.setSavepoint name).events.filterMap Event.endedQueries? = [] := by
  have ho := b.marked_setSavepoint name
  generalize b.setSavepoint name = o at ho ⊢
  cases ho with
  | inAutocommit | unsupported | set => rfl

/-- **Going back to a savepoint keeps a front part of the window**, all of it if it fails. -/
theorem window_returnTo (h : b.Sound minted) (how : Transaction.Return) (s : Savepoint) :
    (b.returnTo how s).state.window <+: b.window ∧
      ∀ e, (b.returnTo how s).answer = .error e → (b.returnTo how s).state = b := by
  have ho := b.tried_returnTo how s
  generalize b.returnTo how s = o at ho ⊢
  cases ho with
  | refused | unknown => exact ⟨List.prefix_refl _, fun _ _ => rfl⟩
  | done ht hr =>
    have hs := (target_eq_ok ht).2
    refine ⟨?_, fun e he => (by cases he)⟩
    obtain ⟨place, -, rfl⟩ := Option.map_eq_some_iff.1 hr
    rw [window_modify h hs _ hs, window_of_slot hs]
    exact List.take_prefix _ _

theorem endedQueries_returnTo (b : Books) (how : Transaction.Return) (s : Savepoint) :
    (b.returnTo how s).events.filterMap Event.endedQueries? = [] := by
  have ho := b.tried_returnTo how s
  generalize b.returnTo how s = o at ho ⊢
  cases ho with
  | refused | unknown | done => rfl

/-- A query id goes to the end of the window if there is one to go to. -/
theorem window_newQueryId (h : b.Sound minted) :
    b.newQueryId.2.window =
      b.window ++ if b.manager.slot.isSome then [b.newQueryId.1] else [] := by
  unfold newQueryId
  split
  · rename_i hs
    rw [window_of_slot_none hs, hs]
    exact window_of_slot_none hs
  · rename_i id hs
    have hi : b.ledger.issue.2.Has id := h.has id hs
    rw [window_of_slot hs, hs]
    refine (window_of_slot (b := { b with ledger := (b.ledger.issueIn id).2 }) hs).trans ?_
    show ((b.ledger.issue.2.modify id (·.addQuery b.ledger.issue.1)).transaction id).queries = _
    rw [Ledger.transaction_modify hi, if_pos rfl]
    rfl

end Books

/-! ## 3. One command of a run -/

namespace Bench

/-- The transaction in the slot of the manager at a place. -/
def slot (b : Bench) (i : Nat) : Option TransactionId := b.managers[i]?.bind (·.slot)

/-- The window of the manager at a place. -/
def window (b : Bench) (i : Nat) : List QueryId :=
  match b.managers[i]? with
  | none => []
  | some m => Books.window ⟨b.ledger, m⟩

/-- One command of a run and the bench that it met. -/
structure Moment where
  before : Bench
  command : Command
deriving DecidableEq

namespace Moment

/-- What came of the command. -/
def reaction (k : Moment) : Reaction Bench Reply := k.before.step k.command

/-- The bench that the command left. -/
def after (k : Moment) : Bench := k.reaction.state

/-- The query id that the command handed out, if it did. -/
def answered (k : Moment) : List QueryId :=
  match k.reaction.answer with
  | .ok (.queryId q) => [q]
  | _ => []

/-- Whether the command asks for a query id of the transaction in the slot of the manager at place
    `i`, through the manager or through a handle to the transaction. -/
def asksIn (k : Moment) (i : Nat) : Bool :=
  match k.command with
  | .act j .newQueryId => j = i && (k.before.slot i).isSome
  | .newQueryIn n => (k.before.slot i).isSome && k.before.held[n]? = k.before.slot i
  | _ => false

/-- The query id that was issued into the slot of the manager at place `i`, if one was. -/
def issued (k : Moment) (i : Nat) : List QueryId := if k.asksIn i then k.answered else []

/-- What the manager at place `i` logged. -/
def logged (k : Moment) (i : Nat) : List Event :=
  match k.command with
  | .act j _ => if j = i then k.reaction.events else []
  | _ => []

/-- The windows that the manager at place `i` reported of transactions that ended. -/
def reported (k : Moment) (i : Nat) : List (List QueryId) :=
  (k.logged i).filterMap Event.endedQueries?

/-- Whether the command has the manager at place `i` go back to a savepoint. -/
def returnsIn (k : Moment) (i : Nat) : Bool :=
  match k.command with
  | .act j (.rollbackTo _) | .act j (.release _) => j = i
  | _ => false

/-- The end of the window that the manager at place `i` cut off, if it went back to a savepoint. -/
def removed (k : Moment) (i : Nat) : List (List QueryId) :=
  match k.reaction.answer with
  | .error _ => []
  | .ok _ => if k.returnsIn i then [(k.before.window i).drop (k.after.window i).length] else []

end Moment

variable {b : Bench} {i j : Nat} {m : Manager}

theorem window_of_manager (hm : b.managers[i]? = some m) :
    b.window i = Books.window ⟨b.ledger, m⟩ := by
  simp only [window, hm]

theorem slot_of_manager (hm : b.managers[i]? = some m) : b.slot i = m.slot := by
  simp only [slot, hm, Option.bind_some]

theorem window_of_slot_none (hs : b.slot i = none) : b.window i = [] := by
  unfold window
  split
  · rfl
  · rename_i m hm
    exact Books.window_of_slot_none ((slot_of_manager hm).symm.trans hs)

/-- To put back what is there changes nothing. -/
theorem putBooks_self (hm : b.managers[i]? = some m) : b.putBooks i ⟨b.ledger, m⟩ = b := by
  obtain ⟨hlt, rfl⟩ := List.getElem?_eq_some_iff.1 hm
  rw [putBooks, List.set_getElem_self]

theorem answer_finished {o : Outcome Books Unit} :
    (b.finished i o).answer = .ok .done ↔ o.answer = .ok () := by
  unfold finished
  cases o.answer with
  | ok u => exact ⟨fun _ => rfl, fun _ => rfl⟩
  | error e =>
    constructor
    · intro h
      cases h
    · intro h
      cases h

theorem window_putBooks (hm : b.managers[i]? = some m) (books : Books) :
    (b.putBooks i books).window i = books.window := by
  obtain ⟨hi, -⟩ := List.getElem?_eq_some_iff.1 hm
  exact window_of_manager (List.getElem?_set_self hi)

/-- An action of one manager leaves the windows of the others as they are. -/
theorem Acted.window_of_ne {b' : Bench} (h : b.Sound) (hm : b.managers[j]? = some m)
    (ha : b.Acted j m b') (hij : j ≠ i) : b'.window i = b.window i := by
  obtain ⟨books, minted, held, hw, -⟩ := ha
  unfold window
  rw [show (b.managers.set j books.manager)[i]? = b.managers[i]? from List.getElem?_set_ne hij]
  split
  · rfl
  · rename_i n hn
    refine Books.window_congr rfl fun id hi => ?_
    refine hw.others id ((h.books i n hn).has id hi) fun hs => hij ?_
    exact h.slots j i m n id hm hn hs hi

/-- A query id that is issued through a handle goes to the window of the manager that has the
    transaction in its slot. -/
theorem window_issueIn {id : TransactionId} (hid : b.ledger.Has id) :
    window { b with ledger := (b.ledger.issueIn id).2 } i =
      b.window i ++ if b.slot i = some id then [.issued b.ledger.nextQuery] else [] := by
  unfold window slot
  cases hm : b.managers[i]? with
  | none => rfl
  | some m =>
    show Books.window ⟨(b.ledger.issueIn id).2, m⟩ =
      Books.window ⟨b.ledger, m⟩ ++ if m.slot = some id then _ else _
    have hi : b.ledger.issue.2.Has id := hid
    split
    · rename_i hs
      rw [Books.window_of_slot (b := ⟨_, m⟩) hs, Books.window_of_slot (b := ⟨_, m⟩) hs]
      show ((b.ledger.issue.2.modify id (·.addQuery b.ledger.issue.1)).transaction id).queries = _
      rw [Ledger.transaction_modify hi, if_pos rfl]
      rfl
    · rename_i hs
      rw [List.append_nil]
      refine Books.window_congr rfl fun id' hi' => ?_
      have hne : id ≠ id' := fun e => hs (e ▸ hi')
      exact Ledger.transaction_modify_of_ne hne _

/-- A new manager has an empty window, as nothing had in its place. -/
theorem window_newManager (b : Bench) (i : Nat) (compliant : Bool) :
    (b.step (.newManager compliant)).state.window i = b.window i := by
  show window ⟨_, b.managers ++ [(Books.opened b.ledger compliant).manager], _, _⟩ i = b.window i
  by_cases hi : i < b.managers.length
  · unfold window
    rw [List.getElem?_append_left hi]
    rfl
  · have hn : b.managers[i]? = none := List.getElem?_eq_none (Nat.le_of_not_lt hi)
    rw [window_of_slot_none (b := b) (by simp only [slot, hn, Option.bind_none])]
    refine window_of_slot_none ?_
    show Option.bind _ _ = none
    rw [List.getElem?_append_right (Nat.le_of_not_lt hi)]
    cases i - b.managers.length with
    | zero => rfl
    | succ d => rfl

/-! ## 4. One command keeps the balance -/

namespace Moment

/-- **What was in the window or came in is in the window, in a report or removed**, in this order,
    and a report is of the transaction in the slot with its whole window. -/
structure Balanced (k : Moment) (i : Nat) : Prop where
  flow : k.before.window i ++ k.issued i =
    k.after.window i ++ (k.reported i).flatten ++ (k.removed i).flatten
  whole : ∀ ending id queries, .transactionEnded ending id queries ∈ k.logged i →
    k.before.slot i = some id ∧ queries = k.before.window i

/-- What ends no transaction of the manager at place `i`. -/
theorem balanced_of_reported_nil {k : Moment} (hp : k.reported i = [])
    (hf : k.before.window i ++ k.issued i = k.after.window i ++ (k.removed i).flatten) :
    k.Balanced i where
  flow := by rw [hp, hf, List.flatten_nil, List.append_nil]
  whole ending id queries hq := by
    have hn := List.filterMap_eq_nil_iff.1 hp _ hq
    cases hn

/-- What does not concern the manager at place `i`. -/
theorem balanced_of_elsewhere {k : Moment} (hw : k.after.window i = k.before.window i)
    (hi : k.issued i = []) (hp : k.reported i = []) (hr : k.removed i = []) : k.Balanced i :=
  balanced_of_reported_nil hp (by rw [hw, hi, hr, List.flatten_nil])

theorem removed_of_not {k : Moment} (h : k.returnsIn i = false) : k.removed i = [] := by
  unfold removed
  split
  · rfl
  · rw [h]
    rfl

/-- A command that names something that does not exist. -/
theorem balanced_of_missing {k : Moment} {what : Missing}
    (hk : k.reaction = .missing k.before what) : k.Balanced i := by
  have hl : k.logged i = [] := by
    rw [logged, hk]
    split
    · exact ite_self _
    · rfl
  refine balanced_of_elsewhere ?_ ?_ ?_ ?_
  · rw [after, hk]
    rfl
  · rw [issued, answered, hk]
    exact ite_self _
  · rw [reported, hl]
    rfl
  · rw [removed, hk]
    rfl

theorem reaction_act (hm : b.managers[i]? = some m) (a : Action) :
    reaction ⟨b, .act i a⟩ = b.act i ⟨b.ledger, m⟩ a := by
  simp only [reaction, step, hm]

theorem logged_act (b : Bench) (i : Nat) (a : Action) :
    logged ⟨b, .act i a⟩ i = (reaction ⟨b, .act i a⟩).events := if_pos rfl

/-- An operation that ends whole windows only. -/
theorem balanced_finished (hm : b.managers[i]? = some m) {a : Action} {o : Outcome Books Unit}
    (ho : Books.Settled ⟨b.ledger, m⟩ o) (ha : b.act i ⟨b.ledger, m⟩ a = b.finished i o)
    (hi : issued ⟨b, .act i a⟩ i = []) (hr : returnsIn ⟨b, .act i a⟩ i = false) :
    Balanced ⟨b, .act i a⟩ i := by
  have hk := (reaction_act hm a).trans ha
  have hw : (after ⟨b, .act i a⟩).window i = o.state.window := by
    rw [after, hk]
    exact window_putBooks hm _
  have hl : logged ⟨b, .act i a⟩ i = o.events := by
    rw [logged_act, hk]
    rfl
  refine ⟨?_, fun ending id queries hq => ?_⟩
  · rw [hi, hw, reported, hl, removed_of_not hr, List.append_nil, List.flatten_nil, List.append_nil]
    exact (window_of_manager hm).trans ho.balance
  · rw [hl] at hq
    obtain ⟨hs, hq⟩ := ho.whole ending id queries hq
    exact ⟨(slot_of_manager hm).trans hs, hq.trans (window_of_manager hm).symm⟩

/-- Going back to a savepoint. -/
theorem balanced_returnTo (h : b.Sound) (hm : b.managers[i]? = some m) {a : Action} {n : Nat}
    {how : Transaction.Return} (ha : b.act i ⟨b.ledger, m⟩ a =
      b.withSavepoint n fun s => b.finished i (Books.returnTo ⟨b.ledger, m⟩ how s))
    (hi : issued ⟨b, .act i a⟩ i = []) (hr : returnsIn ⟨b, .act i a⟩ i = true) :
    Balanced ⟨b, .act i a⟩ i := by
  have hk := (reaction_act hm a).trans ha
  unfold withSavepoint at hk
  split at hk
  · exact balanced_of_missing hk
  · rename_i s _
    obtain ⟨hpre, herr⟩ := Books.window_returnTo (h.books i m hm) how s
    have hw : (after ⟨b, .act i a⟩).window i =
        (Books.returnTo ⟨b.ledger, m⟩ how s).state.window := by
      rw [after, hk]
      exact window_putBooks hm _
    have hp : reported ⟨b, .act i a⟩ i = [] := by
      rw [reported, logged_act, hk]
      exact Books.endedQueries_returnTo _ how s
    refine balanced_of_reported_nil hp ?_
    rw [hi, hw]
    show b.window i ++ [] = _
    rw [List.append_nil, window_of_manager hm]
    cases ho : (Books.returnTo ⟨b.ledger, m⟩ how s).answer with
    | error e =>
      have hcut : removed ⟨b, .act i a⟩ i = [] := by
        rw [removed, hk]
        simp only [finished, ho]
      rw [hcut, herr e ho, List.flatten_nil, List.append_nil]
    | ok u =>
      have hcut : removed ⟨b, .act i a⟩ i =
          [(b.window i).drop ((after ⟨b, .act i a⟩).window i).length] := by
        rw [removed, hr, hk]
        simp only [finished, ho, if_true]
      rw [hcut, hw, window_of_manager hm, List.flatten_singleton]
      exact (List.prefix_iff_eq_append.1 hpre).symm

/-- An action of the manager itself. -/
theorem balanced_own (h : b.Sound) (hm : b.managers[i]? = some m) (a : Action) :
    Balanced ⟨b, .act i a⟩ i := by
  have hb := h.books i m hm
  have hk := reaction_act hm a
  cases a with
  | setAutocommit enable =>
    exact balanced_finished hm (Books.settled_setAutocommit _ enable) rfl rfl rfl
  | commit => exact balanced_finished hm (Books.settled_finish hb .committed) rfl rfl rfl
  | rollback => exact balanced_finished hm (Books.settled_finish hb .rolledBack) rfl rfl rfl
  | discard => exact balanced_finished hm (Books.settled_discard _) rfl rfl rfl
  | rollbackTo n => exact balanced_returnTo h hm (n := n) rfl rfl (decide_eq_true rfl)
  | release n => exact balanced_returnTo h hm (n := n) rfl rfl (decide_eq_true rfl)
  | setSavepoint name =>
    refine balanced_of_elsewhere ?_ rfl ?_ (removed_of_not rfl)
    · rw [after, hk, window_of_manager hm, ← Books.window_setSavepoint hb name]
      simp only [act]
      split
      · exact window_putBooks hm _
      · exact window_putBooks hm _
    · rw [reported, logged_act, hk, ← Books.endedQueries_setSavepoint ⟨b.ledger, m⟩ name]
      simp only [act]
      split
      · rfl
      · rfl
  | newQueryId =>
    have hi : issued ⟨b, .act i .newQueryId⟩ i =
        if m.slot.isSome then [(Books.newQueryId ⟨b.ledger, m⟩).1] else [] := by
      simp only [issued, asksIn, answered, hk, decide_true, Bool.true_and, slot_of_manager hm]
      rfl
    have hw : (after ⟨b, .act i .newQueryId⟩).window i =
        (Books.newQueryId ⟨b.ledger, m⟩).2.window := by
      rw [after, hk]
      exact window_putBooks hm _
    refine balanced_of_reported_nil ?_ ?_
    · rw [reported, logged_act, hk]
      rfl
    · rw [hi, hw, removed_of_not rfl, Books.window_newQueryId hb, window_of_manager hm,
        List.flatten_nil, List.append_nil]
  | hold =>
    refine balanced_of_elsewhere ?_ rfl ?_ (removed_of_not rfl)
    · rw [after, hk]
      simp only [act]
      split
      · rfl
      · rfl
    · rw [reported, logged_act, hk]
      simp only [act]
      split
      · rfl
      · rfl

/-- **One command keeps the balance of every manager.** -/
theorem balance (k : Moment) (h : k.before.Sound) (i : Nat) : k.Balanced i := by
  obtain ⟨b, c⟩ := k
  cases c with
  | newManager compliant =>
    refine balanced_of_elsewhere ?_ rfl rfl (removed_of_not rfl)
    exact window_newManager b i compliant
  | newTransaction =>
    refine balanced_of_elsewhere ?_ rfl rfl (removed_of_not rfl)
    show window { b with ledger := b.ledger.beginTransaction.2, held := _ } i = b.window i
    unfold window
    dsimp only
    split
    · rfl
    · refine Books.window_congr rfl fun id _ => ?_
      exact Ledger.transaction_beginTransaction b.ledger id
  | act j a =>
    cases hm : b.managers[j]? with
    | none =>
      have hk : reaction ⟨b, .act j a⟩ = .missing b .manager := by
        simp only [reaction, step, hm]
      exact balanced_of_missing hk
    | some m =>
      by_cases hij : j = i
      · subst hij
        exact balanced_own h hm a
      · have hl : logged ⟨b, .act j a⟩ i = [] := if_neg hij
        have hp : reported ⟨b, .act j a⟩ i = [] := by
          rw [reported, hl]
          rfl
        refine balanced_of_elsewhere ?_ ?_ hp (removed_of_not ?_)
        · rw [after, reaction_act hm]
          exact (acted_act hm a).window_of_ne h hm hij
        · cases a <;> simp [issued, asksIn, hij]
        · cases a <;> simp [returnsIn, hij]
  | newQueryIn n =>
    cases hn : b.held[n]? with
    | none =>
      have hk : reaction ⟨b, .newQueryIn n⟩ = .missing b .heldTransaction := by
        simp only [reaction, step, hn]
      exact balanced_of_missing hk
    | some id =>
      have hk : reaction ⟨b, .newQueryIn n⟩ =
          ⟨.ok (.queryId (b.ledger.issueIn id).1), { b with ledger := (b.ledger.issueIn id).2 },
            []⟩ := by
        simp only [reaction, step, hn]
      have ha : asksIn ⟨b, .newQueryIn n⟩ i = decide (b.slot i = some id) := by
        simp only [asksIn, hn]
        cases b.slot i with
        | none => rfl
        | some id' => simp [eq_comm]
      have hi : issued ⟨b, .newQueryIn n⟩ i =
          if b.slot i = some id then [.issued b.ledger.nextQuery] else [] := by
        simp only [issued, ha, answered, hk, decide_eq_true_eq]
        rfl
      refine balanced_of_reported_nil rfl ?_
      rw [hi, removed_of_not rfl, after, hk, List.flatten_nil, List.append_nil]
      exact (window_issueIn (h.held id (List.mem_of_getElem? hn))).symm
  | inspect n =>
    refine balanced_of_elsewhere ?_ rfl rfl (removed_of_not rfl)
    show (b.step (.inspect n)).state.window i = b.window i
    simp only [step]
    split
    · rfl
    · rfl

/-- A window that is reported is the window of its time. -/
theorem eq_window_of_mem_reported {k : Moment} (h : k.before.Sound) {queries : List QueryId}
    (hq : queries ∈ k.reported i) : queries = k.before.window i := by
  obtain ⟨e, he, hqe⟩ := List.mem_filterMap.1 hq
  cases e with
  | transactionEnded ending id qs =>
    cases hqe
    exact ((balance k h i).whole ending id _ he).2
  | _ => cases hqe

/-- What is removed is the end of the window. -/
theorem eq_append_of_mem_removed {k : Moment} (h : k.before.Sound) {queries : List QueryId}
    (hq : queries ∈ k.removed i) : k.before.window i = k.after.window i ++ queries := by
  unfold removed at hq
  split at hq
  · cases hq
  split at hq
  · rename_i hr
    have hi : k.issued i = [] := by
      obtain ⟨b, c⟩ := k
      cases c with
      | act j a =>
        cases a with
        | rollbackTo n => rfl
        | release n => rfl
        | _ => cases hr
      | _ => cases hr
    have hf := (balance k h i).flow
    rw [hi, List.append_nil, List.append_assoc] at hf
    have hpre : k.after.window i <+: k.before.window i := ⟨_, hf.symm⟩
    rw [List.mem_singleton.1 hq]
    exact (List.prefix_iff_eq_append.1 hpre).symm
  · cases hq

/-- Whoever logs the end of a transaction has it in the slot, and logs all its query ids. -/
theorem ended_whole (k : Moment) (h : k.before.Sound) {ending : Ending} {id : TransactionId}
    {queries : List QueryId} (he : .transactionEnded ending id queries ∈ k.reaction.events) :
    ∃ j a, k.command = .act j a ∧ k.before.slot j = some id ∧ queries = k.before.window j := by
  obtain ⟨b, c⟩ := k
  cases c with
  | newManager compliant => cases he
  | newTransaction => cases he
  | act j a =>
    rw [← logged_act b j a] at he
    exact ⟨j, a, rfl, (balance ⟨b, .act j a⟩ h j).whole ending id queries he⟩
  | newQueryIn n =>
    simp only [reaction, step] at he
    split at he
    · cases he
    · cases he
  | inspect n =>
    simp only [reaction, step] at he
    split at he
    · cases he
    · cases he

end Moment

end Bench

end StatelessSession
