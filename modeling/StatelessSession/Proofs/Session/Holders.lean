import StatelessSession.Proofs.Session.Slot
import StatelessSession.Proofs.Transaction.Order

/-!
# Which session holds which transaction

Sessions share one ledger of transactions. A transaction is in the slot of one session at most; it
is reported as it leaves the slot, and once it has left it comes back to none. This file proves it
of every command, one change after the other where a command makes several.

* `Books.Effect` -- an operation of a manager reports no transaction but one that leaves its slot;
  `SessionBooks.effect_perform` -- so does every action of a session.
* `Workspace.slot?`, `Housed` -- what is in a slot has begun, and is in no other slot.
* `Change`, `Changes`, **`changes_step`** -- all that a command makes of the ledger and the slots.
* `Spent` -- a transaction that has begun and is in no slot; `Changes.spent` -- it stays so, and is
  not reported; `Changes.calm_or_spent` -- whatever is reported is spent from then on.

NOT here: which sessions have a transaction at all (`Slot`).
-/

namespace StatelessSession

/-! ## 1. Managers -/

namespace Books

/-- **What an operation leaves alone and what it reports**: no transaction but one that leaves the
    slot. -/
structure Effect (b : Books) (events : List Event) (b' : Books) : Prop where
  within : b.Within b'
  /-- The transaction in the slot was there before or has begun. -/
  begun : ∀ id, b'.manager.slot = some id → b.manager.slot = some id ∨ b'.ledger.Has id
  calm : ∀ id, (b.manager.slot = some id → b'.manager.slot = some id) →
    events.filter (·.ends id) = []

variable {b : Books} {id id' : TransactionId}

theorem filter_ended (b : Books) (ending : Ending) (id : TransactionId) :
    [b.ended ending id].filter (·.ends id) = [b.ended ending id] := by
  simp [ended, Event.ends]

theorem filter_ended_of_ne (h : id ≠ id') (ending : Ending) :
    [b.ended ending id].filter (·.ends id') = [] := by
  simp [ended, Event.ends, h]

theorem Effect.has_slot {events : List Event} {b' : Books} (h : b.Effect events b')
    (hb : ∀ id, b.manager.slot = some id → b.ledger.Has id)
    (hs : b'.manager.slot = some id) : b'.ledger.Has id := by
  rcases h.begun id hs with hbefore | hnow
  · exact h.within.has id (hb id hbefore)
  · exact hnow

theorem effect_of_calm {events : List Event} {b' : Books} (h : b.Within b')
    (hbegun : ∀ id, b'.manager.slot = some id → b.manager.slot = some id ∨ b'.ledger.Has id)
    (he : Event.Calm events) : b.Effect events b' :=
  ⟨h, hbegun, fun id _ => he id⟩

/-- What stays in the slot has not begun only now. -/
theorem effect_of_slot {events : List Event} {b' : Books} (h : b.Within b')
    (hslot : b'.manager.slot = b.manager.slot) (he : Event.Calm events) : b.Effect events b' :=
  effect_of_calm h (fun _ hs => .inl (hslot ▸ hs)) he

/-- The transaction that is put into the slot has begun. -/
theorem has_of_install (h : b.install.manager.slot = some id) : b.install.ledger.Has id := by
  cases h
  exact Ledger.has_beginTransaction.2 (.inr rfl)

theorem effect_install {events : List Event} (he : Event.Calm events) : b.Effect events b.install :=
  effect_of_calm (within_install b) (fun _ hs => .inr (has_of_install hs)) he

/-- The flag says nothing of the slot, and another feature that is missing nothing of its end. -/
theorem Effect.of_flag {enable : Bool} {events : List Event} {b' : Books} {feature : String}
    (h : Effect { b with manager := { b.manager with autocommit := enable } } events b') :
    b.Effect (.featureMissing feature :: events) b' :=
  ⟨(within_flag b enable).trans h.within, h.begun, h.calm⟩

theorem effect_discard (b : Books) : b.Effect b.discard.events b.discard.state := by
  refine ⟨within_discard b, fun id hid => ?_, fun id' hid => ?_⟩
  · rw [slot_discard] at hid
    cases hid
  unfold discard at hid ⊢
  split
  · rfl
  · rename_i id hs
    -- what is in the slot does not stay there
    have hne : id ≠ id' := fun e => by
      simp only [hs] at hid
      cases hid (congrArg some e)
    exact filter_ended_of_ne hne .committed

theorem effect_setAutocommit (b : Books) (enable : Bool) :
    b.Effect (b.setAutocommit enable).events (b.setAutocommit enable).state := by
  have ho := b.switched_setAutocommit enable
  generalize b.setAutocommit enable = o at ho ⊢
  cases ho with
  | same | unsupported => exact effect_of_slot (.refl b) rfl fun _ => rfl
  | on => exact .of_flag (effect_discard _)
  | begun => exact .of_flag (effect_install fun _ => rfl)
  | kept => exact effect_of_slot (within_flag b enable) rfl fun _ => rfl

theorem effect_finish (hb : ∀ id, b.manager.slot = some id → b.ledger.Has id) (ending : Ending) :
    b.Effect (b.finish ending).events (b.finish ending).state := by
  have hw := within_finish b ending
  have ho := b.finished_finish ending
  generalize b.finish ending = o at hw ho ⊢
  cases ho with
  | inAutocommit | unsupported => exact effect_of_slot (.refl b) rfl fun _ => rfl
  | vacant => exact effect_install fun _ => rfl
  | @ended id ha hc hs =>
    refine ⟨hw, fun id' hid => .inr (Ledger.has_modify.2 (has_of_install hid)), fun id' hid => ?_⟩
    -- the transaction that begins is another one than the transaction that ends
    have hne : id ≠ id' := fun e => by
      have hnew := fresh_of_install (hid (hs.trans (congrArg some e)))
      exact hnew.1 (e ▸ hb id hs)
    exact filter_ended_of_ne hne ending

theorem effect_setSavepoint (b : Books) (name : Option String) :
    b.Effect (b.setSavepoint name).events (b.setSavepoint name).state := by
  have hw := within_setSavepoint b name
  have ho := b.marked_setSavepoint name
  generalize b.setSavepoint name = o at hw ho ⊢
  cases ho with
  | inAutocommit | unsupported => exact effect_of_slot (.refl b) rfl fun _ => rfl
  | set =>
    refine effect_of_calm hw (fun id hid => ?_) fun _ => rfl
    unfold current at hid ⊢
    cases hs : b.manager.slot with
    | some id' =>
      rw [hs] at hid
      exact .inl (hs.symm.trans hid)
    | none =>
      rw [hs] at hid
      exact .inr (Ledger.has_modify.2 (has_of_install hid))

theorem effect_returnTo (b : Books) (how : Transaction.Return) (s : Savepoint) :
    b.Effect (b.returnTo how s).events (b.returnTo how s).state := by
  have hw := within_returnTo b how s
  have ho := b.tried_returnTo how s
  generalize b.returnTo how s = o at hw ho ⊢
  cases ho with
  | refused | unknown | done => exact effect_of_slot hw rfl fun _ => rfl

theorem effect_newQueryId (b : Books) : b.Effect [] b.newQueryId.2 :=
  effect_of_slot (within_newQueryId b) (congrArg Manager.slot (manager_newQueryId b)) fun _ => rfl

/-- **Whatever a session has the manager do.** -/
theorem effect_operates {α : Type} {o : Outcome Books α}
    (hb : ∀ id, b.manager.slot = some id → b.ledger.Has id) (ho : b.Operates o) :
    b.Effect o.events o.state := by
  cases ho with
  | setAutocommit enable => exact effect_setAutocommit b enable
  | finish ending => exact effect_finish hb ending
  | setSavepoint name => exact effect_setSavepoint b name
  | returnTo how s => exact effect_returnTo b how s

/-- Events that report no end may be others. -/
theorem Effect.of_filter {events events' : List Event} {b' : Books} (h : b.Effect events b')
    (he : ∀ id, events'.filter (·.ends id) = events.filter (·.ends id)) : b.Effect events' b' :=
  ⟨h.within, h.begun, fun id hid => (he id).trans (h.calm id hid)⟩

end Books

/-! ## 2. Sessions -/

namespace SessionBooks

variable {b : SessionBooks}

theorem calm_prepareShape (b : SessionBooks) (sql : String) (shape : Sql.Shape) :
    Event.Calm (b.prepareShape sql shape).events := by
  intro id
  cases shape with
  | parameterized query unfit =>
    cases unfit with
    | none => rfl
    | some use => rfl
  | streaming columns => rfl

/-- **Every action of a session.** -/
theorem effect_perform (hb : ∀ id, b.session.manager.slot = some id → b.ledger.Has id)
    (a : Action) : b.books.Effect (b.perform a).events (b.perform a).state.books := by
  have hp := performed b a
  generalize b.perform a = o at hp ⊢
  have hshut {events : List Event}
      (htold : ∀ id, events.filter (·.ends id) = b.shut.2.2.filter (·.ends id)) :
      b.books.Effect events b.shut.2.1.books :=
    (Books.effect_discard b.books).of_filter htold
  cases hp with
  | refused early => exact Books.effect_of_slot (.refl _) rfl fun _ => rfl
  | answered plain events calm => exact Books.effect_of_slot (.refl _) rfl calm
  | managed opened operates plain => exact Books.effect_operates hb operates
  | issued => exact Books.effect_newQueryId b.books
  | @prepared sql shape opened fits =>
    have hquiet : b.books.Effect [] (b.prepareShape sql shape).state.books := by
      rw [state_prepareShape]
      exact Books.effect_newQueryId b.books
    exact hquiet.of_filter (calm_prepareShape b sql shape)
  | recorded opened alike events calm =>
    have hquiet : b.books.Effect [] ⟨b.ledger, b.session.manager⟩ :=
      Books.effect_of_slot (.refl _) rfl fun _ => rfl
    rw [← alike.manager] at hquiet
    exact hquiet.of_filter calm
  | pinged opened node n => exact Books.effect_of_slot (.refl _) rfl fun _ => rfl
  | closed opened events told => exact hshut told
  | unclosed opened failure events told => exact hshut told
  | aborted opened events told => exact hshut told

end SessionBooks

/-! ## 3. One change -/

namespace Workspace

/-- The transaction in the slot of the session with a number. -/
def slot? (w : Workspace) (i : Nat) : Option TransactionId := (w.session? i).bind (·.manager.slot)

/-- **What is in a slot has begun, and is in no other slot.** -/
structure Housed (w : Workspace) : Prop where
  has : ∀ i id, w.slot? i = some id → w.ledger.Has id
  apart : ∀ i j id, w.slot? i = some id → w.slot? j = some id → i = j

/-- **What can become of the ledger and the slots at once**, and what is reported of it. -/
inductive Change (w : Workspace) (events : List Event) (w' : Workspace) : Prop where
  /-- The slots are as they were. -/
  | idle (calm : Event.Calm events) (has : ∀ id, w.ledger.Has id → w'.ledger.Has id)
      (slots : ∀ j, w'.slot? j = w.slot? j)
  /-- A session has its manager do something. -/
  | own {i : Nat} {s : Session} {b : Books} (session : w.session? i = some s)
      (effect : Books.Effect ⟨w.ledger, s.manager⟩ events b) (ledger : w'.ledger = b.ledger)
      (slots : ∀ j, w'.slot? j = if i = j then b.manager.slot else w.slot? j)

variable {w w' : Workspace} {i j : Nat} {s : Session} {id : TransactionId} {events : List Event}

theorem slot?_of_session? (hs : w.session? i = some s) : w.slot? i = s.manager.slot := by
  rw [slot?, hs, Option.bind_some]

namespace Change

/-- No change forgets a transaction. -/
theorem has (h : Change w events w') (hid : w.ledger.Has id) : w'.ledger.Has id := by
  cases h with
  | idle calm has slots => exact has id hid
  | own session effect ledger slots => exact ledger ▸ effect.within.has id hid

/-- What a slot holds it held before, or it begins now. -/
theorem slot (h : Change w events w') (hi : w'.slot? i = some id) :
    w.slot? i = some id ∨ ¬ w.ledger.Has id := by
  cases h with
  | idle calm has slots => exact .inl ((slots i).symm.trans hi)
  | @own k s b session effect ledger slots =>
    rw [slots i] at hi
    split at hi
    · rename_i hki
      subst hki
      rw [slot?_of_session? session]
      exact effect.within.slot id hi
    · exact .inl hi

/-- What is reported was in a slot and is there no more. -/
theorem calm (h : Change w events w')
    (hid : ∀ i, w.slot? i = some id → w'.slot? i = some id) : events.filter (·.ends id) = [] := by
  cases h with
  | idle calm has slots => exact calm id
  | @own k s b session effect ledger slots =>
    refine effect.calm id fun hs => ?_
    have hk := hid k ((slot?_of_session? session).trans hs)
    rw [slots k, if_pos rfl] at hk
    exact hk

theorem housed (h : Change w events w') (hw : w.Housed) : w'.Housed := by
  cases h with
  | idle calm has slots =>
    refine ⟨fun i id hi => has id (hw.has i id ((slots i).symm.trans hi)), fun i j id hi hj => ?_⟩
    exact hw.apart i j id ((slots i).symm.trans hi) ((slots j).symm.trans hj)
  | @own k s b session effect ledger slots =>
    have hk := slot?_of_session? session
    -- the slot of another session does not hold what session `k` holds now
    have hother {j : Nat} {id : TransactionId} (hkj : k ≠ j) (hb : b.manager.slot = some id)
        (hj : w.slot? j = some id) : False := by
      rcases effect.within.slot id hb with hs | hnew
      · exact hkj (hw.apart k j id (hk.trans hs) hj)
      · exact hnew (hw.has j id hj)
    refine ⟨fun i id hi => ?_, fun i j id hi hj => ?_⟩
    · rw [slots i] at hi
      rw [ledger]
      split at hi
      · exact effect.has_slot (fun id hs => hw.has k id (hk.trans hs)) hi
      · exact effect.within.has id (hw.has i id hi)
    · rw [slots i] at hi
      rw [slots j] at hj
      split at hi
      · rename_i hki
        split at hj
        · rename_i hkj
          exact hki.symm.trans hkj
        · rename_i hkj
          exact (hother hkj hi hj).elim
      · rename_i hki
        split at hj
        · exact (hother hki hj hi).elim
        · exact hw.apart i j id hi hj

end Change

/-! ## 4. Changes one after the other -/

/-- **All that a command makes of the ledger and the slots**, and all that is reported of it. -/
inductive Changes : Workspace → List Event → Workspace → Prop where
  | refl (w : Workspace) : Changes w [] w
  | step {w w' w'' : Workspace} {events events' : List Event} (first : Change w events w')
      (rest : Changes w' events' w'') : Changes w (events ++ events') w''

namespace Changes

theorem one (h : Change w events w') : Changes w events w' :=
  (List.append_nil events) ▸ .step h (.refl w')

theorem trans {w'' : Workspace} {events' : List Event} (h : Changes w events w')
    (h' : Changes w' events' w'') : Changes w (events ++ events') w'' := by
  induction h with
  | refl w => exact h'
  | step first rest ih =>
    rw [List.append_assoc]
    exact .step first (ih h')

theorem housed (h : Changes w events w') (hw : w.Housed) : w'.Housed := by
  induction h with
  | refl w => exact hw
  | step first rest ih => exact ih (first.housed hw)

end Changes

/-! ## 5. What has left its slot -/

/-- **A transaction that has begun and is in no slot.** -/
structure Spent (w : Workspace) (id : TransactionId) : Prop where
  has : w.ledger.Has id
  gone : ∀ i, w.slot? i ≠ some id

theorem Change.spent (h : Change w events w') (hid : w.Spent id) :
    w'.Spent id ∧ events.filter (·.ends id) = [] := by
  refine ⟨⟨h.has hid.has, fun i hi => ?_⟩, h.calm fun i hi => absurd hi (hid.gone i)⟩
  rcases h.slot hi with hbefore | hnew
  · exact hid.gone i hbefore
  · exact hnew hid.has

/-- **What has left its slot comes back to none**, and is not reported again. -/
theorem Changes.spent (h : Changes w events w') (hid : w.Spent id) :
    w'.Spent id ∧ events.filter (·.ends id) = [] := by
  induction h with
  | refl w => exact ⟨hid, rfl⟩
  | step first rest ih =>
    obtain ⟨hmid, hfirst⟩ := first.spent hid
    obtain ⟨hend, hrest⟩ := ih hmid
    refine ⟨hend, ?_⟩
    rw [List.filter_append, hfirst, hrest]
    rfl

theorem Change.calm_or_spent (h : Change w events w') (hw : w.Housed) (id : TransactionId) :
    events.filter (·.ends id) = [] ∨ w'.Spent id := by
  by_cases hstays : ∀ i, w.slot? i = some id → w'.slot? i = some id
  · exact .inl (h.calm hstays)
  -- it leaves the only slot that it was in, and comes to no other
  simp only [Classical.not_forall] at hstays
  obtain ⟨i, hi, hgone⟩ := hstays
  refine .inr ⟨h.has (hw.has i id hi), fun j hj => ?_⟩
  rcases h.slot hj with hbefore | hnew
  · exact hgone (hw.apart i j id hi hbefore ▸ hj)
  · exact hnew (hw.has i id hi)

/-- **What is reported has left its slot.** -/
theorem Changes.calm_or_spent (h : Changes w events w') (hw : w.Housed) (id : TransactionId) :
    events.filter (·.ends id) = [] ∨ w'.Spent id := by
  induction h with
  | refl w => exact .inl rfl
  | step first rest ih =>
    rcases first.calm_or_spent hw id with hfirst | hmid
    · rcases ih (first.housed hw) with hrest | hend
      · refine .inl ?_
        rw [List.filter_append, hfirst, hrest]
        rfl
      · exact .inr hend
    · exact .inr (rest.spent hmid).1

/-! ## 6. Commands -/

theorem slot?_putSession (hj : w.session? j = some s) (s' : Session) (i : Nat) :
    (w.putSession j s').slot? i = if j = i then s'.manager.slot else w.slot? i := by
  rw [slot?, session?_putSession (lt_of_session? hj)]
  split
  · rfl
  · rfl

/-- Nothing was done to the ledger, and to a session nothing that its manager knows of. -/
theorem Change.of_putSession (he : Event.Calm events) (hj : w.session? j = some s)
    (s' : Session) (hm : s'.manager = s.manager) (hl : w'.ledger = w.ledger)
    (hw : ∀ i, w'.session? i = (w.putSession j s').session? i) : Change w events w' := by
  refine .idle he (fun id hid => hl ▸ hid) fun i => ?_
  have hslot : w'.slot? i = (w.putSession j s').slot? i := by rw [slot?, slot?, hw]
  rw [hslot, slot?_putSession hj]
  split
  · rename_i hji
    subst hji
    rw [hm, slot?_of_session? hj]
  · rfl

/-- Nothing was done to ledger and slots. -/
theorem Change.of_same (he : Event.Calm events) (hl : w'.ledger = w.ledger)
    (hw : w'.sessions = w.sessions) : Change w events w' :=
  .idle he (fun id hid => hl ▸ hid) fun i => by rw [slot?, slot?, session?, session?, hw]

theorem change_missing (w : Workspace) (what : Missing) :
    Change w (Reaction.missing (α := Reply) w what).events w :=
  .of_same (fun _ => rfl) rfl rfl

/-- **A session does something**, its books go back to the workspace. -/
theorem Change.of_perform (hw : w.Housed) (hj : w.session? j = some s) (a : SessionBooks.Action)
    (hl : w'.ledger = (SessionBooks.perform ⟨w.ledger, s⟩ a).state.ledger)
    (hs : ∀ i, w'.session? i =
      (w.putSession j (SessionBooks.perform ⟨w.ledger, s⟩ a).state.session).session? i) :
    Change w (SessionBooks.perform ⟨w.ledger, s⟩ a).events w' := by
  have hslot := slot?_of_session? hj
  refine .own hj (SessionBooks.effect_perform (b := ⟨w.ledger, s⟩)
    (fun id hid => hw.has j id (hslot.trans hid)) a) hl fun i => ?_
  rw [slot?, hs, ← slot?, slot?_putSession hj]
  rfl

theorem events_act (w : Workspace) (i : Nat) (s : Session) (a : SessionBooks.Action) :
    (w.act i s a).events = (SessionBooks.perform ⟨w.ledger, s⟩ a).events := by
  unfold act
  dsimp only
  split
  · rfl
  · rfl

theorem ledger_act (w : Workspace) (i : Nat) (s : Session) (a : SessionBooks.Action) :
    (w.act i s a).state.ledger = (SessionBooks.perform ⟨w.ledger, s⟩ a).state.ledger := by
  unfold act
  dsimp only
  split
  · rfl
  · rename_i answer ha
    cases answer <;> rfl

theorem change_act (hw : w.Housed) (hj : w.session? j = some s) (a : SessionBooks.Action) :
    Change w (w.act j s a).events (w.act j s a).state :=
  events_act w j s a ▸ .of_perform hw hj a (ledger_act w j s a) fun i => session?_act w j i s a

/-- The abort of a session, as it comes to run. -/
theorem change_abort (hw : w.Housed) (hj : w.session? j = some s) :
    Change w (SessionBooks.abort ⟨w.ledger, s⟩).events
      (w.putBooks j (SessionBooks.abort ⟨w.ledger, s⟩).state) :=
  .of_perform hw hj .abort rfl fun _ => rfl

theorem change_stepSession (hw : w.Housed) (hj : w.session? j = some s) (sc : SessionCommand) :
    Change w (w.stepSession j s sc).events (w.stepSession j s sc).state := by
  have hfar (t : Transport) :
      Change w [] (w.putSession j { s with transport := t }) :=
    .of_putSession (fun _ => rfl) hj { s with transport := t } rfl rfl fun _ => rfl
  have hsavepoint (n : Nat) (f : Savepoint → SessionBooks.Action) :
      Change w (w.withSavepoint n fun sp => w.act j s (f sp)).events
        (w.withSavepoint n fun sp => w.act j s (f sp)).state :=
    withSavepoint_induction (P := fun r => Change w r.events r.state) (change_missing w _)
      fun sp => change_act hw hj (f sp)
  cases sc with
  | act a => exact change_act hw hj a
  | rollbackTo n => exact hsavepoint n .rollbackTo
  | release n => exact hsavepoint n .release
  | hold =>
    simp only [stepSession]
    split
    · exact change_missing w _
    · exact .of_same (fun _ => rfl) rfl rfl
  | scheduleAbort => exact .of_same (fun _ => rfl) rfl rfl
  | inspect => exact .of_same (fun _ => rfl) rfl rfl
  | pushResponse response => exact hfar _
  | setAlive v => exact hfar _
  | failClose e => exact hfar _

theorem calm_executeQuery (q : PreparedQuery) (closed : Bool) (t : Transport)
    (params : List Value) : Event.Calm (q.execute closed t params).events := by
  intro id
  unfold PreparedQuery.execute
  split
  · rfl
  split
  · rfl
  · rfl

theorem calm_executeInsert (q : PreparedInsert) (closed : Bool) (t : Transport) :
    Event.Calm (q.execute closed t).events := by
  intro id
  unfold PreparedInsert.execute
  split
  · rfl
  · rfl

theorem change_execute {p : Prepared} (hj : w.session? p.session = some s) (params : List Value) :
    Change w (w.execute j p params s).events (w.execute j p params s).state := by
  unfold execute
  split
  · rename_i q hst
    exact .of_putSession (calm_executeQuery q _ _ _) hj
      { s with transport := (q.execute s.closed s.transport params).state } rfl rfl fun _ => rfl
  · rename_i q hst
    exact .of_putSession (calm_executeInsert q _ _) hj
      { s with transport := (q.execute s.closed s.transport).state.2 } rfl rfl fun _ => rfl

theorem change_stepStatement {p : Prepared} (sc : StatementCommand) :
    Change w (w.stepStatement j p sc).events (w.stepStatement j p sc).state := by
  cases sc with
  | execute params =>
    simp only [stepStatement]
    split
    · exact change_missing w _
    · rename_i s hj
      exact change_execute hj params
  | addRow row =>
    simp only [stepStatement]
    split
    · exact change_missing w _
    · refine .of_same (fun id => ?_) rfl rfl
      unfold PreparedInsert.addRow
      split
      · rfl
      · rfl
  | clearRows =>
    simp only [stepStatement]
    split
    · exact change_missing w _
    · exact .of_same (fun _ => rfl) rfl rfl
  | convert toInsert => exact .of_same (fun _ => rfl) rfl rfl
  | inspect => exact .of_same (fun _ => rfl) rfl rfl

theorem change_onStatement (sc : StatementCommand) :
    Change w (w.onStatement j sc).events (w.onStatement j sc).state := by
  unfold onStatement
  split
  · exact change_missing w _
  · exact .of_same (fun _ => rfl) rfl rfl
  · exact change_missing w _
  · exact change_stepStatement _

/-- A negotiation reports the end of no transaction. -/
theorem calm_openWith (l : Ledger) (o : Options) (t : Transport) (signal : Signal) :
    Event.Calm (Session.openWith l o t signal).events := by
  intro id
  have hknown : (Negotiation.knownEvents o).filter (·.ends id) = [] := by
    unfold Negotiation.knownEvents
    split
    · rfl
    · rfl
  have hzone (f : Negotiation.Facts) : (Negotiation.zoneEvents f).filter (·.ends id) = [] := by
    unfold Negotiation.zoneEvents
    cases (Zone.ofServer f.timeZone).2 with
    | none => rfl
    | some name => rfl
  have hprofile (x : Except SessionError Profile) :
      (Negotiation.profileEvents x).filter (·.ends id) = [] := by
    cases x with
    | error e => rfl
    | ok p => rfl
  have hall : (negotiate o (Request.ofOptions o) t signal).events.filter (·.ends id) = [] := by
    unfold negotiate
    dsimp only
    split
    · exact hknown
    · rw [List.filter_append, List.filter_append, hknown, hzone, hprofile]
      rfl
  unfold Session.openWith
  split
  · rfl
  dsimp only
  split
  · exact hall
  · exact hall

theorem change_connect (w : Workspace) (o : Options) (t : Transport) (signal : Option Signal) :
    Change w (w.connect o t signal).events (w.connect o t signal).state := by
  refine .idle (calm_openWith _ _ _ _) (fun id hid => ?_) fun i => ?_
  · show (Session.openWith w.ledger o t (signal.getD .never)).ledger.Has id
    unfold Session.openWith
    split
    · exact hid
    dsimp only
    split
    · exact hid
    · exact hid
  · show Option.bind (session? { w with ledger := _, sessions := w.sessions ++ [_] } i) _ = _
    rw [session?_concat]
    split
    · rename_i hi
      subst hi
      rw [slot?, session?_length]
      cases ho : (Session.openWith w.ledger o t (signal.getD .never)).answer.toOption with
      | none => rfl
      | some s =>
        rw [(Session.openWith_eq_some ho).2]
        rfl
    · rfl

theorem changes_runAborts (hw : w.Housed) (is : List Nat) :
    Changes w (w.runAborts is).2 (w.runAborts is).1 := by
  induction is generalizing w with
  | nil => exact .refl w
  | cons j is ih =>
    unfold runAborts
    cases hj : w.session? j with
    | none => exact ih hw
    | some s =>
      have hfirst := change_abort hw hj
      exact .step hfirst (ih (hfirst.housed hw))

/-- **All that a command makes of ledger and slots** are such changes. -/
theorem changes_step (hw : w.Housed) (c : Command) :
    Changes w (w.step c).events (w.step c).state := by
  cases c with
  | connect o t signal => exact .one (change_connect w o t signal)
  | onSession j sc =>
    simp only [step]
    split
    · exact .one (change_missing w _)
    · rename_i s hj
      exact .one (change_stepSession hw hj sc)
  | onStatement j sc => exact .one (change_onStatement sc)
  | newQueryIn held =>
    simp only [step]
    split
    · exact .one (change_missing w _)
    · exact .one (.idle (fun _ => rfl) (fun id hid => Ledger.has_modify.2 hid) fun i => rfl)
  | inspectHeld held =>
    simp only [step]
    split
    · exact .one (change_missing w _)
    · exact .one (.of_same (fun _ => rfl) rfl rfl)
  | join =>
    have hall := changes_runAborts hw w.aborts
    have hend : Change (w.runAborts w.aborts).1 [] { (w.runAborts w.aborts).1 with aborts := [] } :=
      .of_same (fun _ => rfl) rfl rfl
    have hboth := hall.trans (.one hend)
    rw [List.append_nil] at hboth
    exact hboth

theorem housed_empty : empty.Housed where
  has i id hi := by simp [slot?, session?, empty] at hi
  apart i j id hi := by simp [slot?, session?, empty] at hi

end Workspace

end StatelessSession
