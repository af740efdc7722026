import StatelessSession.Proofs.Transaction.Stack

/-!
# How long a savepoint is good for

A manager looks for a savepoint on the stack of the current transaction. Whether it is there can be
told from the past alone: a savepoint is good until its transaction ends, or the manager goes back
behind it.

* `Bench.marks` -- the savepoints in the slot of the manager at a place, each with its transaction;
  `Moment.set?` -- the one that a command set there.
* `Moment.Ends` -- the commands that end the life of a savepoint.
* `Moment.Follows`, `follows` -- one command: what is on the stack afterwards was there and was not
  ended, or was set by it.
* `Moment.minted?`, `savepoints_step_eq` -- the savepoint that a command hands out, if any.
* `Recorded`, `recorded_final` -- the stack holds nothing that was not set, and what was set later
  has a higher number.
* **`standing_of_set`** -- a run: when going back to a savepoint succeeds, and the error if not.

NOT here: what is logged of an attempt (`Report`).
-/

namespace StatelessSession

namespace Bench

/-- The savepoints in the slot of the manager at a place, oldest first, each with the
    transaction. -/
def marks (b : Bench) (i : Nat) : List (TransactionId × Savepoint) :=
  match b.managers[i]? with
  | none => []
  | some m => Books.marks ⟨b.ledger, m⟩

/-- Whether the manager at a place is in manual commit. -/
def manual (b : Bench) (i : Nat) : Bool := b.managers[i]?.any (!·.autocommit)

/-- The action that goes back to the savepoint with a number. -/
def Action.returnTo (how : Transaction.Return) (n : Nat) : Action :=
  match how with
  | .rollback => .rollbackTo n
  | .release => .release n

/-- Whether an action can end the life of a savepoint. -/
def Action.mayEnd : Action → Bool
  | .setAutocommit _ | .commit | .rollback | .rollbackTo _ | .release _ | .discard => true
  | .setSavepoint _ | .newQueryId | .hold => false

namespace Moment

/-- The savepoint that the command had the manager at place `i` set, with the transaction in which
    it was set. -/
def set? (k : Moment) (i : Nat) : Option (TransactionId × Savepoint) :=
  match k.command, k.reaction.answer with
  | .act j (.setSavepoint _), .ok (.savepoint s) =>
    if j = i then (k.after.slot i).map (·, s) else none
  | _, _ => none

/-- **The commands that end the life of the savepoint `s`** of the manager at place `i`. `earlier`
    are the savepoints that were set before it in its transaction. -/
inductive Ends (k : Moment) (i : Nat) (s : Savepoint) (earlier : Savepoint → Prop) : Prop where
  | commit (command : k.command = .act i .commit) (ok : k.reaction.answer = .ok .done)
  | rollback (command : k.command = .act i .rollback) (ok : k.reaction.answer = .ok .done)
  /-- A switch to autocommit. -/
  | autocommit (command : k.command = .act i (.setAutocommit true))
      (manual : k.before.manual i = true) (ok : k.reaction.answer = .ok .done)
  | discard (command : k.command = .act i .discard)
  | release {n : Nat} (command : k.command = .act i (.release n))
      (here : k.before.savepoints[n]? = some s) (ok : k.reaction.answer = .ok .done)
  /-- A rollback to an earlier savepoint or the release of one. -/
  | behind {how : Transaction.Return} {n : Nat} {u : Savepoint}
      (command : k.command = .act i (.returnTo how n)) (here : k.before.savepoints[n]? = some u)
      (earlier : earlier u) (ok : k.reaction.answer = .ok .done)

/-- Only what is said of savepoints that the manager went back to matters. -/
theorem Ends.imp {k : Moment} {i : Nat} {s : Savepoint} {e e' : Savepoint → Prop}
    (h : k.Ends i s e) (he : ∀ how n u, k.command = .act i (.returnTo how n) →
      k.before.savepoints[n]? = some u → k.reaction.answer = .ok .done → e u → e' u) :
    k.Ends i s e' := by
  cases h with
  | commit command ok => exact .commit command ok
  | rollback command ok => exact .rollback command ok
  | autocommit command manual ok => exact .autocommit command manual ok
  | discard command => exact .discard command
  | release command here ok => exact .release command here ok
  | behind command here earlier ok =>
    exact .behind command here (he _ _ _ command here ok earlier) ok

theorem Ends.action {k : Moment} {i : Nat} {s : Savepoint} {earlier : Savepoint → Prop}
    (h : k.Ends i s earlier) : ∃ a, k.command = .act i a ∧ a.mayEnd = true := by
  cases h with
  | commit command => exact ⟨_, command, rfl⟩
  | rollback command => exact ⟨_, command, rfl⟩
  | autocommit command => exact ⟨_, command, rfl⟩
  | discard command => exact ⟨_, command, rfl⟩
  | release command => exact ⟨_, command, rfl⟩
  | @behind how _ _ command => exact ⟨_, command, by cases how <;> rfl⟩

/-- **What becomes of the stack of the manager at place `i`**: what is on it was there and was not
    ended, or was set. A savepoint is set before another if its number is lower. -/
def Follows (k : Moment) (i : Nat) : Prop :=
  ∀ p, p ∈ k.after.marks i ↔
    p ∈ k.before.marks i ∧ ¬ k.Ends i p.2 (·.id < p.2.id) ∨ k.set? i = some p

end Moment

variable {b : Bench} {i j : Nat} {m : Manager} {s : Savepoint}

/-! ## 1. One command -/

theorem marks_of_manager (hm : b.managers[i]? = some m) :
    b.marks i = Books.marks ⟨b.ledger, m⟩ := by
  simp only [marks, hm]

theorem manual_of_manager (hm : b.managers[i]? = some m) : b.manual i = !m.autocommit := by
  simp only [manual, hm, Option.any_some]

theorem marks_of_none (hm : b.managers[i]? = none) : b.marks i = [] := by
  simp only [marks, hm]

theorem mem_marks_iff {id : TransactionId} {u : Savepoint} :
    (id, u) ∈ b.marks i ↔ b.slot i = some id ∧ u ∈ (b.ledger.transaction id).savepoints := by
  cases hm : b.managers[i]? with
  | none =>
    rw [marks_of_none hm, slot, hm]
    exact ⟨fun h => absurd h List.not_mem_nil, fun h => by cases h.1⟩
  | some m =>
    rw [marks_of_manager hm, slot_of_manager hm]
    exact Books.mem_marks_iff

theorem marks_putBooks (hm : b.managers[i]? = some m) (books : Books) :
    (b.putBooks i books).marks i = books.marks := by
  obtain ⟨hi, -⟩ := List.getElem?_eq_some_iff.1 hm
  exact marks_of_manager (List.getElem?_set_self hi)

theorem act_returnTo (b : Bench) (i : Nat) (books : Books) (how : Transaction.Return) (n : Nat) :
    b.act i books (.returnTo how n) =
      b.withSavepoint n fun s => b.finished i (books.returnTo how s) := by
  cases how <;> rfl

/-- The stack is what the manager and the transaction in its slot make it. -/
theorem marks_congr {b' : Bench} (hms : b'.managers[i]? = b.managers[i]?)
    (ht : ∀ n id, b.managers[i]? = some n → n.slot = some id →
      (b'.ledger.transaction id).savepoints = (b.ledger.transaction id).savepoints) :
    b'.marks i = b.marks i := by
  cases hn : b.managers[i]? with
  | none => rw [marks_of_none hn, marks_of_none (hms.trans hn)]
  | some n =>
    rw [marks_of_manager hn, marks_of_manager (hms.trans hn)]
    exact Books.marks_congr rfl fun id hs => ht n id hn hs

/-- A command to another manager, or to none, leaves the stack as it is. -/
theorem marks_of_change {c : Command} {b' : Bench} (h : b.Sound) (hc : Change b c b')
    (hi : ∀ a, c ≠ .act i a) : b'.marks i = b.marks i := by
  cases hc with
  | nothing hl hms => exact marks_congr (by rw [hms]) fun _ _ _ _ => by rw [hl]
  | manager hl hms =>
    by_cases hlt : i < b.managers.length
    · refine marks_congr ?_ fun _ _ _ _ => by
        rw [hl]
        rfl
      rw [hms, List.getElem?_append_left hlt]
    · have hnone : b.managers[i]? = none := List.getElem?_eq_none (Nat.le_of_not_lt hlt)
      rw [marks_of_none hnone]
      cases hn : b'.managers[i]? with
      | none => exact marks_of_none hn
      | some n =>
        rw [marks_of_manager hn]
        rw [hms] at hn
        rcases manager_of_append hn with hn | ⟨-, rfl⟩
        · cases hnone.symm.trans hn
        · exact Books.marks_of_slot_none rfl
  | transaction hl hms =>
    refine marks_congr (by rw [hms]) fun _ id _ _ => ?_
    rw [hl, Ledger.transaction_beginTransaction]
  | @books j m a books _ hm hcourse hl hms =>
    have hji : j ≠ i := fun e => hi a (by rw [e])
    refine marks_congr (by rw [hms, List.getElem?_set_ne hji]) fun n id hn hs => ?_
    rw [hl]
    refine congrArg _ (hcourse.within.others id ((h.books i n hn).has id hs) fun hs' => hji ?_)
    exact h.slots j i m n id hm hn hs' hs
  | @query _ id _ hheld hl hms =>
    refine marks_congr (by rw [hms]) fun _ id' _ _ => ?_
    rw [hl, transaction_issueIn (h.held id (List.mem_of_getElem? hheld))]
    split
    · rename_i e
      rw [e]
      rfl
    · rfl

namespace Moment

/-- What neither sets nor ends a savepoint. -/
theorem follows_of_same {k : Moment} (hm : k.after.marks i = k.before.marks i)
    (he : ∀ p ∈ k.before.marks i, ¬ k.Ends i p.2 (·.id < p.2.id)) (hs : k.set? i = none) :
    k.Follows i := by
  intro p
  rw [hm, hs]
  refine ⟨fun hp => .inl ⟨hp, he p hp⟩, fun hp => ?_⟩
  rcases hp with ⟨hp, -⟩ | hp
  · exact hp
  · cases hp

/-- What empties the stack. -/
theorem follows_of_nil {k : Moment} (hm : k.after.marks i = [])
    (he : ∀ s earlier, k.Ends i s earlier) (hs : k.set? i = none) : k.Follows i := by
  intro p
  rw [hm, hs]
  refine ⟨fun hp => absurd hp List.not_mem_nil, fun hp => ?_⟩
  rcases hp with ⟨-, hp⟩ | hp
  · exact absurd (he _ _) hp
  · cases hp

/-- A command to the manager at another place, or to none. -/
theorem follows_of_elsewhere {k : Moment} (h : k.before.Sound)
    (hi : ∀ a, k.command ≠ .act i a) : k.Follows i := by
  obtain ⟨b, c⟩ := k
  refine follows_of_same (marks_of_change h (change_step h c) hi) (fun p _ he => ?_) ?_
  · obtain ⟨a, hc, -⟩ := he.action
    exact hi a hc
  · unfold set?
    split
    · rename_i j name s hc ha
      exact if_neg fun e => hi _ (hc.trans (by rw [e]))
    · rfl

theorem returnTo_inj {how how' : Transaction.Return} {n n' : Nat}
    (h : Action.returnTo how n = Action.returnTo how' n') : how = how' ∧ n = n' := by
  cases how <;> cases how' <;> cases h <;> exact ⟨rfl, rfl⟩

/-- A command that fails ends no savepoint. -/
theorem not_ends_of_error {k : Moment} {earlier : Savepoint → Prop}
    (ha : k.reaction.answer ≠ .ok .done) (hd : k.command ≠ .act i .discard) :
    ¬ k.Ends i s earlier := by
  intro he
  cases he with
  | commit _ ok => exact ha ok
  | rollback _ ok => exact ha ok
  | autocommit _ _ ok => exact ha ok
  | discard command => exact hd command
  | release _ _ ok => exact ha ok
  | behind _ _ _ ok => exact ha ok

/-- **Going back to a savepoint** ends those that were set after it, and itself if it is dropped. -/
theorem follows_returnTo (h : b.Sound) (ho : b.Orderly) (hm : b.managers[i]? = some m)
    (how : Transaction.Return) (n : Nat) : Follows ⟨b, .act i (.returnTo how n)⟩ i := by
  have hk := (reaction_act hm (.returnTo how n)).trans (act_returnTo b i _ how n)
  have hset : set? ⟨b, .act i (.returnTo how n)⟩ i = none := by cases how <;> rfl
  have hdiscard : Command.act i (.returnTo how n) ≠ .act i .discard := by
    cases how <;> simp [Action.returnTo]
  unfold withSavepoint at hk
  split at hk
  · refine follows_of_same ?_ (fun p _ => not_ends_of_error ?_ hdiscard) hset
    · rw [after, hk]
      rfl
    · rw [hk]
      exact fun hok => by cases hok
  rename_i u hu
  have hb := h.books i m hm
  have hminted : u ∈ b.savepoints := List.mem_of_getElem? hu
  have hafter : (after ⟨b, .act i (.returnTo how n)⟩).marks i =
      (Books.returnTo ⟨b.ledger, m⟩ how u).state.marks := by
    rw [after, hk]
    exact marks_putBooks hm _
  by_cases ha : (Books.returnTo ⟨b.ledger, m⟩ how u).answer = .ok ()
  · obtain ⟨⟨id, hid⟩, hmem⟩ := Books.mem_marks_returnTo (ho i m hm) hb hminted ha
    have hok : (reaction ⟨b, .act i (.returnTo how n)⟩).answer = .ok .done := by
      rw [hk]
      exact answer_finished.2 ha
    rintro ⟨id', v⟩
    rw [hafter, hset, hmem, marks_of_manager hm]
    simp only [reduceCtorEq, or_false]
    refine and_congr_right fun hv => ⟨fun hcase he => ?_, fun hn => ?_⟩
    · cases he with
      | commit command => cases how <;> cases command
      | rollback command => cases how <;> cases command
      | autocommit command => cases how <;> cases command
      | discard command => exact hdiscard command
      | @release n' command here _ =>
        have hsame : Action.returnTo how n = .returnTo .release n' := (Command.act.inj command).2
        obtain ⟨rfl, rfl⟩ := returnTo_inj hsame
        cases Option.some.inj (hu.symm.trans here)
        rcases hcase with hlt | ⟨hhow, -⟩
        · exact absurd hlt (Nat.lt_irrefl _)
        · cases hhow
      | behind command here hlt _ =>
        obtain ⟨rfl, rfl⟩ := returnTo_inj (Command.act.inj command).2
        cases Option.some.inj (hu.symm.trans here)
        rcases hcase with hlt' | ⟨-, rfl⟩
        · exact absurd hlt (Nat.lt_asymm hlt')
        · exact absurd hlt (Nat.lt_irrefl _)
    · rcases Nat.lt_trichotomy v.id u.id with hlt | heq | hlt
      · exact .inl hlt
      · obtain ⟨hslot, hvs⟩ := Books.mem_marks_iff.1 hv
        obtain ⟨hslot', hus⟩ := Books.mem_marks_iff.1 hid
        have hown := ((ho i m hm).stack id hslot').owned u hus
        have hvu : v = u := hb.eq_of_id hslot hvs hminted hown heq
        cases how with
        | rollback => exact .inr ⟨rfl, hvu⟩
        | release => exact absurd (.release rfl (hvu ▸ hu) hok) hn
      · exact absurd (.behind rfl hu hlt hok) hn
  · refine follows_of_same ?_ (fun p _ => not_ends_of_error ?_ hdiscard) hset
    · rw [hafter, marks_of_manager hm]
      cases he : (Books.returnTo ⟨b.ledger, m⟩ how u).answer with
      | ok r => exact absurd he ha
      | error e => rw [(Books.window_returnTo hb how u).2 e he]
    · rw [hk]
      exact fun hok => ha (answer_finished.1 hok)

/-- What only sets savepoints, or nothing, ends none. -/
theorem not_ends_of_action {a : Action} (ha : a.mayEnd = false) (s : Savepoint)
    (earlier : Savepoint → Prop) : ¬ Ends ⟨b, .act i a⟩ i s earlier := by
  intro he
  obtain ⟨a', hc, ha'⟩ := he.action
  cases hc
  exact absurd ha' (ha ▸ Bool.false_ne_true)

theorem act_setSavepoint_ok {books : Books} {name : Option String}
    (hs : (books.setSavepoint name).answer = .ok s) :
    b.act i books (.setSavepoint name) = ⟨.ok (.savepoint s),
      { b.putBooks i (books.setSavepoint name).state with savepoints := b.savepoints ++ [s] },
      (books.setSavepoint name).events⟩ := by
  simp only [act, hs]
  rfl

theorem act_setSavepoint_error {books : Books} {name : Option String} {e : SessionError}
    (hs : (books.setSavepoint name).answer = .error e) :
    b.act i books (.setSavepoint name) = ⟨.error (.session e),
      b.putBooks i (books.setSavepoint name).state, (books.setSavepoint name).events⟩ := by
  simp only [act, hs]

/-- The stack after a savepoint was set, whatever else came of it. -/
theorem after_setSavepoint (hm : b.managers[i]? = some m) {name : Option String}
    (hs : (Books.setSavepoint ⟨b.ledger, m⟩ name).answer = .ok s) :
    (after ⟨b, .act i (.setSavepoint name)⟩).managers[i]? =
        some (Books.setSavepoint ⟨b.ledger, m⟩ name).state.manager ∧
      (after ⟨b, .act i (.setSavepoint name)⟩).ledger =
        (Books.setSavepoint ⟨b.ledger, m⟩ name).state.ledger := by
  rw [after, reaction_act hm, act_setSavepoint_ok hs]
  exact ⟨List.getElem?_set_self (List.getElem?_eq_some_iff.1 hm).1, rfl⟩

theorem set?_setSavepoint (h : b.Sound) (hm : b.managers[i]? = some m) {name : Option String}
    (hs : (Books.setSavepoint ⟨b.ledger, m⟩ name).answer = .ok s) :
    set? ⟨b, .act i (.setSavepoint name)⟩ i = some ((Books.current ⟨b.ledger, m⟩).1, s) := by
  have hslot := (Books.marks_setSavepoint (h.books i m hm) hs).2.1
  have ha : (reaction ⟨b, .act i (.setSavepoint name)⟩).answer = .ok (.savepoint s) := by
    rw [reaction_act hm, act_setSavepoint_ok hs]
  simp only [set?, ha, if_true, slot_of_manager (after_setSavepoint hm hs).1, hslot,
    Option.map_some]

/-- An action of the manager itself. -/
theorem follows_own (h : b.Sound) (ho : b.Orderly) (hm : b.managers[i]? = some m) (a : Action) :
    Follows ⟨b, .act i a⟩ i := by
  have hb := h.books i m hm
  have hk := reaction_act hm a
  have hfinish (ending : Ending) (ha : b.act i ⟨b.ledger, m⟩ a =
      b.finished i (Books.finish ⟨b.ledger, m⟩ ending))
      (he : (reaction ⟨b, .act i a⟩).answer = .ok .done →
        ∀ s earlier, Ends ⟨b, .act i a⟩ i s earlier)
      (hd : a ≠ .discard) (hs : set? ⟨b, .act i a⟩ i = none) : Follows ⟨b, .act i a⟩ i := by
    have hafter : (after ⟨b, .act i a⟩).marks i =
        (Books.finish ⟨b.ledger, m⟩ ending).state.marks := by
      rw [after, hk, ha]
      exact marks_putBooks hm _
    rcases Books.marks_finish hb ending with ⟨hok, hnil⟩ | ⟨⟨e, herr⟩, hsame⟩
    · refine follows_of_nil (hafter.trans hnil) (he ?_) hs
      rw [hk, ha]
      exact answer_finished.2 hok
    · refine follows_of_same (hafter.trans (hsame.trans (marks_of_manager hm).symm))
        (fun p _ => not_ends_of_error (fun hok => ?_) fun e => hd (Command.act.inj e).2) hs
      rw [hk, ha] at hok
      rw [answer_finished.1 hok] at herr
      cases herr
  cases a with
  | setAutocommit enable =>
    have hafter : (after ⟨b, .act i (.setAutocommit enable)⟩).marks i =
        (Books.setAutocommit ⟨b.ledger, m⟩ enable).state.marks := by
      rw [after, hk]
      exact marks_putBooks hm _
    by_cases hn : enable = true ∧ m.autocommit = false
    · obtain ⟨rfl, ha⟩ := hn
      obtain ⟨hok, hnil⟩ := Books.setAutocommit_on (ho i m hm) ha
      refine follows_of_nil (hafter.trans hnil) (fun s earlier => .autocommit rfl ?_ ?_) rfl
      · show b.manual i = true
        rw [manual_of_manager hm, ha]
        rfl
      · rw [hk]
        exact answer_finished.2 hok
    · refine follows_of_same ?_ (fun p _ he => hn ?_) rfl
      · exact hafter.trans ((Books.marks_setAutocommit (ho i m hm) hn).trans
          (marks_of_manager hm).symm)
      · cases he with
        | autocommit command manual _ =>
          cases command
          replace manual : b.manual i = true := manual
          rw [manual_of_manager hm] at manual
          exact ⟨rfl, by simpa using manual⟩
        | commit command => cases command
        | rollback command => cases command
        | discard command => cases command
        | release command => cases command
        | @behind how _ _ command => cases how <;> cases command
  | commit =>
    exact hfinish .committed rfl (fun hok s earlier => .commit rfl hok) (fun hd => by cases hd) rfl
  | rollback =>
    exact hfinish .rolledBack rfl (fun hok s earlier => .rollback rfl hok)
      (fun hd => by cases hd) rfl
  | discard =>
    refine follows_of_nil ?_ (fun s earlier => .discard rfl) rfl
    rw [after, hk]
    exact (marks_putBooks hm _).trans (Books.marks_discard _)
  | rollbackTo n => exact follows_returnTo h ho hm .rollback n
  | release n => exact follows_returnTo h ho hm .release n
  | setSavepoint name =>
    cases hs : (Books.setSavepoint ⟨b.ledger, m⟩ name).answer with
    | error e =>
      refine follows_of_same ?_ (fun p _ => not_ends_of_action rfl _ _) ?_
      · rw [after, hk, act_setSavepoint_error hs, Books.setSavepoint_eq_error hs]
        exact (marks_putBooks hm _).trans (marks_of_manager hm).symm
      · simp only [set?, hk, act_setSavepoint_error hs]
    | ok s =>
      have hafter : (after ⟨b, .act i (.setSavepoint name)⟩).marks i =
          b.marks i ++ [((Books.current ⟨b.ledger, m⟩).1, s)] := by
        obtain ⟨hms, hl⟩ := after_setSavepoint hm hs
        rw [marks_of_manager hms, hl, marks_of_manager hm]
        exact (Books.marks_setSavepoint hb hs).1
      intro p
      rw [hafter, set?_setSavepoint h hm hs, List.mem_append, List.mem_singleton,
        Option.some.injEq, eq_comm (a := p)]
      exact or_congr_left ⟨fun hp => ⟨hp, not_ends_of_action rfl _ _⟩, And.left⟩
  | newQueryId =>
    refine follows_of_same ?_ (fun p _ => not_ends_of_action rfl _ _) rfl
    rw [after, hk]
    exact (marks_putBooks hm _).trans ((Books.marks_newQueryId hb).trans
      (marks_of_manager hm).symm)
  | hold =>
    refine follows_of_same ?_ (fun p _ => not_ends_of_action rfl _ _) rfl
    rw [after, hk]
    simp only [act]
    split
    · rfl
    · rfl

/-- **Every command leaves what it does not end**, and adds what it sets. -/
theorem follows (k : Moment) (h : k.before.Sound) (ho : k.before.Orderly) (i : Nat) :
    k.Follows i := by
  obtain ⟨b, c⟩ := k
  cases c with
  | act j a =>
    by_cases hji : j = i
    · subst hji
      cases hm : b.managers[j]? with
      | some m => exact follows_own h ho hm a
      | none =>
        have hk : reaction ⟨b, .act j a⟩ = .missing b .manager := by
          simp only [reaction, step, hm]
        refine follows_of_same ?_ (fun p hp => ?_) ?_
        · rw [after, hk]
          rfl
        · rw [marks_of_none hm] at hp
          cases hp
        · simp only [set?, hk, Reaction.missing]
    · exact follows_of_elsewhere h fun a' e => hji (Command.act.inj e).1
  | newManager compliant => exact follows_of_elsewhere h fun _ hc => by cases hc
  | newTransaction => exact follows_of_elsewhere h fun _ hc => by cases hc
  | newQueryIn n => exact follows_of_elsewhere h fun _ hc => by cases hc
  | inspect n => exact follows_of_elsewhere h fun _ hc => by cases hc

/-- What is answered to setting a savepoint is what the manager set. -/
theorem answer_setSavepoint_ok {name : Option String}
    (hs : (b.step (.act i (.setSavepoint name))).answer = .ok (.savepoint s)) :
    ∃ m, b.managers[i]? = some m ∧
      (Books.setSavepoint ⟨b.ledger, m⟩ name).answer = .ok s := by
  cases hm : b.managers[i]? with
  | none =>
    simp only [step, hm, Reaction.missing] at hs
    cases hs
  | some m =>
    have hk : b.step (.act i (.setSavepoint name)) = _ := reaction_act hm (.setSavepoint name)
    rw [hk] at hs
    refine ⟨m, rfl, ?_⟩
    cases ha : (Books.setSavepoint ⟨b.ledger, m⟩ name).answer with
    | error e =>
      rw [act_setSavepoint_error ha] at hs
      cases hs
    | ok s' =>
      rw [act_setSavepoint_ok ha] at hs
      cases hs
      rfl

/-- A savepoint that is set was asked of the manager. -/
theorem exists_of_set? {k : Moment} {p : TransactionId × Savepoint} (hs : k.set? i = some p) :
    ∃ m name, k.command = .act i (.setSavepoint name) ∧ k.before.managers[i]? = some m ∧
      (Books.setSavepoint ⟨k.before.ledger, m⟩ name).answer = .ok p.2 := by
  obtain ⟨b, c⟩ := k
  unfold set? at hs
  split at hs
  · rename_i j name s hc ha
    cases hc
    split at hs
    · rename_i hji
      subst hji
      obtain ⟨id, -, rfl⟩ := Option.map_eq_some_iff.1 hs
      obtain ⟨m, hm, hb⟩ := answer_setSavepoint_ok ha
      exact ⟨m, name, rfl, hm, hb⟩
    · cases hs
  · cases hs

/-- What was answered is what was set, and it is handed out. -/
theorem set?_of_answer (h : b.Sound) {name : Option String}
    (hs : (b.step (.act i (.setSavepoint name))).answer = .ok (.savepoint s)) :
    ∃ id, set? ⟨b, .act i (.setSavepoint name)⟩ i = some (id, s) ∧
      (b.step (.act i (.setSavepoint name))).state.savepoints = b.savepoints ++ [s] := by
  obtain ⟨m, hm, ha⟩ := answer_setSavepoint_ok hs
  have hk : b.step (.act i (.setSavepoint name)) = _ := reaction_act hm (.setSavepoint name)
  rw [hk, act_setSavepoint_ok ha]
  exact ⟨_, set?_setSavepoint h hm ha, rfl⟩

end Moment

/-! ## 2. What was set so far -/

/-- The savepoint that a command has a manager set, with the place of the manager. -/
def Moment.minted? (k : Moment) : Option (Nat × Savepoint) :=
  match k.command, k.reaction.answer with
  | .act j (.setSavepoint _), .ok (.savepoint s) => some (j, s)
  | _, _ => none

theorem savepoints_withSavepoint {f : Savepoint → Reaction Bench Reply}
    (hf : ∀ s, (f s).state.savepoints = b.savepoints) :
    (b.withSavepoint n f).state.savepoints = b.savepoints := by
  unfold withSavepoint
  split
  · rfl
  · exact hf _

/-- Only setting a savepoint hands one out. -/
theorem savepoints_act (hm : b.managers[i]? = some m) (a : Action) :
    (b.act i ⟨b.ledger, m⟩ a).state.savepoints =
      b.savepoints ++ (Moment.minted? ⟨b, .act i a⟩).toList.map Prod.snd := by
  cases a with
  | setSavepoint name =>
    have hk := Moment.reaction_act hm (.setSavepoint name)
    unfold Moment.minted?
    simp only [hk]
    cases hb : (Books.setSavepoint ⟨b.ledger, m⟩ name).answer with
    | error e =>
      rw [Moment.act_setSavepoint_error hb]
      exact (List.append_nil _).symm
    | ok s =>
      rw [Moment.act_setSavepoint_ok hb]
      rfl
  | rollbackTo n =>
    refine Eq.trans ?_ (List.append_nil _).symm
    exact savepoints_withSavepoint (f := fun s =>
      b.finished i (Books.rollbackTo ⟨b.ledger, m⟩ s)) fun _ => rfl
  | release n =>
    refine Eq.trans ?_ (List.append_nil _).symm
    exact savepoints_withSavepoint (f := fun s =>
      b.finished i (Books.release ⟨b.ledger, m⟩ s)) fun _ => rfl
  | hold =>
    refine Eq.trans ?_ (List.append_nil _).symm
    simp only [act]
    split
    · rfl
    · rfl
  | _ => exact (List.append_nil _).symm

theorem savepoints_step_eq (b : Bench) (c : Command) :
    (b.step c).state.savepoints =
      b.savepoints ++ (Moment.minted? ⟨b, c⟩).toList.map Prod.snd := by
  cases c with
  | act i a =>
    cases hm : b.managers[i]? with
    | none =>
      have hr : b.step (.act i a) = .missing b .manager := by simp only [step, hm]
      have hnone : Moment.minted? ⟨b, .act i a⟩ = none := by
        unfold Moment.minted? Moment.reaction
        rw [hr]
        cases a <;> rfl
      rw [hr, hnone]
      exact (List.append_nil _).symm
    | some m =>
      have hk : b.step (.act i a) = b.act i ⟨b.ledger, m⟩ a := Moment.reaction_act hm a
      rw [hk]
      exact savepoints_act hm a
  | newQueryIn n =>
    refine Eq.trans ?_ (List.append_nil _).symm
    simp only [step]
    split
    · rfl
    · rfl
  | inspect n =>
    refine Eq.trans ?_ (List.append_nil _).symm
    simp only [step]
    split
    · rfl
    · rfl
  | newManager compliant => exact (List.append_nil _).symm
  | newTransaction => exact (List.append_nil _).symm

/-- No command takes a handle back. -/
theorem savepoints_step (b : Bench) (c : Command) :
    b.savepoints <+: (b.step c).state.savepoints := by
  rw [savepoints_step_eq]
  exact List.prefix_append _ _

theorem savepoints_final (b : Bench) (cs : List Command) :
    b.savepoints <+: (b.final cs).savepoints := by
  induction cs generalizing b with
  | nil => exact List.prefix_refl _
  | cons c cs ih => exact (savepoints_step b c).trans (ih _)

/-- A handle keeps its number. -/
theorem getElem?_savepoints_final {n : Nat} (hn : b.savepoints[n]? = some s) (cs : List Command) :
    (b.final cs).savepoints[n]? = some s := by
  obtain ⟨hlt, -⟩ := List.getElem?_eq_some_iff.1 hn
  obtain ⟨later, hlater⟩ := savepoints_final b cs
  rw [← hlater, List.getElem?_append_left hlt, hn]

/-- A manager keeps its place and its number. -/
theorem owner_step (h : b.Sound) (hm : b.managers[i]? = some m) (c : Command) :
    ∃ m', (b.step c).state.managers[i]? = some m' ∧ m'.owner = m.owner := by
  have hlt := (List.getElem?_eq_some_iff.1 hm).1
  cases change_step h c with
  | nothing _ hms => exact ⟨m, hms ▸ hm, rfl⟩
  | manager _ hms => exact ⟨m, by rw [hms, List.getElem?_append_left hlt, hm], rfl⟩
  | transaction _ hms => exact ⟨m, hms ▸ hm, rfl⟩
  | @books j n _ books _ hn hcourse _ hms =>
    by_cases hji : j = i
    · subst hji
      cases Option.some.inj (hn.symm.trans hm)
      exact ⟨books.manager, by rw [hms, List.getElem?_set_self hlt], hcourse.within.owner⟩
    · exact ⟨m, by rw [hms, List.getElem?_set_ne hji, hm], rfl⟩
  | query _ _ hms => exact ⟨m, hms ▸ hm, rfl⟩

/-- **What is known of the savepoints that the manager at place `i` set so far.** -/
structure Recorded (b : Bench) (i : Nat) (past : List (TransactionId × Savepoint)) : Prop where
  /-- Nothing is on the stack that was not set. -/
  marks : ∀ p ∈ b.marks i, p ∈ past
  /-- What was set later has a higher number. -/
  order : past.Pairwise fun p q => p.2.id < q.2.id
  minted : ∀ p ∈ past, p.2 ∈ b.savepoints ∧
    ∃ m, b.managers[i]? = some m ∧ p.2.owner = m.owner

theorem recorded_empty (i : Nat) : empty.Recorded i [] :=
  ⟨fun _ hp => hp, .nil, fun _ hp => absurd hp List.not_mem_nil⟩

/-- A savepoint that is set has a number above those of all that were set before. -/
theorem Recorded.id_lt {past : List (TransactionId × Savepoint)} (hr : b.Recorded i past)
    (h : b.Sound) {c : Command} {p q : TransactionId × Savepoint}
    (hs : Moment.set? ⟨b, c⟩ i = some q) (hp : p ∈ past) : p.2.id < q.2.id := by
  obtain ⟨m, name, rfl, hm, ha⟩ := Moment.exists_of_set? hs
  obtain ⟨hmint, m', hm', ho⟩ := hr.minted p hp
  cases Option.some.inj (hm.symm.trans hm')
  rw [(Books.marks_setSavepoint (h.books i m hm) ha).2.2.2]
  exact (h.books i m hm).next p.2 hmint ho

/-- **One command adds to the record what it sets.** -/
theorem recorded_step {past : List (TransactionId × Savepoint)} (hr : b.Recorded i past)
    (h : b.Sound) (ho : b.Orderly) (c : Command) :
    (b.step c).state.Recorded i (past ++ (Moment.set? ⟨b, c⟩ i).toList) where
  marks p hp := by
    rcases (Moment.follows ⟨b, c⟩ h ho i p).1 hp with ⟨hp, -⟩ | hs
    · exact List.mem_append_left _ (hr.marks p hp)
    · rw [hs]
      exact List.mem_append_right _ (List.mem_singleton_self p)
  order := by
    refine List.pairwise_append.2 ⟨hr.order, ?_, fun p hp q hq => ?_⟩
    · cases Moment.set? ⟨b, c⟩ i with
      | none => exact .nil
      | some q => exact List.pairwise_singleton _ q
    · exact hr.id_lt h (Option.mem_toList.1 hq) hp
  minted p hp := by
    rcases List.mem_append.1 hp with hp | hp
    · obtain ⟨hmint, m, hm, hown⟩ := hr.minted p hp
      obtain ⟨m', hm', hown'⟩ := owner_step h hm c
      exact ⟨(savepoints_step b c).subset hmint, m', hm', hown.trans hown'.symm⟩
    · obtain ⟨m, name, rfl, hm, ha⟩ := Moment.exists_of_set? (Option.mem_toList.1 hp)
      obtain ⟨m', hm', hown⟩ := owner_step h hm (.act i (.setSavepoint name))
      refine ⟨?_, m', hm', ?_⟩
      · show p.2 ∈ (Moment.reaction ⟨b, .act i (.setSavepoint name)⟩).state.savepoints
        rw [Moment.reaction_act hm, Moment.act_setSavepoint_ok ha]
        exact List.mem_append_right _ (List.mem_singleton_self _)
      · rw [(Books.marks_setSavepoint (h.books i m hm) ha).2.2.1, hown]

theorem filterMap_set?_moments (b : Bench) (c : Command) (cs : List Command) (i : Nat) :
    (b.moments (c :: cs)).filterMap (·.set? i) = (Moment.set? ⟨b, c⟩ i).toList ++
      ((b.step c).state.moments cs).filterMap (·.set? i) := by
  rw [moments, List.filterMap_cons]
  cases Moment.set? ⟨b, c⟩ i with
  | none => rfl
  | some p => rfl

theorem recorded_final {past : List (TransactionId × Savepoint)} (hr : b.Recorded i past)
    (hb : Reached b) (cs : List Command) :
    (b.final cs).Recorded i (past ++ (b.moments cs).filterMap (·.set? i)) := by
  induction cs generalizing b past with
  | nil =>
    rw [moments, List.filterMap_nil, List.append_nil]
    exact hr
  | cons c cs ih =>
    rw [filterMap_set?_moments, ← List.append_assoc]
    exact ih (recorded_step hr (sound_of_reached hb) (orderly_of_reached hb) c) (hb.step c)

/-! ## 3. Runs -/

/-- **What was set before, the past knows as well as the numbers do**: of what the manager goes back
to while `p` is on the stack, those with lower numbers were set before `p` in its transaction. -/
theorem ends_iff {past since : List (TransactionId × Savepoint)} {p : TransactionId × Savepoint}
    (h : b.Sound) (ho : b.Orderly) (hr : b.Recorded i (past ++ p :: since)) (hp : p ∈ b.marks i)
    (c : Command) : Moment.Ends ⟨b, c⟩ i p.2 (·.id < p.2.id) ↔
      Moment.Ends ⟨b, c⟩ i p.2 fun u => (p.1, u) ∈ past := by
  obtain ⟨-, hsince, hbefore⟩ := List.pairwise_append.1 hr.order
  constructor
  · refine fun he => he.imp fun how n u hc hu hok hlt => ?_
    replace hc : c = .act i (.returnTo how n) := hc
    subst hc
    cases hm : b.managers[i]? with
    | none =>
      rw [marks_of_none hm] at hp
      cases hp
    | some m =>
      rw [Moment.reaction_act hm, act_returnTo, withSavepoint, hu] at hok
      have ha := answer_finished.1 hok
      -- what a manager goes back to is on the stack of the slot's transaction, and so is `p`
      obtain ⟨⟨id, hid⟩, -⟩ := Books.mem_marks_returnTo (ho i m hm) (h.books i m hm)
        (List.mem_of_getElem? hu) ha
      have hslot := (Books.mem_marks_iff.1 hid).1
      rw [marks_of_manager hm] at hp
      cases Option.some.inj (hslot.symm.trans (Books.mem_marks_iff.1 hp).1)
      have hmem : (p.1, u) ∈ past ++ p :: since := hr.marks _ (marks_of_manager hm ▸ hid)
      rcases List.mem_append.1 hmem with hmem | hmem
      · exact hmem
      -- if it had not been set before `p`, its number would not be lower
      rcases List.mem_cons.1 hmem with heq | hmem
      · rw [← heq] at hlt
        exact absurd hlt (Nat.lt_irrefl _)
      · exact absurd hlt (Nat.lt_asymm ((List.pairwise_cons.1 hsince).1 _ hmem))
  · exact fun he => he.imp fun _ _ u _ _ _ hu => hbefore _ hu p List.mem_cons_self

/-- **A savepoint is on the stack as long as nothing ended it**, and it does not come back. -/
theorem mem_marks_final {past since : List (TransactionId × Savepoint)}
    {p : TransactionId × Savepoint} (hb : Reached b) (hr : b.Recorded i (past ++ p :: since))
    (cs : List Command) : p ∈ (b.final cs).marks i ↔
      p ∈ b.marks i ∧ ∀ k ∈ b.moments cs, ¬ k.Ends i p.2 fun u => (p.1, u) ∈ past := by
  have h := sound_of_reached hb
  have ho := orderly_of_reached hb
  induction cs generalizing b since with
  | nil => exact ⟨fun hp => ⟨hp, fun _ hk => absurd hk List.not_mem_nil⟩, And.left⟩
  | cons c cs ih =>
    have hstep := recorded_step hr h ho c
    rw [List.append_assoc, List.cons_append] at hstep
    -- numbers are not given twice, so `p` cannot come back by being set
    have hset : Moment.set? ⟨b, c⟩ i ≠ some p := fun hs =>
      absurd (hr.id_lt h hs (List.mem_append_right _ List.mem_cons_self)) (Nat.lt_irrefl _)
    have hfollows := Moment.follows ⟨b, c⟩ h ho i p
    rw [or_iff_left hset] at hfollows
    have hrest := ih (hb.step c) hstep (sound_step h c) (orderly_step h ho c)
    refine hrest.trans ((and_congr_left' hfollows).trans ?_)
    rw [moments, List.forall_mem_cons, and_assoc]
    exact and_congr_right fun hp => and_congr_left' (not_congr (ends_iff h ho hr hp c))

/-- An attempt to go back to the savepoint with a number. -/
def attempt (b : Bench) (i : Nat) (how : Transaction.Return) (n : Nat) : Reaction Bench Reply :=
  b.step (.act i (.returnTo how n))

/-- An attempt of a manager that is there. -/
theorem attempt_eq {n : Nat} {how : Transaction.Return} (hm : b.managers[i]? = some m)
    (hn : b.savepoints[n]? = some s) :
    b.attempt i how n = b.finished i (Books.returnTo ⟨b.ledger, m⟩ how s) := by
  simp only [attempt, step, hm, act_returnTo, withSavepoint, hn]

/-- Why the manager at a place does not go back to a savepoint of its own. -/
def refusal (b : Bench) (i : Nat) (how : Transaction.Return) (s : Savepoint) : SessionError :=
  if b.manual i then if (b.slot i).isNone then .noTransaction else .unknownSavepoint s
  else .inAutocommit (Books.returnAttempt how)

/-- **An attempt succeeds exactly while the savepoint is on the stack.** -/
theorem answer_attempt (h : b.Sound) (ho : b.Orderly) {n : Nat} (hn : b.savepoints[n]? = some s)
    (hm : b.managers[i]? = some m) (hown : s.owner = m.owner) (how : Transaction.Return) :
    (∃ id, (id, s) ∈ b.marks i) ∧ (b.attempt i how n).answer = .ok .done ∨
      (∀ id, (id, s) ∉ b.marks i) ∧
        (b.attempt i how n).answer = .error (.session (b.refusal i how s)) := by
  rw [attempt_eq hm hn, marks_of_manager hm]
  rcases Books.answer_returnTo (ho i m hm) (h.books i m hm) how (List.mem_of_getElem? hn) hown with
    ⟨hmem, hok⟩ | ⟨hmem, herr⟩
  · exact .inl ⟨hmem, answer_finished.2 hok⟩
  · refine .inr ⟨hmem, ?_⟩
    simp only [finished, herr, Books.refusal, refusal, manual_of_manager hm, slot_of_manager hm]
    cases m.autocommit with
    | true => rfl
    | false => rfl

/-- The numbers tell apart what was set. -/
theorem Recorded.eq_of_id {past : List (TransactionId × Savepoint)} (hr : b.Recorded i past)
    {p q : TransactionId × Savepoint} (hp : p ∈ past) (hq : q ∈ past) (hid : p.2.id = q.2.id) :
    p = q := by
  obtain ⟨j, hj, rfl⟩ := List.getElem_of_mem hp
  obtain ⟨k, hk, rfl⟩ := List.getElem_of_mem hq
  have horder := List.pairwise_iff_getElem.1 hr.order
  rcases Nat.lt_trichotomy j k with hjk | rfl | hkj
  · exact absurd hid (Nat.ne_of_lt (horder j k hj hk hjk))
  · rfl
  · exact absurd hid.symm (Nat.ne_of_lt (horder k j hk hj hkj))

/-- **An attempt succeeds exactly while the savepoint is on the stack** under its own transaction,
and is refused for one of three reasons. -/
theorem answer_recorded {past : List (TransactionId × Savepoint)}
    {p : TransactionId × Savepoint} {n : Nat} (hb : Reached b) (hr : b.Recorded i past)
    (hp : p ∈ past) (hn : b.savepoints[n]? = some p.2) (how : Transaction.Return) :
    p ∈ b.marks i ∧ (b.attempt i how n).answer = .ok .done ∨
      p ∉ b.marks i ∧ (b.attempt i how n).answer = .error (.session (b.refusal i how p.2)) := by
  obtain ⟨-, m, hm, hown⟩ := hr.minted p hp
  rcases answer_attempt (sound_of_reached hb) (orderly_of_reached hb) hn hm hown how with
    ⟨⟨id, hid⟩, hok⟩ | ⟨hnone, herr⟩
  · rw [hr.eq_of_id (hr.marks _ hid) hp rfl] at hid
    exact .inl ⟨hid, hok⟩
  · exact .inr ⟨hnone p.1, herr⟩

theorem answer_recorded_ok {past : List (TransactionId × Savepoint)}
    {p : TransactionId × Savepoint} {n : Nat} (hb : Reached b) (hr : b.Recorded i past)
    (hp : p ∈ past) (hn : b.savepoints[n]? = some p.2) (how : Transaction.Return) :
    (b.attempt i how n).answer = .ok .done ↔ p ∈ b.marks i := by
  rcases answer_recorded hb hr hp hn how with ⟨hmem, hok⟩ | ⟨hmem, herr⟩
  · exact iff_of_true hok hmem
  · exact iff_of_false (fun hok => by cases herr.symm.trans hok) hmem

/-- Only in manual commit are there savepoints. -/
theorem manual_of_mem_marks (ho : b.Orderly) {p : TransactionId × Savepoint}
    (hp : p ∈ b.marks i) : b.manual i = true := by
  cases hm : b.managers[i]? with
  | none =>
    rw [marks_of_none hm] at hp
    cases hp
  | some m =>
    rw [marks_of_manager hm] at hp
    rw [manual_of_manager hm, Bool.not_eq_true', Bool.eq_false_iff]
    intro ha
    rw [Books.marks_of_slot_none ((ho i m hm).idle ha)] at hp
    cases hp

theorem kind_refusal (b : Bench) (i : Nat) (how : Transaction.Return) (s : Savepoint) :
    (b.refusal i how s).kind =
      if b.manual i = true ∧ b.slot i = none then .invalidTransactionState else .client := by
  unfold refusal
  cases b.manual i with
  | false => simp [SessionError.kind]
  | true => cases b.slot i <;> simp [SessionError.kind]

/-- **How the savepoint `s` stands** after the commands `cs`, which came after it was set. The bench
    numbers it `n`; `earlier` are the savepoints that were set before it in its transaction. -/
structure Standing (b : Bench) (i n : Nat) (s : Savepoint) (earlier : Savepoint → Prop)
    (cs : List Command) : Prop where
  /-- Going back to it succeeds as long as nothing ended it. -/
  ok_iff : ∀ how, ((b.final cs).attempt i how n).answer = .ok .done ↔
    (b.final cs).manual i = true ∧ ∀ k ∈ b.moments cs, ¬ k.Ends i s earlier
  /-- Otherwise it is refused. -/
  refused : ∀ how, ((b.final cs).attempt i how n).answer ≠ .ok .done →
    ((b.final cs).attempt i how n).answer = .error (.session ((b.final cs).refusal i how s))
  kind : ∀ how, ((b.final cs).refusal i how s).kind =
    if (b.final cs).manual i = true ∧ (b.final cs).slot i = none then .invalidTransactionState
    else .client
  unknown : (b.final cs).manual i = true → (b.final cs).slot i ≠ none → ∀ how,
    ((b.final cs).refusal i how s).detail = "Unknown savepoint: " ++ s.display
  /-- What was refused is refused from then on. -/
  lost : ∀ how, ((b.final cs).attempt i how n).answer ≠ .ok .done →
    ∀ how' cs', (((b.final cs).final cs').attempt i how' n).answer ≠ .ok .done

/-- A savepoint on the stack, with what was set before it. -/
theorem standing_of_recorded {past : List (TransactionId × Savepoint)}
    {p : TransactionId × Savepoint} {n : Nat} (hb : Reached b)
    (hr : b.Recorded i (past ++ [p])) (hp : p ∈ b.marks i) (hn : b.savepoints[n]? = some p.2)
    (cs : List Command) : b.Standing i n p.2 (fun u => (p.1, u) ∈ past) cs := by
  have hb' := reached_final hb cs
  have hr' := recorded_final hr hb cs
  rw [List.append_assoc, List.singleton_append] at hr'
  have hmem := List.mem_append_right past (List.mem_cons_self (a := p)
    (l := (b.moments cs).filterMap (·.set? i)))
  have hn' := getElem?_savepoints_final hn cs
  have hstays := mem_marks_final hb hr cs
  rw [and_iff_right hp] at hstays
  refine ⟨fun how => ?_, fun how hno => ?_, fun how => kind_refusal _ i how p.2,
    fun hman hslot how => ?_, fun how hno how' cs' => ?_⟩
  · rw [answer_recorded_ok hb' hr' hmem hn' how, ← hstays]
    refine ⟨fun hmem => ⟨?_, hmem⟩, And.right⟩
    exact manual_of_mem_marks (orderly_of_reached hb') hmem
  · rcases answer_recorded hb' hr' hmem hn' how with ⟨-, hok⟩ | ⟨-, herr⟩
    · exact absurd hok hno
    · exact herr
  · rw [refusal, if_pos hman, if_neg (by simpa using hslot)]
    rfl
  · rw [Ne, answer_recorded_ok hb' hr' hmem hn' how] at hno
    have hr'' := recorded_final hr' hb' cs'
    rw [Ne, answer_recorded_ok (reached_final hb' cs') hr'' (List.mem_append_left _ hmem)
      (getElem?_savepoints_final hn' cs') how', mem_marks_final hb' hr' cs']
    exact fun hyes => hno hyes.1

/-- **A savepoint that a manager set is good exactly as long as the past says**: going back to it
succeeds if and only if the manager is in manual commit and none of the commands since then ended
it, and what is refused once is refused for good. -/
theorem standing_of_set (cs : List Command) {i : Nat} {name : Option String} {s : Savepoint}
    (hs : ((empty.final cs).step (.act i (.setSavepoint name))).answer = .ok (.savepoint s)) :
    ∃ id, ((empty.final cs).step (.act i (.setSavepoint name))).state.slot i = some id ∧
      ∀ cs', Standing ((empty.final cs).step (.act i (.setSavepoint name))).state i
        (empty.final cs).savepoints.length s
        (fun u => (id, u) ∈ (empty.moments cs).filterMap (·.set? i)) cs' := by
  have hb := reached_final .empty cs
  have hsound := sound_of_reached hb
  have hb' := hb.step (.act i (.setSavepoint name))
  obtain ⟨id, hset, hsaved⟩ := Moment.set?_of_answer hsound hs
  have hr := recorded_step (recorded_final (recorded_empty i) .empty cs) hsound
    (orderly_of_reached hb) (.act i (.setSavepoint name))
  rw [List.nil_append, hset, Option.toList_some] at hr
  have hmem := (Moment.follows ⟨_, .act i (.setSavepoint name)⟩ hsound (orderly_of_reached hb) i
    (id, s)).2 (.inr hset)
  refine ⟨id, (mem_marks_iff.1 hmem).1, standing_of_recorded hb' hr hmem ?_⟩
  rw [hsaved, List.getElem?_concat_length]

/-- Two savepoints in one transaction: the second one stands as long as nothing goes back to the
    first. -/
theorem standing_of_set_second :
    let cs := [.newManager true, .act 0 (.setAutocommit false),
      .act 0 (.setSavepoint (some "first"))]
    let b := ((empty.final cs).step (.act 0 (.setSavepoint none))).state
    ((empty.final cs).step (.act 0 (.setSavepoint none))).answer =
        .ok (.savepoint (Savepoint.mk 1 2 none 0)) ∧
      ∀ cs', Standing b 0 1 (Savepoint.mk 1 2 none 0)
        (· = Savepoint.mk 1 1 (some "first") 0) cs' := by
  intro cs b
  have hs : ((empty.final cs).step (.act 0 (.setSavepoint none))).answer =
      .ok (.savepoint (Savepoint.mk 1 2 none 0)) := by rfl
  refine ⟨hs, fun cs' => ?_⟩
  obtain ⟨id, hid, hstanding⟩ := standing_of_set cs hs
  cases (Option.some.inj hid : (⟨0⟩ : TransactionId) = id)
  have hearlier : (fun u => ((⟨0⟩ : TransactionId), u) ∈ (empty.moments cs).filterMap (·.set? 0)) =
      (· = Savepoint.mk 1 1 (some "first") 0) := by
    funext u
    rw [show (empty.moments cs).filterMap (·.set? 0) =
      [((⟨0⟩ : TransactionId), Savepoint.mk 1 1 (some "first") 0)] from rfl, List.mem_singleton,
      Prod.mk.injEq, eq_self, true_and]
  exact hearlier ▸ hstanding cs'

end Bench

end StatelessSession
