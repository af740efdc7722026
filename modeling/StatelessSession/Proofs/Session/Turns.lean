import StatelessSession.Proofs.Session.Run

/-!
# Aborts that come to run one by one

The command `join` runs all aborts that are scheduled, the earliest first. A scheduler need not:
each may come to run at any later time, and the others wait. Here a run is made of turns, each a
command or one scheduled abort, so what holds of all turns holds whatever the scheduler does.

* `Turn` -- a command, or one scheduled abort that comes to run; `turn`, `play`, `reported`.
* **`join_eq_play`** -- aborts that are joined run one after the other.
* `play_induction`, `moved_turn` -- what every turn keeps, and what it does to a session.

NOT here: what an abort does to a session that is open (`Shutdown`), or closed (`Closed`).
-/

namespace StatelessSession.Workspace

/-! ## 1. Runs of turns -/

/-- **What can happen next**: a command, or one of the scheduled aborts comes to run. -/
inductive Turn where
  | command (c : Command)
  | task (place : Nat)

/-- Runs the scheduled abort at a place, if there is one; the others wait. -/
def runTask (w : Workspace) (place : Nat) : Reaction Workspace Reply :=
  let due := w.aborts[place]?.toList
  let (w', events) := w.runAborts due
  ⟨.ok (.number due.length), { w' with aborts := w.aborts.eraseIdx place }, events⟩

/-- Takes a turn. -/
def turn (w : Workspace) : Turn → Reaction Workspace Reply
  | .command c => w.step c
  | .task place => w.runTask place

/-- The workspace after some turns. -/
def play (w : Workspace) : List Turn → Workspace
  | [] => w
  | x :: xs => (w.turn x).state.play xs

/-- All that is reported in some turns. -/
def reported (w : Workspace) : List Turn → List Event
  | [] => []
  | x :: xs => (w.turn x).events ++ (w.turn x).state.reported xs

/-- What every turn keeps, a run of turns keeps. -/
theorem play_induction {P : Workspace → Prop} (turn : ∀ w x, P w → P (w.turn x).state)
    {w : Workspace} (h : P w) (xs : List Turn) : P (w.play xs) := by
  induction xs generalizing w with
  | nil => exact h
  | cons x xs ih => exact ih (turn w x h)

theorem play_append (w : Workspace) (xs ys : List Turn) :
    w.play (xs ++ ys) = (w.play xs).play ys := by
  induction xs generalizing w with
  | nil => rfl
  | cons x xs ih => exact ih _

theorem reported_append (w : Workspace) (xs ys : List Turn) :
    w.reported (xs ++ ys) = w.reported xs ++ (w.play xs).reported ys := by
  induction xs generalizing w with
  | nil => rfl
  | cons x xs ih =>
    rw [List.cons_append, reported, ih, ← List.append_assoc]
    rfl

/-! ## 2. Aborts that are joined -/

/-- Aborts look at no aborts that are scheduled. -/
theorem runAborts_withAborts (w : Workspace) (later is : List Nat) :
    runAborts { w with aborts := later } is =
      ({ (w.runAborts is).1 with aborts := later }, (w.runAborts is).2) := by
  induction is generalizing w with
  | nil => rfl
  | cons j is ih =>
    have hsame : session? { w with aborts := later } j = w.session? j := rfl
    unfold runAborts
    rw [hsame]
    cases hj : w.session? j with
    | none => exact ih w
    | some s =>
      have hrest := ih (w.putBooks j (SessionBooks.abort ⟨w.ledger, s⟩).state)
      exact congrArg
        (fun r => (r.1, (SessionBooks.abort ⟨w.ledger, s⟩).events ++ r.2)) hrest

theorem runAborts_cons (w : Workspace) (j : Nat) (is : List Nat) :
    w.runAborts (j :: is) = (((w.runAborts [j]).1.runAborts is).1,
      (w.runAborts [j]).2 ++ ((w.runAborts [j]).1.runAborts is).2) := by
  simp only [runAborts]
  cases w.session? j with
  | none => rfl
  | some s => simp only [List.append_nil]

/-- **Aborts that are joined run one after the other**, the earliest first. -/
theorem join_eq_play (w : Workspace) :
    (w.step .join).state = w.play (List.replicate w.aborts.length (.task 0)) ∧
      (w.step .join).events = w.reported (List.replicate w.aborts.length (.task 0)) := by
  simp only [step]
  generalize his : w.aborts = is
  induction is generalizing w with
  | nil =>
    have hw : { w with aborts := [] } = w := by rw [← his]
    exact ⟨hw, rfl⟩
  | cons j is ih =>
    have hfirst : w.turn (.task 0) =
        ⟨.ok (.number 1), { (w.runAborts [j]).1 with aborts := is }, (w.runAborts [j]).2⟩ := by
      simp only [turn, runTask, his]
      rfl
    have hrest := ih { (w.runAborts [j]).1 with aborts := is } rfl
    rw [runAborts_withAborts] at hrest
    rw [List.length_cons, List.replicate_succ, play, reported, hfirst, ← hrest.1, ← hrest.2,
      runAborts_cons]
    exact ⟨rfl, rfl⟩

/-! ## 3. Sessions -/

/-- A command that does to sessions what the turn does. -/
def Turn.asCommand : Turn → Command
  | .command c => c
  | .task _ => .join

theorem moved_turn (w : Workspace) (x : Turn) (i : Nat) :
    Moved w x.asCommand i ((w.turn x).state.session? i) := by
  cases x with
  | command c => exact moved_step w c i
  | task place => exact moved_runAborts w w.aborts[place]?.toList i

end StatelessSession.Workspace
