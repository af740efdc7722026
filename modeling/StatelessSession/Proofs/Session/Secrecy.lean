import Mathlib.Data.List.Forall2
import StatelessSession.Proofs.Session.Redaction

/-!
# The password is kept

Two runs of the same commands, in which some sessions are opened with another password, cannot be
told apart by a caller or by a reader of the log: only what is sent differs, and only in the
password. With the passwords blanked both are one run, because blanking commutes with every command.

* `Request.SameButPassword`, `Command.SameButPassword` -- what may differ.
* `Workspace.reactions`, `reactions_redacted` -- all that a run reports and answers.
* `Concealed` -- two reactions that give nothing away.
* **`reactions_secret`** -- two runs that differ in passwords.

NOT here: a transport whose answers depend on the password.
-/

namespace StatelessSession

/-! ## 1. What may differ -/

/-- The request with another password. -/
def Request.withPassword (r : Request) (password : Option String) : Request :=
  { r with settings := { r.settings with password } }

/-- **Two requests that differ at most in the password**, which both have or both lack. -/
def Request.SameButPassword (r r' : Request) : Prop :=
  r' = r.withPassword r'.settings.password ∧
    r'.settings.password.isSome = r.settings.password.isSome

/-- Requests that are one with their passwords blanked differ in nothing else. -/
theorem Request.sameButPassword_of_redacted {r r' : Request} (h : r.redacted = r'.redacted) :
    r.SameButPassword r' := by
  constructor
  · calc r'
      _ = r'.redacted.withPassword r'.settings.password := rfl
      _ = r.redacted.withPassword r'.settings.password := by rw [h]
      _ = r.withPassword r'.settings.password := rfl
  · have hblanked : blanked r.settings.password = blanked r'.settings.password :=
      congrArg (fun r => r.settings.password) h
    simpa [blanked] using congrArg Option.isSome hblanked.symm

/-- What transports were asked differs in passwords if it is the same with them blanked. -/
theorem Transport.sent_of_redacted {t t' : Transport} (h : t.redacted = t'.redacted) :
    List.Forall₂ Request.SameButPassword t.sent t'.sent := by
  have hsent : t.sent.map Request.redacted = t'.sent.map Request.redacted :=
    congrArg Transport.sent h
  rw [← List.forall₂_eq_eq_eq, List.forall₂_map_left_iff, List.forall₂_map_right_iff] at hsent
  exact hsent.imp fun _ _ => Request.sameButPassword_of_redacted

theorem Options.shown_redacted (o : Options) : o.redacted.shown = o.shown := by
  rcases o with ⟨node, database, user, password⟩
  cases password with
  | none => rfl
  | some p => rfl

theorem Opening.shown_redacted (x : Opening) :
    x.redacted.answer.map Session.shown = x.answer.map Session.shown := by
  rcases x with ⟨answer, ledger, transport, cancelled, events⟩
  cases answer with
  | error e => rfl
  | ok s => rfl

theorem Statement.shown_redacted (s : Statement) : s.redacted.shown = s.shown := by
  cases s with
  | query p => rfl
  | insert p => rfl

namespace Workspace

/-- **Two commands that differ at most in the password** that a session is opened with. -/
inductive Command.SameButPassword : Command → Command → Prop where
  | same (c : Command) : SameButPassword c c
  | connect (o : Options) (password password' : String) (t : Transport)
      (signal : Option Signal) :
      SameButPassword (.connect { o with password := some password } t signal)
        (.connect { o with password := some password' } t signal)

theorem Command.redacted_eq {c c' : Command} (h : c.SameButPassword c') :
    c.redacted = c'.redacted := by
  cases h with
  | same => rfl
  | connect => rfl

/-- The options that a command brings along, as a message shows them. -/
def Command.shownOptions? : Command → Option String
  | .connect o _ _ => some o.shown
  | _ => none

theorem Command.shownOptions?_redacted (c : Command) :
    c.redacted.shownOptions? = c.shownOptions? := by
  cases c with
  | connect o t signal => exact congrArg some o.shown_redacted
  | _ => rfl

/-! ## 2. What a run reports and answers -/

/-- The reactions to the commands of a run, in order. -/
def reactions (w : Workspace) : List Command → List (Reaction Workspace Reply)
  | [] => []
  | c :: cs => w.step c :: (w.step c).state.reactions cs

theorem reactions_redacted (w : Workspace) (cs : List Command) :
    w.redacted.reactions (cs.map Command.redacted) =
      (w.reactions cs).map (Reaction.mapBoth redacted Reply.redacted) := by
  induction cs generalizing w with
  | nil => rfl
  | cons c cs ih =>
    simp only [List.map_cons, reactions, step_redacted]
    exact congrArg _ (ih (w.step c).state)

/-- A reply that holds no request. -/
def Reply.isPlain : Reply → Bool
  | .number _ | .rows _ => true
  | .answer (.statement _) => false
  | .answer _ => true
  | .prepared _ _ | .opening _ | .session _ | .statement _ => false

/-- A reply as a message shows it, if it is a session or a statement. -/
def Reply.shown? : Reply → Option String
  | .session s => some s.shown
  | .statement s | .prepared _ s | .answer (.statement s) => some s.shown
  | _ => none

theorem Reply.isPlain_redacted (r : Reply) : r.redacted.isPlain = r.isPlain := by
  cases r with
  | answer a => cases a <;> rfl
  | _ => rfl

theorem Reply.redacted_of_isPlain {r : Reply} (h : r.isPlain = true) : r.redacted = r := by
  cases r with
  | answer a =>
    cases a with
    | statement s => cases h
    | _ => rfl
  | number n => rfl
  | rows s => rfl
  | _ => cases h

/-- Blanking changes no plain reply, and makes none. -/
theorem Reply.eq_of_redacted {r r' : Reply} (h : r.isPlain = true)
    (hr : r.redacted = r'.redacted) : r' = r := by
  have h' : r'.isPlain = true := by rw [← isPlain_redacted, ← hr, isPlain_redacted, h]
  calc r'
    _ = r'.redacted := (redacted_of_isPlain h').symm
    _ = r.redacted := hr.symm
    _ = r := redacted_of_isPlain h

theorem Reply.shown?_redacted (r : Reply) : r.redacted.shown? = r.shown? := by
  cases r with
  | answer a =>
    cases a with
    | statement s => exact congrArg some s.shown_redacted
    | _ => rfl
  | prepared n s => exact congrArg some s.shown_redacted
  | statement s => exact congrArg some s.shown_redacted
  | _ => rfl

/-- **Two reactions that give no password away.** -/
structure Concealed (x x' : Reaction Workspace Reply) : Prop where
  /-- The same is reported. -/
  events : x.events = x'.events
  /-- Either both fail, for the same reason and in the same words. -/
  failure : ∀ f, x.answer = .error f ↔ x'.answer = .error f
  /-- Or both reply. A reply that holds no request is the same. -/
  plain : ∀ r : Reply, r.isPlain = true → (x.answer = .ok r ↔ x'.answer = .ok r)
  /-- Any other is the same but for the password in the requests it holds. -/
  reply : x.answer.map Reply.redacted = x'.answer.map Reply.redacted
  /-- Sessions and statements look the same. -/
  shown : x.answer.toOption.map Reply.shown? = x'.answer.toOption.map Reply.shown?
  /-- Opening leads to the same error or to sessions that look the same, and it sends the same but
      for the password. -/
  opening : ∀ o o', x.answer = .ok (.opening o) → x'.answer = .ok (.opening o') →
    o.answer.map Session.shown = o'.answer.map Session.shown ∧ o.cancelled = o'.cancelled ∧
      List.Forall₂ Request.SameButPassword o.transport.sent o'.transport.sent
  /-- So does every session, all in all. -/
  sent : ∀ i, Option.Rel (fun s s' : Session =>
    List.Forall₂ Request.SameButPassword s.transport.sent s'.transport.sent)
    (x.state.session? i) (x'.state.session? i)

/-- Two answers that are one with the passwords blanked. -/
theorem answers_of_redacted {a a' : Except Failure Reply}
    (h : a.map Reply.redacted = a'.map Reply.redacted) :
    (∃ f, a = .error f ∧ a' = .error f) ∨
      ∃ r r', a = .ok r ∧ a' = .ok r' ∧ r.redacted = r'.redacted := by
  cases a with
  | error f =>
    cases a' with
    | error f' => exact .inl ⟨f', congrArg _ (Except.error.inj h), rfl⟩
    | ok r' => cases h
  | ok r =>
    cases a' with
    | error f' => cases h
    | ok r' => exact .inr ⟨r, r', rfl, rfl, Except.ok.inj h⟩

/-- What sessions sent, in two workspaces that are one with the passwords blanked. -/
theorem sent_of_redacted {w w' : Workspace} (h : w.redacted = w'.redacted) (i : Nat) :
    Option.Rel (fun s s' : Session =>
      List.Forall₂ Request.SameButPassword s.transport.sent s'.transport.sent)
      (w.session? i) (w'.session? i) := by
  have hs : (w.session? i).map Session.redacted = (w'.session? i).map Session.redacted := by
    rw [← session?_redacted, h, session?_redacted]
  cases hw : w.session? i with
  | none =>
    rw [hw, Option.map_none] at hs
    rw [Option.map_eq_none_iff.1 hs.symm]
    exact .none
  | some s =>
    rw [hw, Option.map_some] at hs
    obtain ⟨s', hw', hs'⟩ := Option.map_eq_some_iff.1 hs.symm
    rw [hw']
    exact .some (Transport.sent_of_redacted (congrArg Session.transport hs'.symm))

/-- **Reactions that are one with the passwords blanked** give none away. -/
theorem concealed_of_redacted {x x' : Reaction Workspace Reply}
    (h : x.mapBoth redacted Reply.redacted = x'.mapBoth redacted Reply.redacted) :
    Concealed x x' := by
  obtain ⟨hreply, hstate, hevents⟩ := Reaction.mk.inj h
  have hsent := sent_of_redacted hstate
  rcases answers_of_redacted hreply with ⟨f, ha, ha'⟩ | ⟨r, r', ha, ha', hr⟩
  · refine ⟨hevents, fun _ => by rw [ha, ha'], fun _ _ => by rw [ha, ha'], hreply,
      by rw [ha, ha'], fun o o' ho _ => ?_, hsent⟩
    rw [ha] at ho
    cases ho
  · refine ⟨hevents, fun f => ?_, fun p hp => ?_, hreply, ?_, fun o o' ho ho' => ?_, hsent⟩
    · rw [ha, ha']
      exact iff_of_false nofun nofun
    · rw [ha, ha']
      constructor
      · intro e
        cases e
        rw [Reply.eq_of_redacted hp hr]
      · intro e
        cases e
        rw [Reply.eq_of_redacted hp hr.symm]
    · rw [ha, ha']
      exact congrArg some (by rw [← r.shown?_redacted, hr, r'.shown?_redacted])
    · cases ha.symm.trans ho
      cases ha'.symm.trans ho'
      have hx : o.redacted = o'.redacted := Reply.opening.inj hr
      obtain ⟨-, -, ht, hcancelled, -⟩ := Opening.mk.inj hx
      refine ⟨?_, hcancelled, Transport.sent_of_redacted ht⟩
      rw [← o.shown_redacted, hx, o'.shown_redacted]

/-! ## 3. Two runs -/

/-- **What two runs with different passwords have in common.** -/
structure Secret (cs cs' : List Command) : Prop where
  /-- Every command has the same effect, but for the passwords in what is sent. -/
  reactions : List.Forall₂ Concealed (empty.reactions cs) (empty.reactions cs')
  /-- The options look the same. -/
  options : List.Forall₂ (fun c c' => c.shownOptions? = c'.shownOptions?) cs cs'

/-- **Nothing gives a password away** but the requests that carry it. -/
theorem reactions_secret {cs cs' : List Command}
    (h : List.Forall₂ Command.SameButPassword cs cs') : Secret cs cs' where
  reactions := by
    -- with the passwords blanked both runs are the same
    have hcs : cs.map Command.redacted = cs'.map Command.redacted := by
      induction h with
      | nil => rfl
      | cons hc _ ih => rw [List.map_cons, List.map_cons, Command.redacted_eq hc, ih]
    have hrun : (empty.reactions cs).map (Reaction.mapBoth redacted Reply.redacted) =
        (empty.reactions cs').map (Reaction.mapBoth redacted Reply.redacted) := by
      rw [← reactions_redacted, hcs, reactions_redacted]
    rw [← List.forall₂_eq_eq_eq, List.forall₂_map_left_iff, List.forall₂_map_right_iff] at hrun
    exact hrun.imp fun _ _ => concealed_of_redacted
  options := h.imp fun c c' hc => by
    rw [← c.shownOptions?_redacted, Command.redacted_eq hc, c'.shownOptions?_redacted]

/-- A run that opens a session with a password, prepares a statement, executes it and looks at the
    session. -/
def loginRun (password : String) : List Command :=
  [.connect { Options.ofNode (Node.ofHost "h") with password := some password }
      (.ofResponses [.ok (Transport.serverInfo "default" "default" "UTC" "23.3")]) none,
    .onSession 0 (.act (.prepare "select 1")), .onStatement 0 (.execute []), .onSession 0 .inspect]

/-- The passwords that the first session has sent after each command of a run. -/
def sentPasswords (cs : List Command) : List (Option (List (Option String))) :=
  (empty.reactions cs).map fun x =>
    (x.state.session? 0).map fun s => s.transport.sent.map fun r => r.settings.password

/-- Two such runs: both send their password twice, and nothing else tells them apart. -/
theorem reactions_secret_login :
    List.Forall₂ Command.SameButPassword (loginRun "a") (loginRun "b") ∧
      Secret (loginRun "a") (loginRun "b") ∧
      sentPasswords (loginRun "a") =
        [some [some "a"], some [some "a"], some [some "a", some "a"], some [some "a", some "a"]] ∧
      sentPasswords (loginRun "b") =
        [some [some "b"], some [some "b"], some [some "b", some "b"],
          some [some "b", some "b"]] := by
  have h : List.Forall₂ Command.SameButPassword (loginRun "a") (loginRun "b") :=
    .cons (.connect _ "a" "b" _ _) (.cons (.same _) (.cons (.same _) (.cons (.same _) .nil)))
  exact ⟨h, reactions_secret h, by decide +kernel, by decide +kernel⟩

end Workspace

end StatelessSession
