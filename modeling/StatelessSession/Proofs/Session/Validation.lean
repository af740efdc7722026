import StatelessSession.Session.Basic

/-!
# Options that cannot be used

Options are looked at twice. The check before any traffic wants a host and, if the server's zone is
not used, a name for the client's. Whether the name is known is found out when the profile is made,
and by then the probe is under way. So options without a zone of the client never open a session,
but they do not always fail as bad options, and not always before anything was sent.

* `Options.Zoneless`, `validate_eq_ok_iff` -- no zone for the client, and what the check asks.
* `Negotiation.Found`, `unanswered_of_facts` -- the facts about the server are there, or the probe
  failed.
* `asked`, `sent_facts` -- what is sent.
* `answer_negotiate_eq_error_iff`, `config_negotiate_iff` -- how a negotiation can fail.
* **`openWith_checked`** -- which options fail how, and what was sent by then.
* `openWith_checked_unknown` -- an unknown zone: the probe is sent for nothing.

NOT here: the profile of a session that opens.
-/

namespace StatelessSession

variable {o : Options} {r : Request} {t : Transport} {signal : Signal} {e : SessionError}

/-! ## 1. The zone of the client -/

/-- A blank name is that of no zone. -/
theorem Zone.ofClient?_of_isBlankText {name : String} (h : Text.isBlankText name = true) :
    Zone.ofClient? name = none := by
  rw [ofClient?, Text.trimmed_of_isBlankText h, ofName?, dif_neg]
  decide +kernel

namespace Options

/-- **No zone for the client**: that of the server is not used, and the configured name, if there is
    one, is that of no zone. -/
def Zoneless (o : Options) : Prop :=
  o.useServerTimeZone = false ∧ Zone.ofClient? (o.useTimeZone.getD "") = none

/-- **What the check asks**: a host, and a name for the zone if the server's is not used. -/
theorem validate_eq_ok_iff :
    o.validate = .ok () ↔ Text.isBlankText o.node.host = false ∧
      (o.useServerTimeZone = false →
        ∃ name, o.useTimeZone = some name ∧ Text.isBlankText name = false) := by
  have hnamed : (∃ name, o.useTimeZone = some name ∧ Text.isBlankText name = false) ↔
      o.useTimeZone.all Text.isBlankText = false := by
    cases o.useTimeZone with
    | none => simp
    | some name => simp
  rw [hnamed, validate]
  cases Text.isBlankText o.node.host with
  | true => simp
  | false =>
    cases o.useServerTimeZone with
    | true => simp
    | false => simp

/-- Options that lack the name have no zone for the client. -/
theorem zoneless_of_clientZoneRequired (h : o.validate = .error .clientZoneRequired) :
    o.Zoneless := by
  unfold validate at h
  split at h
  · cases h
  split at h
  · rename_i hno
    obtain ⟨hserver, hblank⟩ := (Bool.and_eq_true _ _).mp hno
    refine ⟨by simpa using hserver, ?_⟩
    cases hname : o.useTimeZone with
    | none => exact Zone.ofClient?_of_isBlankText rfl
    | some name =>
      rw [hname] at hblank
      exact Zone.ofClient?_of_isBlankText hblank
  · cases h

end Options

/-! ## 2. The probe -/

namespace Negotiation

/-- The facts about the server are there, because they were told or because the probe was
    answered. -/
def Found (o : Options) (t : Transport) (signal : Signal) : Prop :=
  ∃ f, (facts o (Request.ofOptions o) t signal).1 = .ok f

/-- A probe that fails is no fault of the options. -/
def Unanswered (e : SessionError) : Prop := e.kind = .connection ∨ e.kind = .cancelled

theorem kind_ne_config_of_unanswered (h : Unanswered e) : e.kind ≠ .config := by
  intro hk
  rcases h with hk' | hk'
  · cases hk.symm.trans hk'
  · cases hk.symm.trans hk'

theorem unanswered_of_scalar {row : Row} {i : Nat} (h : scalar row i = .error e) :
    Unanswered e := by
  unfold scalar at h
  split at h
  · cases h
  · cases h
  · cases h
    exact .inl rfl
  · cases h
    exact .inl rfl

theorem unanswered_of_bind {α β : Type} {x : Except SessionError α}
    {f : α → Except SessionError β} (hx : ∀ e, x = .error e → Unanswered e)
    (hf : ∀ a e, f a = .error e → Unanswered e) : ∀ e, x >>= f = .error e → Unanswered e := by
  intro e h
  cases x with
  | error e' => exact hx e (congrArg _ (Except.error.inj h))
  | ok a => exact hf a e h

theorem unanswered_of_factsOfRow {row : Row} (h : factsOfRow row = .error e) : Unanswered e := by
  have hscalar : ∀ i e, scalar row i = .error e → Unanswered e := fun _ _ => unanswered_of_scalar
  unfold factsOfRow at h
  refine unanswered_of_bind (hscalar 0) (fun _ => ?_) e h
  refine unanswered_of_bind (hscalar 1) fun _ => ?_
  refine unanswered_of_bind (hscalar 2) fun _ => ?_
  exact unanswered_of_bind (hscalar 3) fun _ _ h => nomatch h

theorem unanswered_of_factsOfAnswer {answer : Except TransportError ResultSet}
    (h : factsOfAnswer answer = .error e) : Unanswered e := by
  unfold factsOfAnswer at h
  split at h
  · cases h
    split
    · exact .inr rfl
    · exact .inl rfl
  · split at h
    · cases h
      exact .inl rfl
    · exact unanswered_of_factsOfRow h

/-- **Without facts the probe failed**, or was cancelled. -/
theorem unanswered_of_facts (h : (facts o r t signal).1 = .error e) :
    o.hasServerInfo = false ∧ Unanswered e := by
  unfold facts at h
  split at h
  · cases h
  · rename_i hinfo
    refine ⟨by rw [Options.hasServerInfo, hinfo, Option.isSome_none], ?_⟩
    split at h
    · cases h
      exact .inr rfl
    · cases h
      exact .inr rfl
    · dsimp only at h
      split at h
      · rename_i hanswer
        cases h
        exact unanswered_of_factsOfAnswer hanswer
      · cases h

/-- What is sent to find out the facts: nothing if they are told or the caller cancels before. -/
def asked (o : Options) (r : Request) (signal : Signal) : List Request :=
  if o.hasServerInfo || signal == .before then [] else [probeRequest r]

theorem sent_facts (o : Options) (r : Request) (t : Transport) (signal : Signal) :
    (facts o r t signal).2.2.1.sent = t.sent ++ asked o r signal := by
  unfold facts asked
  cases hinfo : o.serverInfo? with
  | some info =>
    rw [Options.hasServerInfo, hinfo]
    exact (List.append_nil _).symm
  | none =>
    rw [Options.hasServerInfo, hinfo]
    cases signal with
    | before => exact (List.append_nil _).symm
    | during => rfl
    | never =>
      dsimp only
      split
      · exact Transport.sent_execute t _
      · exact Transport.sent_execute t _

/-- With the facts there, nothing was asked only if they were told. -/
theorem asked_eq_nil_iff (h : Found o t signal) :
    asked o r signal = [] ↔ o.hasServerInfo = true := by
  unfold asked
  cases hinfo : o.hasServerInfo with
  | true => simp
  | false =>
    have hnone : o.serverInfo? = none := by simpa [Options.hasServerInfo] using hinfo
    cases signal with
    | before =>
      obtain ⟨f, hf⟩ := h
      rw [facts, hnone] at hf
      cases hf
    | during => simp
    | never => simp

/-! ## 3. The negotiation -/

theorem effectiveZone_eq_error_iff (server : Zone) :
    effectiveZone o server = .error e ↔
      o.Zoneless ∧ e = .unknownZone (Text.trimmed (o.useTimeZone.getD "")) := by
  unfold effectiveZone Options.Zoneless
  cases o.useServerTimeZone with
  | true => simp
  | false =>
    dsimp only
    cases Zone.ofClient? (o.useTimeZone.getD "") with
    | some z => simp
    | none => simp [eq_comm]

theorem profile_eq_error_iff {f : Facts} :
    profile o f = .error e ↔
      o.Zoneless ∧ e = .unknownZone (Text.trimmed (o.useTimeZone.getD "")) := by
  rw [← effectiveZone_eq_error_iff (Zone.ofServer f.timeZone).1]
  unfold profile
  dsimp only
  cases effectiveZone o (Zone.ofServer f.timeZone).1 with
  | error e' =>
    refine ⟨fun h => ?_, fun h => ?_⟩
    · cases h
      rfl
    · cases h
      rfl
  | ok zone => exact iff_of_false nofun nofun

/-- **A negotiation fails** without facts, or with them if there is no zone for the client. -/
theorem answer_negotiate_eq_error_iff :
    (negotiate o (Request.ofOptions o) t signal).answer = .error e ↔
      (facts o (Request.ofOptions o) t signal).1 = .error e ∨ Found o t signal ∧ o.Zoneless ∧
        e = .unknownZone (Text.trimmed (o.useTimeZone.getD "")) := by
  rw [answer_negotiate, Found]
  cases (facts o (Request.ofOptions o) t signal).1 with
  | error e' => simp [bind, Except.bind]
  | ok f => simp [bind, Except.bind, profile_eq_error_iff]

/-- **A negotiation blames the options** only for the zone of the client, and only once the facts
    are there. -/
theorem config_negotiate_iff :
    (negotiate o (Request.ofOptions o) t signal).answer = .error e ∧ e.kind = .config ↔
      Found o t signal ∧ o.Zoneless ∧
        e = .unknownZone (Text.trimmed (o.useTimeZone.getD "")) := by
  rw [answer_negotiate_eq_error_iff]
  constructor
  · intro ⟨h, hk⟩
    rcases h with hfacts | h
    · exact absurd hk (kind_ne_config_of_unanswered (unanswered_of_facts hfacts).2)
    · exact h
  · intro ⟨hfound, hzone, he⟩
    exact ⟨.inr ⟨hfound, hzone, he⟩, he ▸ rfl⟩

end Negotiation

/-! ## 4. Opening -/

namespace Session

/-- **Options against a transport**: which fail how, and what was sent by then. -/
structure Checked (l : Ledger) (o : Options) (t : Transport) (signal : Signal) : Prop where
  /-- The check wants a host, and a name for the zone if the server's is not used. -/
  check : o.validate = .ok () ↔ Text.isBlankText o.node.host = false ∧
    (o.useServerTimeZone = false →
      ∃ name, o.useTimeZone = some name ∧ Text.isBlankText name = false)
  /-- What it refuses fails at once. -/
  refused : ∀ f, o.validate = .error f →
    openWith l o t signal = ⟨.error (.options f), l, t, signal == .before, []⟩
  /-- What it lets pass sends the probe, if there is anything to ask. -/
  sent : o.validate = .ok () → (openWith l o t signal).transport.sent =
    t.sent ++ Negotiation.asked o (Request.ofOptions o) signal
  /-- All errors that blame the options: that of the check, and an unknown zone once the facts are
      there. -/
  config_iff : ∀ e, (openWith l o t signal).answer = .error e ∧ e.kind = .config ↔
    (∃ f, o.validate = .error f ∧ e = .options f) ∨
      o.validate = .ok () ∧ Negotiation.Found o t signal ∧ o.Zoneless ∧
        e = .unknownZone (Text.trimmed (o.useTimeZone.getD ""))
  /-- Options that are blamed were blamed before anything was sent if and only if the check refuses
      them or there is nothing to ask. -/
  quiet_iff : ∀ e, (openWith l o t signal).answer = .error e → e.kind = .config →
    ((openWith l o t signal).transport.sent = t.sent ↔
      (∃ f, o.validate = .error f) ∨ o.hasServerInfo = true)
  /-- What is refused for lack of a name has no zone for the client. -/
  unnamed : o.validate = .error .clientZoneRequired → o.Zoneless
  /-- Without a zone no session opens, whatever the transport answers. The options are blamed, or
      the probe failed. -/
  zoneless : o.Zoneless → ∃ e, (openWith l o t signal).answer = .error e ∧
    (e.kind = .config ∨ o.hasServerInfo = false ∧ Negotiation.Unanswered e)

theorem openWith_of_validate_error {l : Ledger} {f : OptionsFault} (h : o.validate = .error f) :
    openWith l o t signal = ⟨.error (.options f), l, t, signal == .before, []⟩ := by
  rw [openWith, h]

/-- What the check lets pass fails as the negotiation does, after what the negotiation sent. -/
theorem openWith_of_validate_ok {l : Ledger} (h : o.validate = .ok ()) :
    (∀ e, (openWith l o t signal).answer = .error e ↔
      (negotiate o (Request.ofOptions o) t signal).answer = .error e) ∧
    (openWith l o t signal).transport = (negotiate o (Request.ofOptions o) t signal).transport := by
  rw [openWith, h]
  dsimp only
  cases (negotiate o (Request.ofOptions o) t signal).answer with
  | error e' => exact ⟨fun e => by simp, rfl⟩
  | ok profile => exact ⟨fun e => iff_of_false nofun nofun, rfl⟩

theorem checked_of_validate_error {l : Ledger} {f : OptionsFault} (hv : o.validate = .error f) :
    Checked l o t signal := by
  have hx : openWith l o t signal = ⟨.error (.options f), l, t, signal == .before, []⟩ :=
    openWith_of_validate_error hv
  refine ⟨Options.validate_eq_ok_iff, fun f' hf => openWith_of_validate_error hf, fun h => ?_,
    fun e => ?_, fun e _ _ => ?_, Options.zoneless_of_clientZoneRequired, fun _ => ?_⟩
  · rw [hv] at h
    cases h
  · rw [hx, hv]
    constructor
    · intro ⟨h, _⟩
      cases h
      exact .inl ⟨f, rfl, rfl⟩
    · intro h
      rcases h with ⟨f', hf, rfl⟩ | ⟨h, -⟩
      · cases hf
        exact ⟨rfl, rfl⟩
      · cases h
  · rw [hx]
    exact iff_of_true rfl (.inl ⟨f, hv⟩)
  · rw [hx]
    exact ⟨_, rfl, .inl rfl⟩

theorem checked_of_validate_ok {l : Ledger} (hv : o.validate = .ok ()) :
    Checked l o t signal := by
  obtain ⟨hanswer, htransport⟩ : _ ∧ (openWith l o t signal).transport =
    (negotiate o (Request.ofOptions o) t signal).transport := openWith_of_validate_ok hv
  have hsent : (openWith l o t signal).transport.sent =
      t.sent ++ Negotiation.asked o (Request.ofOptions o) signal := by
    rw [htransport, Negotiation.transport_negotiate, Negotiation.sent_facts]
  refine ⟨Options.validate_eq_ok_iff, fun f' hf => openWith_of_validate_error hf, fun _ => hsent,
    fun e => ?_, fun e he hk => ?_, Options.zoneless_of_clientZoneRequired, fun hzone => ?_⟩
  · rw [hanswer e, Negotiation.config_negotiate_iff, hv]
    simp
  · have hfound : Negotiation.Found o t signal :=
      (Negotiation.config_negotiate_iff.1 ⟨(hanswer e).1 he, hk⟩).1
    rw [hsent, List.append_right_eq_self, Negotiation.asked_eq_nil_iff hfound, hv]
    simp
  · cases hfacts : (Negotiation.facts o (Request.ofOptions o) t signal).1 with
    | error e =>
      refine ⟨e, (hanswer e).2 ?_, .inr (Negotiation.unanswered_of_facts hfacts)⟩
      exact Negotiation.answer_negotiate_eq_error_iff.2 (.inl hfacts)
    | ok f =>
      obtain ⟨he, hk⟩ := Negotiation.config_negotiate_iff.2 ⟨⟨f, hfacts⟩, hzone, rfl⟩
      exact ⟨_, (hanswer _).2 he, .inl hk⟩

/-- **Every options record against every transport.** -/
theorem openWith_checked (l : Ledger) (o : Options) (t : Transport) (signal : Signal) :
    Checked l o t signal := by
  cases hv : o.validate with
  | error f => exact checked_of_validate_error hv
  | ok _ => exact checked_of_validate_ok hv

/-- **An unknown zone slips through the check**: the probe is sent, and if it fails, that is what
    the caller is told. -/
theorem openWith_checked_unknown :
    let o := (Options.ofNode (Node.ofHost "h")).set (.clientTimeZone "Nowhere/Land")
    let t := Transport.ofResponses [.ok (Transport.serverInfo "default" "default" "UTC" "23.3")]
    let t' := Transport.ofResponses [.error (.failed "refused")]
    o.Zoneless ∧ o.validate = .ok () ∧
      (openWith .empty o t .never).answer = .error (.unknownZone "Nowhere/Land") ∧
      (openWith .empty o t .never).transport.sent =
        [Negotiation.probeRequest (Request.ofOptions o)] ∧
      (openWith .empty o t' .never).answer = .error (.probeFailed (.failed "refused")) := by
  intro o t t'
  have hzone : o.Zoneless := ⟨rfl, by decide +kernel⟩
  have hv : o.validate = .ok () :=
    Options.validate_eq_ok_iff.2 ⟨by decide, fun _ => ⟨"Nowhere/Land", rfl, by decide⟩⟩
  have hfound : Negotiation.Found o t .never := ⟨_, rfl⟩
  have hx := openWith_checked .empty o t .never
  refine ⟨hzone, hv, ?_, hx.sent hv, ?_⟩
  · exact ((hx.config_iff _).2 (.inr ⟨hv, hfound, hzone, congrArg _ (by decide)⟩)).1
  · exact ((openWith_of_validate_ok hv).1 _).2 rfl

end Session

end StatelessSession
