import StatelessSession.Proofs.Session.Actions
import StatelessSession.Proofs.Session.Run

/-!
# What a session says about the server

A session learns zone and version of the server from a probe, or it is told beforehand. Both give it
the same profile. They differ in one point: the probe has a blank zone written as UTC into the
request, and a blank zone that was told beforehand travels as it is, with every later request.

* `Request.serverInfo` -- zone and version as a request carries them; `within_perform` -- no action
  changes them, or sends anything.
* `Workspace.Carrying`, **`later_requests`** -- what a session sends after it opened carries what
  the negotiation left in the request.
* `Negotiation.Answered` -- a probe that is answered with known facts.
* **`agreement`** -- where being told agrees with asking, and where not.

NOT here: probes that fail or are cancelled.
-/

namespace StatelessSession

/-- Zone and version of the server, as a request carries them. -/
def Request.serverInfo (r : Request) : Option String × Option String :=
  (r.settings.serverTimeZone, r.settings.serverVersion)

/-- The negotiation that a session for some options opens with, if nobody cancels it. -/
def Negotiation.ofOptions (o : Options) (t : Transport) : Negotiation :=
  negotiate o (Request.ofOptions o) t .never

/-- Whatever a statement sends carries what its own request carries. -/
theorem Statement.Asks.serverInfo {st : Statement} {params : List Value} {r : Request}
    (h : st.Asks params r) : r.serverInfo = st.request.serverInfo := by
  cases h with
  | query bound => rfl
  | insert p => rfl

/-! ## 1. Actions -/

namespace SessionBooks

/-- **What actions leave alone**: what was sent, and what the request says of the server. -/
structure Within (b b' : SessionBooks) : Prop where
  sent : b'.session.transport.sent = b.session.transport.sent
  serverInfo : b'.session.request.serverInfo = b.session.request.serverInfo

variable {b : SessionBooks}

/-- A recorded setting is none of the server's. -/
theorem serverInfo_of_alike {s s' : Session} (h : s.Alike s') :
    s'.request.serverInfo = s.request.serverInfo := by
  obtain ⟨database, clientInfo, hr⟩ := h.request
  rw [hr]
  rfl

theorem within_perform (b : SessionBooks) (a : Action) : b.Within (b.perform a).state := by
  have h := performed b a
  generalize b.perform a = o at h ⊢
  cases h with
  | refused early => exact ⟨rfl, rfl⟩
  | answered plain events => exact ⟨rfl, rfl⟩
  | managed opened operates plain => exact ⟨rfl, rfl⟩
  | issued => exact ⟨rfl, rfl⟩
  | @prepared sql shape opened fits =>
    cases shape with
    | parameterized query unfit => exact ⟨rfl, rfl⟩
    | streaming columns => exact ⟨rfl, rfl⟩
  | recorded opened alike events =>
    exact ⟨congrArg Transport.sent alike.transport, serverInfo_of_alike alike⟩
  | pinged opened node n => exact ⟨rfl, rfl⟩
  | closed opened events => exact ⟨rfl, rfl⟩
  | unclosed opened failure events => exact ⟨rfl, rfl⟩
  | aborted opened events => exact ⟨rfl, rfl⟩

/-- A statement that is prepared carries what the session does. -/
theorem serverInfo_of_statement {a : Action} {st : Statement}
    (ha : (b.perform a).answer = .ok (.statement st)) :
    st.request.serverInfo = b.session.request.serverInfo := by
  obtain ⟨sql, shape, -, -, -, hst⟩ := statement_eq_ok ha
  cases shape with
  | parameterized query unfit =>
    cases hst
    rfl
  | streaming columns =>
    cases hst
    rfl

end SessionBooks

/-! ## 2. What a session sends later -/

namespace Workspace

variable {w : Workspace} {i : Nat} {sent : List Request} {info : Option String × Option String}

/-- **The session with number `i` carries `info`**, in every request since it had sent `sent`. -/
structure Carrying (w : Workspace) (i : Nat) (sent : List Request)
    (info : Option String × Option String) : Prop where
  session : ∃ s, w.session? i = some s ∧ s.request.serverInfo = info ∧
    ∃ later, s.transport.sent = sent ++ later ∧ ∀ r ∈ later, r.serverInfo = info
  statements : ∀ j p, w.statement? j = some p → p.session = i →
    p.statement.request.serverInfo = info

theorem carrying_step (h : w.Carrying i sent info) (c : Command) :
    (w.step c).state.Carrying i sent info where
  session := by
    obtain ⟨s, hs, hinfo, later, hsent, hlater⟩ := h.session
    have hm := moved_step w c i
    generalize (w.step c).state.session? i = o at hm ⊢
    cases hm with
    | same => exact ⟨s, hs, hinfo, later, hsent, hlater⟩
    | opened command last => exact absurd last (Nat.ne_of_lt (lt_of_session? hs))
    | act hs' l a =>
      cases Option.some.inj (hs.symm.trans hs')
      have hw := SessionBooks.within_perform ⟨l, s⟩ a
      exact ⟨_, rfl, hw.serverInfo.trans hinfo, later, hw.sent.trans hsent, hlater⟩
    | farSide hs' t ht =>
      cases Option.some.inj (hs.symm.trans hs')
      exact ⟨_, rfl, hinfo, later, ht.sent.trans hsent, hlater⟩
    | @send _ hs' j params command p hp hown r hr =>
      cases Option.some.inj (hs.symm.trans hs')
      refine ⟨_, rfl, hinfo, later ++ [r], ?_, fun r' hr' => ?_⟩
      · rw [Transport.sent_execute, hsent, List.append_assoc]
      · -- a statement sends what was in its own request when it was prepared
        rcases List.mem_append.1 hr' with hr' | hr'
        · exact hlater r' hr'
        · rw [List.mem_singleton.1 hr', hr.serverInfo]
          exact h.statements j p hp hown
  statements j p hp hown := by
    obtain ⟨s, hs, hinfo, -⟩ := h.session
    cases derived_step hp with
    | kept hkept => exact h.statements j p hkept hown
    | @rows k q hrows => exact h.statements j ⟨k, .insert q⟩ hrows hown
    | prepared hs' ha =>
      cases hown
      cases Option.some.inj (hs.symm.trans hs')
      exact (SessionBooks.serverInfo_of_statement ha).trans hinfo

/-- A session that opens has the transport and the facts of the negotiation. -/
theorem opened_eq_ok {l : Ledger} {o : Options} {t : Transport} {s : Session}
    (h : (Session.openWith l o t .never).answer.toOption = some s) :
    s.transport = (Negotiation.ofOptions o t).transport ∧
      s.request.serverInfo = (Negotiation.ofOptions o t).request.serverInfo := by
  rw [(Session.openWith_eq_some h).2]
  exact ⟨rfl, rfl⟩

/-- A session that has just opened carries what was negotiated. -/
theorem carrying_connect (h : w.Owned) {o : Options} {t : Transport} {s : Session}
    (hs : (w.step (.connect o t none)).state.session? w.sessions.length = some s) :
    (w.step (.connect o t none)).state.Carrying w.sessions.length
      (Negotiation.ofOptions o t).transport.sent
      (Negotiation.ofOptions o t).request.serverInfo where
  session := by
    have hlast := session?_concat w (Session.openWith w.ledger o t .never).ledger
      (Session.openWith w.ledger o t .never).answer.toOption w.sessions.length
    rw [if_pos rfl] at hlast
    obtain ⟨ht, hr⟩ := opened_eq_ok (hlast.symm.trans hs)
    refine ⟨s, hs, hr, [], ?_, fun r hr => absurd hr List.not_mem_nil⟩
    rw [ht, List.append_nil]
  statements j p hp hown := by
    obtain ⟨s', hs'⟩ := h j p hp
    rw [hown, session?_length] at hs'
    cases hs'

/-- **Every later request of a session** carries what the negotiation left in its request. -/
theorem later_requests (cs cs' : List Command) {o : Options} {t : Transport} {s : Session}
    (hs : ((empty.final cs).step (.connect o t none)).state.session?
      (empty.final cs).sessions.length = some s) :
    (((empty.final cs).step (.connect o t none)).state.final cs').Carrying
      (empty.final cs).sessions.length
      (Negotiation.ofOptions o t).transport.sent (Negotiation.ofOptions o t).request.serverInfo :=
  final_induction (P := fun w => w.Carrying _ _ _) (fun _ c h => carrying_step h c)
    (carrying_connect (owned_final cs) hs) cs'

end Workspace

/-! ## 3. Asking and being told -/

namespace Negotiation

/-- A transport that answers the probe for `o` with its database and user, a zone and a version. -/
def Answered (t : Transport) (o : Options) (timeZone version : String) : Prop :=
  ∃ rs row, (t.execute (probeRequest (Request.ofOptions o))).1 = .ok rs ∧ rs.firstRow? = some row ∧
    row.at? 0 = some (.text o.database) ∧ row.at? 1 = some (.text o.user) ∧
    row.at? 2 = some (.text timeZone) ∧ row.at? 3 = some (.text version)

/-- The zone that the probe writes into the request. -/
def writtenZone (timeZone : String) : String :=
  if Text.isBlankText timeZone then "UTC" else timeZone

/-- The server's zone does not depend on how a blank name is written. -/
theorem ofServer_writtenZone (timeZone : String) :
    (Zone.ofServer (writtenZone timeZone)).1 = (Zone.ofServer timeZone).1 := by
  unfold writtenZone
  split
  · rename_i h
    have hutc : (Zone.ofServer "UTC").1 = Zone.utc := by rfl
    rw [hutc, Zone.ofServer, Text.trimmed_of_isBlankText h]
    rfl
  · rfl

theorem ofOptions_answered {o : Options} {t : Transport} {timeZone version : String}
    (hno : o.hasServerInfo = false) (ht : Answered t o timeZone version) :
    (ofOptions o t).answer =
        profile o ⟨some o.database, some o.user, writtenZone timeZone, version⟩ ∧
      (ofOptions o t).request =
        (Request.ofOptions o).withServerInfo (writtenZone timeZone) version ∧
      (ofOptions o t).transport = (t.execute (probeRequest (Request.ofOptions o))).2 := by
  obtain ⟨rs, row, hanswer, hrow, hdatabase, huser, hzone, hversion⟩ := ht
  have hnone : o.serverInfo? = none := by
    rwa [Options.hasServerInfo, Option.isSome_eq_false_iff, Option.isNone_iff_eq_none] at hno
  have hfacts : factsOfAnswer (t.execute (probeRequest (Request.ofOptions o))).1 =
      .ok ⟨some o.database, some o.user, timeZone, version⟩ := by
    rw [hanswer]
    simp only [factsOfAnswer, hrow, factsOfRow, scalar, hdatabase, huser, hzone, hversion]
    rfl
  have hwritten : Facts.withZone ⟨some o.database, some o.user, timeZone, version⟩ =
      ⟨some o.database, some o.user, writtenZone timeZone, version⟩ := by
    unfold Facts.withZone writtenZone
    dsimp only
    split
    · rfl
    · rfl
  have hall : facts o (Request.ofOptions o) t .never =
      (.ok ⟨some o.database, some o.user, writtenZone timeZone, version⟩,
        (Request.ofOptions o).withServerInfo (writtenZone timeZone) version,
        (t.execute (probeRequest (Request.ofOptions o))).2, false) := by
    simp only [facts, hnone, hfacts, hwritten]
  simp only [ofOptions, negotiate, hall]
  exact ⟨trivial, trivial, trivial⟩

theorem ofOptions_known (o : Options) (t : Transport) (timeZone version : String) :
    (ofOptions (o.set (.serverInfo timeZone version)) t).answer =
        profile o ⟨none, none, timeZone, version⟩ ∧
      (ofOptions (o.set (.serverInfo timeZone version)) t).request =
        (Request.ofOptions o).withServerInfo timeZone version ∧
      (ofOptions (o.set (.serverInfo timeZone version)) t).transport = t :=
  ⟨rfl, rfl, rfl⟩

/-- The profile does not depend on who says database and user, nor on how a blank zone is
    written. -/
theorem profile_written (o : Options) (timeZone version : String) :
    profile o ⟨some o.database, some o.user, writtenZone timeZone, version⟩ =
      profile o ⟨none, none, timeZone, version⟩ := by
  simp only [profile, ofServer_writtenZone]
  rfl

theorem writtenZone_eq_iff (timeZone : String) :
    writtenZone timeZone = timeZone ↔ Text.isBlankText timeZone = false := by
  unfold writtenZone
  split
  · rename_i h
    refine iff_of_false (fun he => ?_) (by rw [h]; exact Bool.noConfusion)
    -- a blank zone is written as UTC, which is not blank
    rw [← he] at h
    exact absurd h (by decide)
  · rename_i h
    exact iff_of_true rfl (Bool.eq_false_iff.2 h)

/-- **Asking the server and being told beforehand.** A session for the options `o` asks over the
    transport `t`, another one is told `timeZone` and `version` and works over `t'`. -/
structure Agreement (o : Options) (timeZone version : String) (t t' : Transport) : Prop where
  /-- Both have the same profile, or fail for the same reason. -/
  answer : (ofOptions o t).answer = (ofOptions (o.set (.serverInfo timeZone version)) t').answer
  /-- The request of the one that asks is that of the other, but for how the zone is written. -/
  request : (ofOptions o t).request =
    (ofOptions (o.set (.serverInfo timeZone version)) t').request.withServerInfo
      (writtenZone timeZone) version
  request_eq_iff :
    (ofOptions o t).request = (ofOptions (o.set (.serverInfo timeZone version)) t').request ↔
      Text.isBlankText timeZone = false
  /-- Asking takes one request, being told none. -/
  sent : (ofOptions o t).transport.sent = t.sent ++ [probeRequest (Request.ofOptions o)] ∧
    (ofOptions (o.set (.serverInfo timeZone version)) t').transport.sent = t'.sent
  /-- What the one that asked sends later carries the zone as it was written. -/
  later : ∀ (cs cs' : List Workspace.Command) (s : Session),
    ((Workspace.empty.final cs).step (.connect o t none)).state.session?
      (Workspace.empty.final cs).sessions.length = some s →
    (((Workspace.empty.final cs).step (.connect o t none)).state.final cs').Carrying
      (Workspace.empty.final cs).sessions.length (ofOptions o t).transport.sent
      (some (writtenZone timeZone), some version)
  /-- What the one that was told sends later carries the zone as it was told. -/
  later_known : ∀ (cs cs' : List Workspace.Command) (s : Session),
    ((Workspace.empty.final cs).step
      (.connect (o.set (.serverInfo timeZone version)) t' none)).state.session?
        (Workspace.empty.final cs).sessions.length = some s →
    (((Workspace.empty.final cs).step
      (.connect (o.set (.serverInfo timeZone version)) t' none)).state.final cs').Carrying
        (Workspace.empty.final cs).sessions.length t'.sent (some timeZone, some version)

/-- **Being told agrees with asking, but for a blank zone**: the profile is the same either way, and
so is the request unless the zone is blank, and then every later request differs. -/
theorem agreement {o : Options} {timeZone version : String} {t : Transport}
    (hno : o.hasServerInfo = false) (ht : Answered t o timeZone version) (t' : Transport) :
    Agreement o timeZone version t t' := by
  obtain ⟨hanswer, hrequest, htransport⟩ := ofOptions_answered hno ht
  obtain ⟨hanswer', hrequest', htransport'⟩ := ofOptions_known o t' timeZone version
  refine ⟨?_, ?_, ?_, ⟨?_, ?_⟩, fun cs cs' s hs => ?_, fun cs cs' s hs => ?_⟩
  · rw [hanswer, hanswer', profile_written]
  · rw [hrequest, hrequest']
    rfl
  · rw [hrequest, hrequest', ← writtenZone_eq_iff]
    refine ⟨fun he => ?_, fun he => by rw [he]⟩
    exact Option.some.inj (congrArg (fun r => r.settings.serverTimeZone) he)
  · rw [htransport, Transport.sent_execute]
  · rw [htransport']
  · have hlater := Workspace.later_requests cs cs' hs
    rw [hrequest] at hlater
    exact hlater
  · have hlater := Workspace.later_requests cs cs' hs
    rw [hrequest', htransport'] at hlater
    exact hlater

/-- A blank zone: the session that asks says UTC from then on, the one that is told repeats the
    blank. -/
theorem agreement_blank :
    let o := Options.ofNode (Node.ofHost "h")
    let t := Transport.ofResponses [.ok (Transport.serverInfo "default" "default" " " "23.3")]
    let t' := Transport.ofResponses []
    o.hasServerInfo = false ∧ Answered t o " " "23.3" ∧ Agreement o " " "23.3" t t' ∧
      (ofOptions o t).request.serverInfo = (some "UTC", some "23.3") ∧
      (ofOptions (o.set (.serverInfo " " "23.3")) t').request.serverInfo =
        (some " ", some "23.3") := by
  intro o t t'
  have hno : o.hasServerInfo = false := rfl
  have ht : Answered t o " " "23.3" := ⟨_, _, rfl, rfl, rfl, rfl, rfl, rfl⟩
  exact ⟨hno, ht, agreement hno ht t', by decide, rfl⟩

end Negotiation

end StatelessSession
