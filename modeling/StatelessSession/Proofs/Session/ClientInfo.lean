import StatelessSession.Proofs.Session.Closed
import StatelessSession.Proofs.Session.Open

/-!
# Client info of a session

Client info is written in three ways: one property at a time, all of them at once, and before the
session opens, from the name that its options give the client. A blank value stands for none, and
what has no value is not there. All three together are a map from the known names to what was
written last.

* `ClientProperty.ofName?_eq_some_iff`, `ofName?_eq_none_iff` -- known names.
* `ClientInfo.get?_writeAll`, `lookup_entries` -- the map, property by property and by name.
* `ClientProperty.initial`, `writes` -- what the options write to a property, and what commands do.
* `Session.Says`, `says_perform`, **`says_final`** -- what was written last is what an open session
  says.
* **`clientInfo_final`** -- the client info of a session that opened and is still open.

NOT here: that statements send the client info of when they were prepared (`Prepared`).
-/

namespace StatelessSession

/-! ## 1. Known names -/

namespace ClientProperty

variable {name : String} {p : ClientProperty}

theorem ofName?_name (p : ClientProperty) : ofName? p.name = some p := by
  cases p with
  | applicationName => rfl
  | customHttpHeaders => rfl
  | customHttpParameters => rfl

theorem ofName?_eq_some_iff : ofName? name = some p ↔ p.name = name := by
  constructor
  · intro h
    have hfind : all.find? (·.name == name) = some p := h
    have hname := List.find?_some hfind
    exact eq_of_beq hname
  · intro h
    rw [← h]
    exact ofName?_name p

theorem ofName?_eq_none_iff : ofName? name = none ↔ ∀ p : ClientProperty, p.name ≠ name := by
  rw [Option.eq_none_iff_forall_ne_some]
  exact forall_congr' fun p => not_congr ofName?_eq_some_iff

theorem eq_of_name_eq {q : ClientProperty} (h : p.name = q.name) : p = q := by
  have hp := ofName?_name p
  rw [h, ofName?_name] at hp
  exact (Option.some.inj hp).symm

theorem nodup_names : (all.map ClientProperty.name).Nodup := by decide

end ClientProperty

/-! ## 2. The map -/

namespace ClientInfo

variable {i : ClientInfo} {v : Option String} {text : String}

theorem present_eq_some_iff :
    present v = some text ↔ v = some text ∧ Text.isBlankText text = false := by
  rw [present, Option.filter_eq_some_iff, Bool.not_eq_true']

/-- **All properties are written at once**, so nothing of what was there before is left. -/
theorem get?_writeAll (i : ClientInfo) (values : ClientProperty → Option String)
    (p : ClientProperty) : (i.writeAll values).get? p = present (values p) := by
  cases p with
  | applicationName => rfl
  | customHttpHeaders => rfl
  | customHttpParameters => rfl

/-- Some of the properties that are set, by name. -/
def entriesOf (i : ClientInfo) (ps : List ClientProperty) : List (String × String) :=
  ps.filterMap fun p => (i.get? p).map (p.name, ·)

section

variable {p : ClientProperty}

theorem entriesOf_cons_of_none (h : i.get? p = none) (ps : List ClientProperty) :
    i.entriesOf (p :: ps) = i.entriesOf ps :=
  List.filterMap_cons_none (by rw [h, Option.map_none])

theorem entriesOf_cons_of_some (h : i.get? p = some text) (ps : List ClientProperty) :
    i.entriesOf (p :: ps) = (p.name, text) :: i.entriesOf ps :=
  List.filterMap_cons_some (by rw [h, Option.map_some])

end

theorem names_entriesOf (i : ClientInfo) (ps : List ClientProperty) :
    ((i.entriesOf ps).map Prod.fst).Sublist (ps.map ClientProperty.name) := by
  induction ps with
  | nil => exact .refl _
  | cons p ps ih =>
    cases h : i.get? p with
    | none =>
      rw [entriesOf_cons_of_none h]
      exact ih.cons _
    | some text =>
      rw [entriesOf_cons_of_some h]
      exact ih.cons_cons _

/-- **Looking up a name** among properties that have different ones. -/
theorem lookup_entriesOf (i : ClientInfo) {ps : List ClientProperty}
    (h : (ps.map ClientProperty.name).Nodup) (name : String) :
    (i.entriesOf ps).lookup name = (ps.find? (·.name == name)).bind i.get? := by
  induction ps with
  | nil => rfl
  | cons p ps ih =>
    obtain ⟨hfirst, hrest⟩ := List.nodup_cons.1 h
    by_cases hp : p.name = name
    · have hfind : (p :: ps).find? (·.name == name) = some p :=
        List.find?_cons_of_pos (beq_iff_eq.2 hp)
      rw [hfind, Option.bind_some]
      cases hvalue : i.get? p with
      | none =>
        -- no other property goes by this name
        have hnone : ps.find? (·.name == name) = none := List.find?_eq_none.2 fun q hq hname =>
          hfirst (hp.trans (eq_of_beq hname).symm ▸ List.mem_map_of_mem hq)
        rw [entriesOf_cons_of_none hvalue, ih hrest, hnone, Option.bind_none]
      | some text => rw [entriesOf_cons_of_some hvalue, hp, List.lookup_cons_self]
    · have hfind : (p :: ps).find? (·.name == name) = ps.find? (·.name == name) :=
        List.find?_cons_of_neg fun e => hp (eq_of_beq e)
      rw [hfind]
      cases hvalue : i.get? p with
      | none => rw [entriesOf_cons_of_none hvalue, ih hrest]
      | some text =>
        have hne : (name == p.name) = false := beq_false_of_ne (Ne.symm hp)
        rw [entriesOf_cons_of_some hvalue, List.lookup_cons, hne, ih hrest]

theorem lookup_entries (i : ClientInfo) (name : String) :
    i.entries.lookup name = (ClientProperty.ofName? name).bind i.get? :=
  lookup_entriesOf i ClientProperty.nodup_names name

/-- Whoever asks for a property by its name gets its value. -/
theorem lookup_name (i : ClientInfo) (p : ClientProperty) :
    i.entries.lookup p.name = i.get? p := by
  rw [lookup_entries, ClientProperty.ofName?_name, Option.bind_some]

/-- Whatever is set is the value of a property. -/
theorem get?_of_mem_entries {e : String × String} (h : e ∈ i.entries) :
    ∃ p, i.get? p = some e.2 := by
  obtain ⟨p, -, hp⟩ := List.mem_filterMap.1 h
  obtain ⟨text, htext, rfl⟩ := Option.map_eq_some_iff.1 hp
  exact ⟨p, htext⟩

end ClientInfo

/-! ## 3. Writes -/

/-- What the options of a session write to a property. -/
def ClientProperty.initial (o : Options) : ClientProperty → Option String
  | .applicationName => o.clientName
  | .customHttpHeaders | .customHttpParameters => none

/-- **What an action writes to a property**, where `some none` takes its value away. -/
def SessionBooks.Action.clientWrite? (p : ClientProperty) : Action → Option (Option String)
  | .setClientInfo name v => if name = p.name then some v else none
  | .setClientInfoAll values => some (values.lookup p.name)
  | _ => none

/-- What a command writes to a property of the session with number `i`. -/
def Workspace.Command.clientWrite? (i : Nat) (p : ClientProperty) :
    Command → Option (Option String)
  | .onSession j (.act a) => if j = i then a.clientWrite? p else none
  | _ => none

/-- What commands write to a property of the session with number `i`, the earliest first. -/
def ClientProperty.writes (p : ClientProperty) (i : Nat) (cs : List Workspace.Command) :
    List (Option String) :=
  cs.filterMap (Workspace.Command.clientWrite? i p)

/-- **What was written last to `p` is `x`**: an open session shows it, unless it is blank. -/
def Session.Says (s : Session) (p : ClientProperty) (x : Option String) : Prop :=
  s.closed = false → s.request.settings.clientInfo.get? p = ClientInfo.present x

/-! ## 4. Actions -/

namespace SessionBooks

variable {b : SessionBooks} {p : ClientProperty} {x : Option String} {α : Type}

theorem namedValue_eq_lookup (values : List (String × String)) (p : ClientProperty) :
    namedValue values p = values.lookup p.name := by
  induction values with
  | nil => rfl
  | cons e values ih =>
    by_cases he : e.1 = p.name
    · have hfind : (e :: values).find? (·.1 == p.name) = some e :=
        List.find?_cons_of_pos (beq_iff_eq.2 he)
      rw [namedValue, hfind, ← he, List.lookup_cons, beq_self_eq_true]
      rfl
    · have hfind : (e :: values).find? (·.1 == p.name) = values.find? (·.1 == p.name) :=
        List.find?_cons_of_neg fun h => he (eq_of_beq h)
      have hne : (p.name == e.1) = false := beq_false_of_ne (Ne.symm he)
      rw [namedValue, hfind, List.lookup_cons, hne]
      exact ih

/-- The client info that the session of some books has. -/
def clientInfo (b : SessionBooks) : ClientInfo := b.session.request.settings.clientInfo

theorem clientInfo_whenOpen {o : Outcome SessionBooks α} (h : o.state.clientInfo = b.clientInfo) :
    (b.whenOpen o).state.clientInfo = b.clientInfo := by
  unfold whenOpen
  split
  · rfl
  · exact h

/-- **Two actions write client info**; all others leave it as it is. -/
theorem clientInfo_perform {a : Action} (hone : ∀ name v, a ≠ .setClientInfo name v)
    (hall : ∀ values, a ≠ .setClientInfoAll values) :
    (b.perform a).state.clientInfo = b.clientInfo := by
  cases a with
  | setClientInfo name v => exact absurd rfl (hone name v)
  | setClientInfoAll values => exact absurd rfl (hall values)
  | autocommit | nativeSql | clientInfo | clientInfoAll | schema => rfl
  | newQueryId => exact congrArg (·.request.settings.clientInfo) (session_newQueryId b)
  | prepare sql =>
    refine clientInfo_whenOpen ?_
    split
    · rfl
    · rename_i shape hshape
      rw [clientInfo, session_prepareShape]
      rfl
  | setIsolation level =>
    refine clientInfo_whenOpen ?_
    split
    · rfl
    · rfl
  | setNetworkTimeout ms =>
    refine clientInfo_whenOpen ?_
    split
    · rfl
    · rfl
  | setSchema name =>
    refine clientInfo_whenOpen ?_
    split
    · rfl
    split
    · rfl
    · rfl
  | isValid seconds =>
    simp only [perform, answering, isValid]
    split
    · rfl
    split
    · rfl
    · rfl
  | close =>
    simp only [perform, finished, answering, close]
    split
    · rfl
    split
    · rfl
    · rfl
  | abort =>
    simp only [perform, finished, answering, abort]
    split
    · rfl
    · rfl
  | _ => exact clientInfo_whenOpen rfl

/-- **One property is written**, if its name is known. -/
theorem get?_setClientInfo (ho : b.session.closed = false) (name : String) (v : Option String)
    (p : ClientProperty) :
    (b.perform (.setClientInfo name v)).state.clientInfo.get? p =
      if name = p.name then ClientInfo.present v else b.clientInfo.get? p := by
  simp only [perform, finished, answering, setClientInfo, if_neg (Bool.eq_false_iff.1 ho)]
  cases hname : ClientProperty.ofName? name with
  | none =>
    have hne := ClientProperty.ofName?_eq_none_iff.1 hname p
    exact (if_neg (Ne.symm hne)).symm
  | some q =>
    have hq := ClientProperty.ofName?_eq_some_iff.1 hname
    have hiff : q = p ↔ name = p.name :=
      ⟨fun e => hq.symm.trans (congrArg _ e), fun e => ClientProperty.eq_of_name_eq (hq.trans e)⟩
    show (ClientInfo.write _ q v).get? p = _
    rw [ClientInfo.get?_write]
    simp only [hiff]
    rfl

/-- **All properties are written.** -/
theorem get?_setClientInfoAll (ho : b.session.closed = false) (values : List (String × String))
    (p : ClientProperty) :
    (b.perform (.setClientInfoAll values)).state.clientInfo.get? p =
      ClientInfo.present (values.lookup p.name) := by
  simp only [perform, finished, answering, setClientInfoAll, if_neg (Bool.eq_false_iff.1 ho)]
  show (ClientInfo.writeAll _ (namedValue values)).get? p = _
  rw [ClientInfo.get?_writeAll, namedValue_eq_lookup]

/-- **After an action an open session says what the action wrote**, or else what it said before. -/
theorem says_perform (h : b.session.Says p x) (a : Action) :
    (b.perform a).state.session.Says p ((a.clientWrite? p).getD x) := by
  intro ho'
  have ho : b.session.closed = false := Bool.eq_false_iff.2 fun hc => by
    rw [session_of_closed hc] at ho'
    exact Bool.noConfusion (hc.symm.trans ho')
  by_cases hone : ∃ name v, a = .setClientInfo name v
  · obtain ⟨name, v, rfl⟩ := hone
    refine (get?_setClientInfo ho name v p).trans ?_
    rw [Action.clientWrite?]
    split
    · rfl
    · exact h ho
  by_cases hall : ∃ values, a = .setClientInfoAll values
  · obtain ⟨values, rfl⟩ := hall
    exact get?_setClientInfoAll ho values p
  · have hnone : a.clientWrite? p = none := by
      cases a with
      | setClientInfo name v => exact absurd ⟨name, v, rfl⟩ hone
      | setClientInfoAll values => exact absurd ⟨values, rfl⟩ hall
      | _ => rfl
    have hkept : (b.perform a).state.clientInfo = b.clientInfo :=
      clientInfo_perform (fun name v e => hone ⟨name, v, e⟩) fun values e => hall ⟨values, e⟩
    rw [hnone]
    exact (congrArg (·.get? p) hkept).trans (h ho)

end SessionBooks

/-! ## 5. Runs -/

/-- **A negotiation keeps the client info** that the options gave the request. -/
theorem Negotiation.clientInfo_negotiate (o : Options) (t : Transport) (signal : Signal) :
    (negotiate o (Request.ofOptions o) t signal).request.settings.clientInfo =
      ClientInfo.empty.write .applicationName o.clientName := by
  rw [request_negotiate]
  rcases request_facts with h | ⟨timeZone, version, h⟩
  · rw [h]
    rfl
  · rw [h]
    rfl

theorem Session.says_openWith {l : Ledger} {o : Options} {t : Transport} {signal : Signal}
    {s : Session} (h : (Session.openWith l o t signal).answer.toOption = some s)
    (p : ClientProperty) : s.Says p (p.initial o) := by
  intro _
  rw [(openWith_eq_some h).2]
  show (Negotiation.request _).settings.clientInfo.get? p = _
  rw [Negotiation.clientInfo_negotiate, ClientInfo.get?_write]
  cases p with
  | applicationName => rfl
  | customHttpHeaders => rfl
  | customHttpParameters => rfl

namespace Workspace

variable {w : Workspace} {i : Nat} {s s' : Session} {c : Command} {p : ClientProperty}
  {x : Option String}

theorem clientWrite?_of_orders {a : SessionBooks.Action} (h : c.Orders i a) :
    c.clientWrite? i p = a.clientWrite? p := by
  cases h with
  | act a => exact if_pos rfl
  | rollbackTo n sp => rfl
  | release n sp => rfl
  | join => rfl

theorem says_step (hs : w.session? i = some s) (hs' : (w.step c).state.session? i = some s')
    (h : s.Says p x) : s'.Says p ((c.clientWrite? i p).getD x) := by
  by_cases hact : ∃ a, c = .onSession i (.act a)
  · obtain ⟨a, rfl⟩ := hact
    rw [step_act hs, session?_act_self hs] at hs'
    cases Option.some.inj hs'
    rw [clientWrite?_of_orders (.act a)]
    exact SessionBooks.says_perform (b := ⟨w.ledger, s⟩) h a
  · have hnone : c.clientWrite? i p = none := by
      unfold Command.clientWrite?
      split
      · rename_i j a
        exact if_neg fun hj => hact ⟨a, by rw [hj]⟩
      · rfl
    obtain ⟨s'', hs'', hb⟩ := became_step hs c
    cases Option.some.inj (hs''.symm.trans hs')
    cases hb with
    | same => rw [hnone]; exact h
    | act l a orders =>
      rw [clientWrite?_of_orders orders]
      exact SessionBooks.says_perform (b := ⟨l, s⟩) h a
    | farSide t unasked => rw [hnone]; exact h
    | send command => rw [hnone]; exact h

/-- **What was written last is what a session says**, whatever was done in between. -/
theorem says_final {cs : List Command} (hs : w.session? i = some s)
    (hs' : (w.final cs).session? i = some s') (h : s.Says p x) :
    s'.Says p ((p.writes i cs).getLastD x) := by
  induction cs generalizing w s x with
  | nil =>
    cases Option.some.inj (hs.symm.trans hs')
    exact h
  | cons c cs ih =>
    obtain ⟨u, hu, -⟩ := became_step hs c
    have hrest := ih hu hs' (says_step hs hu h)
    rw [ClientProperty.writes]
    cases hc : c.clientWrite? i p with
    | none =>
      rw [hc] at hrest
      rw [List.filterMap_cons_none hc]
      exact hrest
    | some v =>
      rw [hc] at hrest
      rw [List.filterMap_cons_some hc, List.getLastD_cons]
      exact hrest

/-! ## 6. What open sessions answer -/

/-- An answer that brings no handle along is passed on. -/
theorem answer_step_act (hs : w.session? i = some s) {a : SessionBooks.Action}
    {answer : SessionBooks.Answer}
    (ha : (SessionBooks.perform ⟨w.ledger, s⟩ a).answer = .ok answer)
    (hplain : ∀ w : Workspace, w.register i answer = (.answer answer, w)) :
    (w.step (.onSession i (.act a))).answer = .ok (.answer answer) := by
  rw [step_act hs]
  simp only [act, ha, hplain]

theorem answer_clientInfo (hs : w.session? i = some s) (ho : s.closed = false) (name : String) :
    (w.step (.onSession i (.act (.clientInfo name)))).answer =
      .ok (.answer (.maybeText (s.request.settings.clientInfo.entries.lookup name))) := by
  have hanswer : s.getClientInfo name =
      .ok (s.request.settings.clientInfo.entries.lookup name) := by
    rw [ClientInfo.lookup_entries, Session.getClientInfo, Session.whenOpen, ho]
    rfl
  exact answer_step_act hs (congrArg (·.map SessionBooks.Answer.maybeText) hanswer) fun _ => rfl

theorem answer_clientInfoAll (hs : w.session? i = some s) (ho : s.closed = false) :
    (w.step (.onSession i (.act .clientInfoAll))).answer =
      .ok (.answer (.entries s.request.settings.clientInfo.entries)) := by
  have hanswer : s.getClientInfoAll = .ok s.request.settings.clientInfo.entries := by
    rw [Session.getClientInfoAll, Session.whenOpen, ho]
    rfl
  exact answer_step_act hs (congrArg (·.map SessionBooks.Answer.entries) hanswer) fun _ => rfl

/-- An open session accepts whatever is written. -/
theorem answer_setClientInfo (hs : w.session? i = some s) (ho : s.closed = false) (name : String)
    (v : Option String) :
    (w.step (.onSession i (.act (.setClientInfo name v)))).answer = .ok (.answer .done) := by
  refine answer_step_act hs ?_ fun _ => rfl
  simp only [SessionBooks.perform, SessionBooks.finished, SessionBooks.answering,
    SessionBooks.setClientInfo, ho]
  cases ClientProperty.ofName? name with
  | none => rfl
  | some p => rfl

theorem answer_setClientInfoAll (hs : w.session? i = some s) (ho : s.closed = false)
    (values : List (String × String)) :
    (w.step (.onSession i (.act (.setClientInfoAll values)))).answer = .ok (.answer .done) := by
  refine answer_step_act hs ?_ fun _ => rfl
  simp only [SessionBooks.perform, SessionBooks.finished, SessionBooks.answering,
    SessionBooks.setClientInfoAll, ho]
  rfl

/-- **A name that is not known writes nothing.** -/
theorem state_setClientInfo_of_unknown (hs : w.session? i = some s) (ho : s.closed = false)
    {name : String} (h : ∀ p : ClientProperty, p.name ≠ name) (v : Option String) :
    (w.step (.onSession i (.act (.setClientInfo name v)))).state = w := by
  have hsame : w.putBooks i ⟨w.ledger, s⟩ = w := putSession_self hs
  have hperform : SessionBooks.perform ⟨w.ledger, s⟩ (.setClientInfo name v) =
      ⟨.ok .done, ⟨w.ledger, s⟩, [.propertyIgnored name]⟩ := by
    simp only [SessionBooks.perform, SessionBooks.finished, SessionBooks.answering,
      SessionBooks.setClientInfo, ho, ClientProperty.ofName?_eq_none_iff.2 h]
    rfl
  rw [step_act hs]
  simp only [act, hperform, hsame]
  rfl

/-- Of all values that are written at once, only those under known names count. -/
theorem step_setClientInfoAll_congr (hs : w.session? i = some s)
    {values values' : List (String × String)}
    (h : ∀ p : ClientProperty, values.lookup p.name = values'.lookup p.name) :
    w.step (.onSession i (.act (.setClientInfoAll values))) =
      w.step (.onSession i (.act (.setClientInfoAll values'))) := by
  have hvalues : SessionBooks.namedValue values = SessionBooks.namedValue values' :=
    funext fun p => by
      rw [SessionBooks.namedValue_eq_lookup, SessionBooks.namedValue_eq_lookup, h]
  rw [step_act hs, step_act hs]
  simp only [act, SessionBooks.perform, SessionBooks.setClientInfoAll, hvalues]

/-! ## 7. The whole -/

/-- **The open session with number `i` has the client info `info`**, where `value p` was written to
    the property `p` last. -/
structure Informed (w : Workspace) (i : Nat) (info : ClientInfo)
    (value : ClientProperty → Option String) : Prop where
  /-- Its names are known, and none is there twice, -/
  known : (info.entries.map Prod.fst).Sublist (ClientProperty.all.map ClientProperty.name)
  distinct : (info.entries.map Prod.fst).Nodup
  /-- its values are not blank, -/
  notBlank : ∀ e ∈ info.entries, Text.isBlankText e.2 = false
  /-- and each name has the value written last, if that is not blank. -/
  last : ∀ p : ClientProperty, info.entries.lookup p.name = ClientInfo.present (value p)
  /-- This is what the session answers, -/
  all : (w.step (.onSession i (.act .clientInfoAll))).answer = .ok (.answer (.entries info.entries))
  /-- also for a single name, known or not. -/
  one : ∀ name, (w.step (.onSession i (.act (.clientInfo name)))).answer =
    .ok (.answer (.maybeText (info.entries.lookup name)))
  /-- Whatever is written is accepted. -/
  accepts : ∀ name v,
    (w.step (.onSession i (.act (.setClientInfo name v)))).answer = .ok (.answer .done)
  acceptsAll : ∀ values,
    (w.step (.onSession i (.act (.setClientInfoAll values)))).answer = .ok (.answer .done)
  /-- A name that is not known has no value, and writing to it changes nothing. -/
  unknown : ∀ name, (∀ p : ClientProperty, p.name ≠ name) → info.entries.lookup name = none ∧
    ∀ v, (w.step (.onSession i (.act (.setClientInfo name v)))).state = w
  /-- Values for all properties at once do the same if they say the same of known names. -/
  unknownAll : ∀ values values' : List (String × String),
    (∀ p : ClientProperty, values.lookup p.name = values'.lookup p.name) →
    w.step (.onSession i (.act (.setClientInfoAll values))) =
      w.step (.onSession i (.act (.setClientInfoAll values')))

/-- **The last write counts**, of whatever kind it was. A session opened with the options `o`; as
    long as it is open, its client info is what they and the commands since then wrote last. -/
theorem clientInfo_final {cs cs' : List Command} {o : Options} {t : Transport}
    {signal : Option Signal} {s₀ s : Session}
    (hopen : (Session.openWith (empty.final cs).ledger o t (signal.getD .never)).answer = .ok s₀)
    (hs : (((empty.final cs).step (.connect o t signal)).state.final cs').session?
      (empty.final cs).sessions.length = some s)
    (ho : s.closed = false) :
    Informed (((empty.final cs).step (.connect o t signal)).state.final cs')
      (empty.final cs).sessions.length s.request.settings.clientInfo fun p =>
        (p.writes (empty.final cs).sessions.length cs').getLastD (p.initial o) := by
  have hsome : (Session.openWith (empty.final cs).ledger o t (signal.getD .never)).answer.toOption =
      some s₀ := by
    rw [hopen]
    rfl
  have hlast (p : ClientProperty) :=
    says_final (session?_connect hsome) hs (Session.says_openWith hsome p) ho
  generalize (empty.final cs).sessions.length = i at hs hlast ⊢
  generalize ((empty.final cs).step (.connect o t signal)).state.final cs' = w at hs ⊢
  have hnames := ClientInfo.names_entriesOf s.request.settings.clientInfo ClientProperty.all
  refine ⟨hnames, hnames.nodup ClientProperty.nodup_names, fun e he => ?_,
    fun p => (ClientInfo.lookup_name _ p).trans (hlast p), answer_clientInfoAll hs ho,
    answer_clientInfo hs ho, answer_setClientInfo hs ho, answer_setClientInfoAll hs ho,
    fun name hname => ⟨?_, state_setClientInfo_of_unknown hs ho hname⟩,
    fun values values' h => step_setClientInfoAll_congr hs h⟩
  · obtain ⟨p, hp⟩ := ClientInfo.get?_of_mem_entries he
    exact (ClientInfo.present_eq_some_iff.1 ((hlast p).symm.trans hp)).2
  · rw [ClientInfo.lookup_entries, ClientProperty.ofName?_eq_none_iff.2 hname, Option.bind_none]

/-- A client that is named twice, by its options and later, and whose name is then blanked out. -/
theorem clientInfo_final_blank :
    let o := ((Options.ofNode (Node.ofHost "h")).set (.serverInfo "UTC" "23.3")).set
      (.clientName "first")
    let t := Transport.ofResponses []
    let w := (empty.step (.connect o t none)).state
    let cs := [.onSession 0 (.act (.setClientInfo "CustomHttpHeaders" (some "a"))),
      .onSession 0 (.act (.setClientInfoAll [("ApplicationName", "second"), ("Color", "red")])),
      .onSession 0 (.act (.setClientInfo "CustomHttpParameters" (some "b"))),
      .onSession 0 (.act (.setClientInfo "Color" (some "blue"))),
      .onSession 0 (.act (.setClientInfo "ApplicationName" (some "\u3000 ")))]
    ∃ s₀ s, (Session.openWith Ledger.empty o t .never).answer = .ok s₀ ∧
      (w.final cs).session? 0 = some s ∧ s.closed = false ∧
      s.request.settings.clientInfo.entries = [("CustomHttpParameters", "b")] ∧
      Informed (w.final cs) 0 s.request.settings.clientInfo fun p =>
        (p.writes 0 cs).getLastD (p.initial o) := by
  intro o t w cs
  have hopens : (Session.openWith Ledger.empty o t .never).answer.isOk = true := by decide +kernel
  obtain ⟨s₀, hopen⟩ := exists_eq_ok hopens
  have hstays : ((w.final cs).session? 0).map
      (fun s => (s.closed, s.request.settings.clientInfo.entries)) =
      some (false, [("CustomHttpParameters", "b")]) := by decide +kernel
  obtain ⟨s, hs, hafter⟩ := Option.map_eq_some_iff.1 hstays
  obtain ⟨ho, hentries⟩ := Prod.mk.inj hafter
  exact ⟨s₀, s, hopen, hs, ho, hentries,
    @clientInfo_final [] cs o t none s₀ s hopen hs ho⟩

end Workspace

end StatelessSession
