import StatelessSession.Event
import StatelessSession.Transport

/-!
# Negotiating a profile

A session finds out once who and where it is. If the options say zone and version of the server, it
believes them; otherwise it sends one probe, whose answer is also written into the request that all
later requests come from. The caller may cancel the probe; a cancellation that the transport reports
is passed on to the caller.
-/

namespace StatelessSession

/-- When the caller cancels: not at all, before the negotiation, or while the probe is waiting. -/
inductive Signal where
  | never
  | before
  | during
deriving DecidableEq, Repr

/-- What a negotiation leaves behind. -/
structure Negotiation where
  answer : Except SessionError Profile
  request : Request
  transport : Transport
  /-- Whether the caller's signal is set afterwards. -/
  cancelled : Bool
  events : List Event

namespace Negotiation

/-! ## 1. The probe -/

/-- The query that asks the server. -/
def probeSql : String := "select currentDatabase(), currentUser(), timezone(), version()"

/-- The request that asks the server: waiting, uncompressed, in binary rows. -/
def probeRequest (r : Request) : Request :=
  (((r.withAsync false).withCompression false false).withFormat .rowBinary).withQuery probeSql none

/-- What is known about the server. Database and user only come from a probe. -/
structure Facts where
  database : Option String
  user : Option String
  timeZone : String
  version : String
deriving DecidableEq, Repr

/-- One text of the answer; an absent value is the empty text. -/
def scalar (row : Row) (i : Nat) : Except SessionError String :=
  match row.at? i with
  | some (.text s) => .ok s
  | some .null => .ok ""
  | some v => .error (.oddServerInfo i v)
  | none => .error (.missingServerInfo i)

/-- The facts in a row of the answer. -/
def factsOfRow (row : Row) : Except SessionError Facts := do
  let database ← scalar row 0
  let user ← scalar row 1
  let timeZone ← scalar row 2
  let version ← scalar row 3
  return ⟨some database, some user, timeZone, version⟩

/-- The facts in an answer. -/
def factsOfAnswer : Except TransportError ResultSet → Except SessionError Facts
  | .error e => .error (if e.isCancellation then .probeStopped e else .probeFailed e)
  | .ok s =>
    match s.firstRow? with
    | none => .error .noServerInfo
    | some row => factsOfRow row

/-- Whether an answer is a cancellation. -/
def isCancellation : Except TransportError ResultSet → Bool
  | .error e => e.isCancellation
  | .ok _ => false

/-- Facts with a blank zone read as UTC. -/
def Facts.withZone (f : Facts) : Facts :=
  if Text.isBlankText f.timeZone then { f with timeZone := "UTC" } else f

/-- Finds out the facts about the server, and how the request, the transport and the signal are
    afterwards. -/
def facts (o : Options) (r : Request) (t : Transport) (signal : Signal) :
    Except SessionError Facts × Request × Transport × Bool :=
  match o.serverInfo? with
  | some (timeZone, version) => (.ok ⟨none, none, timeZone, version⟩, r, t, signal == .before)
  | none =>
    match signal with
    | .before => (.error .probeCancelled, r, t, true)
    | .during => (.error .probeCancelled, r, t.record (probeRequest r), true)
    | .never =>
      let (answer, t) := t.execute (probeRequest r)
      match factsOfAnswer answer with
      | .error e => (.error e, r, t, isCancellation answer)
      | .ok f =>
        let f := f.withZone
        (.ok f, r.withServerInfo f.timeZone f.version, t, false)

/-! ## 2. The profile -/

/-- The zone that the client uses. -/
def effectiveZone (o : Options) (server : Zone) : Except SessionError Zone :=
  if o.useServerTimeZone then .ok server
  else
    let name := o.useTimeZone.getD ""
    match Zone.ofClient? name with
    | some z => .ok z
    | none => .error (.unknownZone (Text.trimmed name))

/-- The profile that options and facts make. -/
def profile (o : Options) (f : Facts) : Except SessionError Profile :=
  let server := (Zone.ofServer f.timeZone).1
  (effectiveZone o server).map fun effective =>
    { serverTimeZone := server
      effectiveTimeZone := effective
      serverVersion := Version.ofString f.version
      database := f.database.getD o.database
      user := f.user.getD o.user
      compliant := o.compliant }

/-- What is reported of a zone that is not known. -/
def zoneEvents (f : Facts) : List Event :=
  ((Zone.ofServer f.timeZone).2.map Event.unknownServerZone).toList

/-- What is reported of the profile. -/
def profileEvents : Except SessionError Profile → List Event
  | .ok p => [.negotiated p]
  | .error _ => []

/-- What is reported before anything is asked. -/
def knownEvents (o : Options) : List Event := if o.hasServerInfo then [.serverInfoKnown] else []

end Negotiation

/-- Negotiates the profile of a session over a request and a transport. -/
def negotiate (o : Options) (r : Request) (t : Transport) (signal : Signal) : Negotiation :=
  let (found, r, t, cancelled) := Negotiation.facts o r t signal
  let known := Negotiation.knownEvents o
  match found with
  | .error e => ⟨.error e, r, t, cancelled, known⟩
  | .ok f =>
    let answer := Negotiation.profile o f
    ⟨answer, r, t, cancelled, known ++ Negotiation.zoneEvents f ++ Negotiation.profileEvents answer⟩

/-! ## 3. What comes of the facts -/

namespace Negotiation

variable {o : Options} {r : Request} {t : Transport} {signal : Signal}

theorem answer_negotiate : (negotiate o r t signal).answer =
    (facts o r t signal).1 >>= profile o := by
  unfold negotiate
  dsimp only
  cases (facts o r t signal).1 with
  | error e => rfl
  | ok f => rfl

theorem request_negotiate : (negotiate o r t signal).request = (facts o r t signal).2.1 := by
  unfold negotiate
  dsimp only
  split
  · rfl
  · rfl

theorem transport_negotiate : (negotiate o r t signal).transport = (facts o r t signal).2.2.1 := by
  unfold negotiate
  dsimp only
  split
  · rfl
  · rfl

theorem cancelled_negotiate : (negotiate o r t signal).cancelled = (facts o r t signal).2.2.2 := by
  unfold negotiate
  dsimp only
  split
  · rfl
  · rfl

/-- Zone and version of the server are all that is written into the request. -/
theorem request_facts : (facts o r t signal).2.1 = r ∨
    ∃ timeZone version, (facts o r t signal).2.1 = r.withServerInfo timeZone version := by
  unfold facts
  split
  · exact .inl rfl
  split
  · exact .inl rfl
  · exact .inl rfl
  dsimp only
  split
  · exact .inl rfl
  · exact .inr ⟨_, _, rfl⟩

/-- The probe is all that the transport gets, be it cancelled or not. -/
theorem transport_facts : (facts o r t signal).2.2.1 = t ∨
    (facts o r t signal).2.2.1 = t.record (probeRequest r) ∨
      (facts o r t signal).2.2.1 = (t.execute (probeRequest r)).2 := by
  unfold facts
  split
  · exact .inl rfl
  split
  · exact .inl rfl
  · exact .inr (.inl rfl)
  dsimp only
  split
  · exact .inr (.inr rfl)
  · exact .inr (.inr rfl)

end Negotiation

end StatelessSession
