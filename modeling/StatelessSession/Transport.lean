import StatelessSession.Error
import StatelessSession.ResultSet

/-!
# Transports

A `Transport` is the far side of a session: it has the answers that it will give and remembers what
it was asked. With no answer left, a write affects as many rows as it brings along and any other
request gets no rows.
-/

namespace StatelessSession

/-- A transport with its answers to come and what it was asked so far, oldest first. -/
structure Transport where
  responses : List (Except TransportError ResultSet)
  sent : List Request
  /-- What a ping answers. -/
  alive : Bool
  /-- The nodes that were pinged, with the timeout in seconds. -/
  pings : List (Node × Nat)
  closeCalls : Nat
  /-- What closing fails with. -/
  closeError : Option TransportError

namespace Transport

/-- A transport that has these answers. -/
def ofResponses (responses : List (Except TransportError ResultSet)) : Transport :=
  ⟨responses, [], true, [], 0, none⟩

/-- The columns of the answer to a probe. -/
def probeColumns : List String :=
  ["currentDatabase()", "currentUser()", "timezone()", "version()"]

/-- The answer to a probe. -/
def serverInfo (database user timeZone version : String) : ResultSet :=
  (ResultSet.ofColumns probeColumns).addRow
    [.text database, .text user, .text timeZone, .text version]

/-- Adds an answer after those to come. -/
def push (t : Transport) (response : Except TransportError ResultSet) : Transport :=
  { t with responses := t.responses ++ [response] }

/-- Remembers a request. -/
def record (t : Transport) (r : Request) : Transport := { t with sent := t.sent ++ [r] }

/-- The answer to a request that nothing was prepared for. -/
def standard (r : Request) : ResultSet :=
  if r.write then ResultSet.ofAffected r.input.length else ResultSet.empty

/-- Sends a request. -/
def execute (t : Transport) (r : Request) : Except TransportError ResultSet × Transport :=
  let t := t.record r
  match t.responses with
  | [] => (.ok (standard r), t)
  | response :: rest => (response, { t with responses := rest })

/-- Asks whether a node answers in time. -/
def ping (t : Transport) (node : Node) (seconds : Nat) : Bool × Transport :=
  (t.alive, { t with pings := t.pings ++ [(node, seconds)] })

/-- Closes the transport. -/
def close (t : Transport) : Option TransportError × Transport :=
  (t.closeError, { t with closeCalls := t.closeCalls + 1 })

@[simp] theorem sent_execute (t : Transport) (r : Request) :
    (t.execute r).2.sent = t.sent ++ [r] := by
  simp only [execute, record]
  split <;> rfl

@[simp] theorem closeCalls_execute (t : Transport) (r : Request) :
    (t.execute r).2.closeCalls = t.closeCalls := by
  simp only [execute, record]
  split <;> rfl

end Transport

end StatelessSession
