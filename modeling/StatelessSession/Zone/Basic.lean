import StatelessSession.Text.Blank
import StatelessSession.Zone.Names

/-!
# Time zones

A `Zone` is one of the known names. A name from the server is trimmed and falls back to UTC
(`Zone.ofServer`); a configured one is trimmed too, but an unknown name stays unresolved.
-/

namespace StatelessSession

/-- A known time zone, by its name. -/
structure Zone where
  name : String
  known : name ∈ Zone.names

namespace Zone

/-- Coordinated universal time. -/
def utc : Zone := ⟨"UTC", List.mem_cons_self⟩

/-- The zone with a given name. -/
def ofName? (name : String) : Option Zone :=
  if h : name ∈ names then some ⟨name, h⟩ else none

instance : DecidableEq Zone := fun a b =>
  decidable_of_iff (a.name = b.name)
    ⟨fun h => by cases a; cases b; cases h; rfl, fun h => by rw [h]⟩

@[simp] theorem ofName?_name (z : Zone) : ofName? z.name = some z := by
  simp [ofName?, z.known]

/-- The zone that the server reports, and the trimmed name if it is neither blank nor known. -/
def ofServer (reported : String) : Zone × Option String :=
  let name := Text.trimmed reported
  if name.isEmpty then (utc, none)
  else match ofName? name with
    | some z => (z, none)
    | none => (utc, some name)

/-- The zone that a client asks for by name. -/
def ofClient? (configured : String) : Option Zone := ofName? (Text.trimmed configured)

end Zone

end StatelessSession
