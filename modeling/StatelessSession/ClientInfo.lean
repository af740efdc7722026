import StatelessSession.Levels
import StatelessSession.Text.Blank

/-!
# Client info

What a client says about itself with each request: three properties, each a text that is not blank,
or absent. `ClientInfo.write` sets one property, a blank or missing value removes it.
-/

namespace StatelessSession

/-- The properties that a client may set. -/
inductive ClientProperty where
  | applicationName
  | customHttpHeaders
  | customHttpParameters
deriving DecidableEq, Repr

namespace ClientProperty

/-- All properties, by name. -/
def all : List ClientProperty := [.applicationName, .customHttpHeaders, .customHttpParameters]

/-- The name of a property. -/
def name : ClientProperty → String
  | .applicationName => "ApplicationName"
  | .customHttpHeaders => "CustomHttpHeaders"
  | .customHttpParameters => "CustomHttpParameters"

/-- The property with a name. -/
def ofName? (s : String) : Option ClientProperty := findByName name all false s

end ClientProperty

/-- The client info of a request. -/
structure ClientInfo where
  applicationName : Option String
  customHttpHeaders : Option String
  customHttpParameters : Option String
deriving DecidableEq, Repr

namespace ClientInfo

/-- No property at all. -/
def empty : ClientInfo := ⟨none, none, none⟩

/-- The value of a property. -/
def get? (i : ClientInfo) : ClientProperty → Option String
  | .applicationName => i.applicationName
  | .customHttpHeaders => i.customHttpHeaders
  | .customHttpParameters => i.customHttpParameters

/-- Puts a value, or none, in the place of a property. -/
def put (i : ClientInfo) (p : ClientProperty) (v : Option String) : ClientInfo :=
  match p with
  | .applicationName => { i with applicationName := v }
  | .customHttpHeaders => { i with customHttpHeaders := v }
  | .customHttpParameters => { i with customHttpParameters := v }

/-- A value, unless it is blank. -/
def present (v : Option String) : Option String := v.filter (!Text.isBlankText ·)

/-- Sets a property; a blank or missing value removes it. -/
def write (i : ClientInfo) (p : ClientProperty) (v : Option String) : ClientInfo :=
  i.put p (present v)

/-- Sets every property at once, to what `values` says. -/
def writeAll (i : ClientInfo) (values : ClientProperty → Option String) : ClientInfo :=
  ClientProperty.all.foldl (fun i p => i.write p (values p)) i

/-- The properties that are set, by name. -/
def entries (i : ClientInfo) : List (String × String) :=
  ClientProperty.all.filterMap fun p => (i.get? p).map (p.name, ·)

@[simp] theorem get?_empty (p : ClientProperty) : empty.get? p = none := by cases p <;> rfl

@[simp] theorem get?_put (i : ClientInfo) (p q : ClientProperty) (v : Option String) :
    (i.put p v).get? q = if p = q then v else i.get? q := by
  cases p <;> cases q <;> rfl

@[simp] theorem get?_write (i : ClientInfo) (p q : ClientProperty) (v : Option String) :
    (i.write p v).get? q = if p = q then present v else i.get? q := get?_put i p q (present v)

end ClientInfo

end StatelessSession
