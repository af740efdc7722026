import StatelessSession.Text.Blank
import StatelessSession.Text.Decimal
import StatelessSession.Text.Quoted

/-!
# Server versions

A version has four parts. Reading is lenient: it takes the digits at the front of each piece between
dots and stops at the first piece that has none or too many, so that the parts from there on are
zero. A zero build is not written.
-/

namespace StatelessSession

/-- A server version. -/
structure Version where
  major : UInt32
  minor : UInt32
  patch : UInt32
  build : UInt32
deriving DecidableEq, Repr

namespace Version

/-! ## 1. Reading -/

/-- The number at the front of a piece, if there is one and it fits thirty-two bits. -/
def leadingNumber? (piece : List Char) : Option UInt32 :=
  let ds := piece.takeWhile Text.isDigit
  if ds.isEmpty then none
  else if Text.value ds < Nat.pow 2 32 then some (UInt32.ofNat (Text.value ds)) else none

/-- The numbers of the pieces before the first piece without one. -/
def leadingNumbers : List (List Char) → List UInt32
  | [] => []
  | p :: ps =>
    match leadingNumber? p with
    | none => []
    | some n => n :: leadingNumbers ps

/-- The pieces of a text between its dots. -/
def pieces : List Char → List (List Char)
  | [] => [[]]
  | c :: r =>
    if c = '.' then [] :: pieces r
    else match pieces r with
      | [] => [[c]]
      | p :: ps => (c :: p) :: ps

/-- The version with the given first parts, the others zero. -/
def ofParts (ns : List UInt32) : Version :=
  ⟨ns.getD 0 0, ns.getD 1 0, ns.getD 2 0, ns.getD 3 0⟩

/-- The version that a text names. -/
def ofString (s : String) : Version := ofParts (leadingNumbers (pieces (Text.trim s.toList)))

/-! ## 2. Writing -/

/-- The text of a version. -/
def chars (v : Version) : List Char :=
  Text.digits v.major.toNat ++ '.' :: Text.digits v.minor.toNat ++
    '.' :: Text.digits v.patch.toNat ++
    if v.build = 0 then [] else '.' :: Text.digits v.build.toNat

/-- The text of a version. -/
def display (v : Version) : String := String.ofList v.chars

/-- A version in a message. -/
def shown (v : Version) : String :=
  Text.record "ServerVersion"
    [("major", toString v.major.toNat), ("minor", toString v.minor.toNat),
      ("patch", toString v.patch.toNat), ("build", toString v.build.toNat)]

/-! ## 3. Order -/

/-- The order of versions, part by part. -/
def compare (v w : Version) : Ordering :=
  (Ord.compare v.major w.major).then <| (Ord.compare v.minor w.minor).then <|
    (Ord.compare v.patch w.patch).then (Ord.compare v.build w.build)

/-- Whether a version is at least `major.minor`, whatever its patch. -/
def isAtLeast (v : Version) (major minor : UInt32) : Bool :=
  ((Ord.compare v.major major).then (Ord.compare v.minor minor)).isGE

end Version

end StatelessSession
