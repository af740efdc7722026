import StatelessSession.Json.Written
import StatelessSession.Value.Shortest

/-!
# The number that a JSON numeral denotes

A whole numeral that fits sixty-four bits is an integer; `-0` is not one, since integers have no
negative zero. Every other numeral is a double, read in two roundings: its significand, as many
leading digits as fit sixty-four unsigned bits, is rounded first, and is then multiplied or divided
by the double nearest to the power of ten. A numeral too large for a double denotes nothing.
-/

namespace StatelessSession.Json

/-- A JSON number. Integers lie between `-2 ^ 63` and `2 ^ 64 - 1`. -/
inductive Number where
  | int (n : Int)
  | float (x : Double)
deriving DecidableEq, Repr

/-- Equality of JSON numbers: an integer is never a double, doubles compare as numbers. -/
def Number.same : Number → Number → Bool
  | .int m, .int n => m == n
  | .float x, .float y => x.same y
  | _, _ => false

/-- The text of a number. -/
def Number.text : Number → List Char
  | .int n => Text.intDigits n
  | .float x => Double.jsonLayout.text x

/-! ## 1. The significand -/

/-- A significand under way: its value, and the power of ten that it stands before. -/
structure Significand where
  value : Nat
  exponent : Int
deriving DecidableEq, Repr

/-- Whether one more digit still fits sixty-four bits. -/
def fits (value : Nat) (d : Char) : Bool := value * 10 + (d.toNat - 48) < Nat.pow 2 64

/-- The whole digits: from the first that does not fit on, each counts as a factor of ten. -/
def wholeSignificand : Nat → List Char → Significand
  | v, [] => ⟨v, 0⟩
  | v, d :: ds =>
    if fits v d then wholeSignificand (v * 10 + (d.toNat - 48)) ds else ⟨v, ds.length + 1⟩

/-- The digits after the point: from the first that does not fit on, they are dropped. -/
def Significand.addFraction : Significand → List Char → Significand
  | s, [] => s
  | s, d :: ds =>
    if fits s.value d then
      Significand.addFraction ⟨s.value * 10 + (d.toNat - 48), s.exponent - 1⟩ ds
    else s

/-! ## 2. Scaling -/

/-- The double nearest to a power of ten. -/
def tenPower (n : Nat) : Double := Double.ofRatio false (Nat.pow 10 n) 1

/-- Divides by ever more powers of ten, at most `10 ^ 308` at a time, until all are done or
    nothing is left. -/
def scaleDown : Nat → Double → Nat → Double
  | 0, x, _ => x
  | steps + 1, x, n =>
    if n ≤ 308 then x.divMagnitude (tenPower n)
    else if x.isZero then x
    else scaleDown steps (x.divMagnitude (tenPower 308)) (n - 308)

/-- A double times a power of ten; `none` if that is too large. A zero stays zero. -/
def scale? (x : Double) (exponent : Int) : Option Double :=
  if exponent < 0 then some (scaleDown (exponent.natAbs / 308 + 1) x exponent.natAbs)
  else if exponent.natAbs ≤ 308 then
    let y := x.mulMagnitude (tenPower exponent.natAbs)
    if y.isInfinite then none else some y
  else if x.isZero then some x
  else none

/-- The greatest exponent that is read digit by digit; a longer one is as good as infinite. -/
def maxExponent : Nat := Nat.pow 2 31 - 1

/-- The absolute value of a significand with a further power of ten. -/
def Significand.magnitude? (s : Significand) : Option (Bool × List Char) → Option Double
  | none => scale? (Double.ofRatio false s.value 1) s.exponent
  | some (negative, ds) =>
    let e := Text.value ds
    if maxExponent < e then
      if negative || s.value == 0 then some (Double.ofRatio false 0 1) else none
    else
      scale? (Double.ofRatio false s.value 1) (if negative then s.exponent - e else s.exponent + e)

/-! ## 3. Numerals -/

/-- The double that a numeral denotes, read as such. -/
def Numeral.double? (n : Numeral) : Option Double :=
  (((wholeSignificand 0 n.whole).addFraction n.fraction).magnitude? n.exponent).map
    (Double.withSign n.negative)

/-- The number that a numeral denotes. -/
def Numeral.number? (n : Numeral) : Option Number :=
  let v := Text.value n.whole
  if n.isWhole && !n.negative && v < Nat.pow 2 64 then some (.int v)
  else if n.isWhole && n.negative && 0 < v && v ≤ Nat.pow 2 63 then some (.int (-v))
  else n.double?.map .float

end StatelessSession.Json
