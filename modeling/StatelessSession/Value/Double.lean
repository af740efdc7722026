import StatelessSession.Text.Decimal

/-!
# Double-precision numbers by their bits

A `Double` is its sixty-four bits. `Double.magnitude` decodes a finite one exactly as `m · 2 ^ q`,
`Double.ofRatio` rounds a fraction of natural numbers to the nearest double (a half goes to the
even neighbour), and `Double.same` is the equality of numbers: a NaN differs from itself, the two
zeros agree. No machine arithmetic is used, so every step is exact and open to proof.
-/

namespace StatelessSession

/-- A double-precision number as its IEEE 754 bits. -/
structure Double where
  bits : UInt64
deriving DecidableEq, Repr

namespace Double

/-! ## 1. Fields -/

/-- Whether the sign bit is set. -/
def negative (x : Double) : Bool := Nat.pow 2 63 ≤ x.bits.toNat

/-- The biased exponent, `0` to `2047`. -/
def exponentField (x : Double) : Nat := x.bits.toNat / Nat.pow 2 52 % Nat.pow 2 11

/-- The fraction bits. -/
def fractionField (x : Double) : Nat := x.bits.toNat % Nat.pow 2 52

/-- Whether the number is none. -/
def isNaN (x : Double) : Bool := x.exponentField == 2047 && x.fractionField != 0

/-- Whether the number is one of the two infinities. -/
def isInfinite (x : Double) : Bool := x.exponentField == 2047 && x.fractionField == 0

/-- Whether the number is one of the two zeros. -/
def isZero (x : Double) : Bool := x.exponentField == 0 && x.fractionField == 0

/-- The absolute value of a finite number as `m · 2 ^ q`. -/
def magnitude (x : Double) : Nat × Int :=
  if x.exponentField = 0 then (x.fractionField, -1074)
  else (x.fractionField + Nat.pow 2 52, x.exponentField - 1075)

/-- Equality of numbers. -/
def same (x y : Double) : Bool :=
  !x.isNaN && !y.isNaN && (x.bits == y.bits || (x.isZero && y.isZero))

/-! ## 2. Rounding a fraction -/

/-- Whether a quotient that lies exactly between two candidates goes up or to the even one. -/
inductive Tie where
  | up
  | toEven
deriving DecidableEq, Repr

/-- The integer nearest to `num / den`. -/
def roundQuotient (num den : Nat) (tie : Tie) : Nat :=
  let q := num / den
  let twice := 2 * (num % den)
  if twice < den then q
  else if den < twice then q + 1
  else match tie with
    | .up => q + 1
    | .toEven => if q % 2 = 0 then q else q + 1

/-- The number with a given sign and the bits of a given absolute value. -/
def ofParts (negative : Bool) (bits : Nat) : Double :=
  ⟨UInt64.ofNat (bits + if negative then Nat.pow 2 63 else 0)⟩

/-- The bits of the infinities without the sign. -/
def infiniteBits : Nat := 2047 * Nat.pow 2 52

/-- `num / den` divided by `2 ^ q`, as a fraction. -/
def scaledRatio (num den : Nat) (q : Int) : Nat × Nat :=
  (num * Nat.pow 2 (-q).toNat, den * Nat.pow 2 q.toNat)

/-- The exponent at which `num / den` has fifty-three binary digits, but none below the least. -/
def ratioExponent (num den : Nat) : Int :=
  let q : Int := Int.ofNat num.log2 - Int.ofNat den.log2 - 53
  let r := scaledRatio num den q
  max (if Nat.pow 2 53 ≤ r.1 / r.2 then q + 1 else q) (-1074)

/-- The bits of the double nearest to `num / den`, infinite if that is too large for any. A carry
    out of the fraction runs into the exponent, which is the next binade's first number. -/
def ratioBits (num den : Nat) : Nat :=
  if num = 0 then 0
  else
    let q := ratioExponent num den
    let r := scaledRatio num den q
    let m := roundQuotient r.1 r.2 .toEven
    if m < Nat.pow 2 52 then m
    else min (m - Nat.pow 2 52 + (q + 1075).toNat * Nat.pow 2 52) infiniteBits

/-- The double nearest to plus or minus `num / den`. -/
def ofRatio (negative : Bool) (num den : Nat) : Double := ofParts negative (ratioBits num den)

/-- The absolute value of a finite number as a fraction. -/
def ratio (x : Double) : Nat × Nat :=
  let (m, q) := x.magnitude
  (m * Nat.pow 2 q.toNat, Nat.pow 2 (-q).toNat)

/-- The product of two finite numbers that are not negative, rounded. -/
def mulMagnitude (x y : Double) : Double :=
  ofRatio false (x.ratio.1 * y.ratio.1) (x.ratio.2 * y.ratio.2)

/-- The quotient of two finite numbers that are not negative, rounded; `y` is not zero. -/
def divMagnitude (x y : Double) : Double :=
  ofRatio false (x.ratio.1 * y.ratio.2) (x.ratio.2 * y.ratio.1)

/-- The number with the sign bit set. -/
def withSign (negative : Bool) (x : Double) : Double :=
  if negative then ofParts true (x.bits.toNat % Nat.pow 2 63) else x

end Double

end StatelessSession
