import StatelessSession.Value.Double

/-!
# The shortest decimal of a double

`Double.shortest` finds the fewest digits that read back as the same number, and of the decimals
with so few digits the one nearest to it. `Double.layout` writes those digits positionally or with
an exponent; where one form ends and the other begins, whether a whole number keeps a point, and
which way an exact tie goes are the fields of a `Layout`.
-/

namespace StatelessSession.Double

/-! ## 1. Digits -/

/-- The reals that round to a number: four times its scaled value, and the bounds around it, over
    one denominator. The bounds count iff `closed`. -/
structure Interval where
  low : Nat
  centre : Nat
  high : Nat
  unit : Nat
  closed : Bool

/-- The interval around `m · 2 ^ q`. Below the first number of a binade the gap is half as wide. -/
def interval (m : Nat) (q : Int) : Interval :=
  let up := Nat.pow 2 (q - 2).toNat
  { low := (4 * m - if m = Nat.pow 2 52 then 1 else 2) * up
    centre := 4 * m * up
    high := (4 * m + 2) * up
    unit := Nat.pow 2 (2 - q).toNat
    closed := m % 2 = 0 }

/-- Whether `d · 10 ^ k` rounds to the number. -/
def Interval.holds (i : Interval) (d : Nat) (k : Int) : Bool :=
  let x := d * Nat.pow 10 k.toNat * i.unit
  let s := Nat.pow 10 (-k).toNat
  if i.closed then i.low * s ≤ x && x ≤ i.high * s else i.low * s < x && x < i.high * s

/-- The multiple of `10 ^ k` that stands for the number, if one of its two neighbours on that grid
    rounds to it: of two the nearer, and in a tie the one that `tie` says. -/
def Interval.onGrid? (i : Interval) (tie : Tie) (k : Int) : Option Nat :=
  let num := i.centre * Nat.pow 10 (-k).toNat
  let den := i.unit * Nat.pow 10 k.toNat
  let d := num / den
  match i.holds d k, i.holds (d + 1) k with
  | false, false => none
  | true, false => some d
  | false, true => some (d + 1)
  | true, true => some (roundQuotient num den tie)

/-- Tries finer and finer grids. Seventeen digits always suffice, and the search starts at most
    three digits above the first. -/
def Interval.search (i : Interval) (tie : Tie) : Nat → Int → Nat × Int
  | 0, k => (0, k)
  | fuel + 1, k =>
    match i.onGrid? tie k with
    | some d => (d, k)
    | none => i.search tie fuel (k - 1)

/-- A power of ten that is no smaller than `m · 2 ^ q`, and less than a thousand times as large. -/
def coarsestGrid (m : Nat) (q : Int) : Int :=
  let e : Int := Int.ofNat m.log2 + q + 1
  (e * 30103) / 100000 + 1

/-- The fewest digits that read back, as `d · 10 ^ k`; for a finite number that is not zero. -/
def shortest (x : Double) (tie : Tie) : Nat × Int :=
  let (m, q) := x.magnitude
  (interval m q).search tie 24 (coarsestGrid m q)

/-! ## 2. Layout -/

/-- How a finite double is written. The exponents are those of the first digit. -/
structure Layout where
  /-- The least exponent that is written positionally; no bound if `none`. -/
  lowest : Option Int
  /-- The greatest exponent that is written positionally; no bound if `none`. -/
  highest : Option Int
  /-- Whether a whole number in positional form ends in `.0`. -/
  keepsPoint : Bool
  /-- Whether an exponent that is not negative carries a plus sign. -/
  showsPlus : Bool
  /-- The choice between two shortest decimals that are equally near. -/
  tie : Tie

/-- Digits times a power of ten, without an exponent. -/
def positional (ds : List Char) (k : Int) (keepsPoint : Bool) : List Char :=
  if 0 ≤ k then
    ds ++ List.replicate k.toNat '0' ++ (if keepsPoint then ['.', '0'] else [])
  else
    let places := (-k).toNat
    if places < ds.length then
      ds.take (ds.length - places) ++ '.' :: ds.drop (ds.length - places)
    else '0' :: '.' :: List.replicate (places - ds.length) '0' ++ ds

/-- Digits with a point after the first and an exponent. -/
def scientific (ds : List Char) (exponent : Int) (showsPlus : Bool) : List Char :=
  (match ds with
    | [] => []
    | [d] => [d]
    | d :: r => d :: '.' :: r) ++
    'e' :: (if showsPlus && 0 ≤ exponent then ['+'] else []) ++ Text.intDigits exponent

/-- Whether an exponent of the first digit is written positionally. -/
def Layout.isPositional (l : Layout) (exponent : Int) : Bool :=
  l.lowest.all (· ≤ exponent) && l.highest.all (exponent ≤ ·)

/-- The absolute value of a finite double. -/
def Layout.unsigned (l : Layout) (x : Double) : List Char :=
  if x.isZero then positional ['0'] 0 l.keepsPoint
  else
    let (d, k) := x.shortest l.tie
    let ds := Text.digits d
    let exponent := k + ds.length - 1
    if l.isPositional exponent then positional ds k l.keepsPoint
    else scientific ds exponent l.showsPlus

/-- A finite double, with a minus sign also for the negative zero. -/
def Layout.text (l : Layout) (x : Double) : List Char :=
  if x.negative then '-' :: l.unsigned x else l.unsigned x

/-- A double in an SQL text: never an exponent, no point after a whole number. -/
def sqlLayout : Layout := ⟨none, none, false, false, .up⟩

/-- A double in a message: an exponent from `1e16` on and below `1e-4`. -/
def messageLayout : Layout := ⟨some (-4), some 15, true, false, .up⟩

/-- A double in a JSON text: an exponent from `1e+16` on and below `1e-5`. -/
def jsonLayout : Layout := ⟨some (-5), some 15, true, true, .toEven⟩

/-- A double as an SQL literal. -/
def sqlText (x : Double) : List Char :=
  if x.isNaN then "nan".toList
  else if x.isInfinite then (if x.negative then "-inf" else "inf").toList
  else sqlLayout.text x

/-- A double in a message. -/
def messageText (x : Double) : List Char :=
  if x.isNaN then "NaN".toList
  else if x.isInfinite then (if x.negative then "-inf" else "inf").toList
  else messageLayout.text x

end StatelessSession.Double
