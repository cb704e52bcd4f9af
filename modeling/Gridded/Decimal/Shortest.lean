import Gridded.Decimal.Double

/-!
# Shortest decimals

The fewest decimal digits that read back as the same double, and of those the nearest to it. All
arithmetic is exact, on fractions with a common denominator.

* `Decimal`: a natural number of powers of ten;
* `Decimal.Span`: a double between the two ends of the interval that rounds to it;
* `Decimal.shortest`: the shortest decimal in that interval.
-/

namespace Gridded

/-- The number `digits · 10 ^ exponent`. -/
structure Decimal where
  digits : Nat
  exponent : Int
  deriving DecidableEq, Repr

namespace Decimal

/-- A number `value / unit` between the ends `low / unit` and `high / unit` of the interval of
numbers that round to it. The ends belong to the interval if `closed`. -/
structure Span where
  low : Nat
  value : Nat
  high : Nat
  unit : Nat
  closed : Bool
  deriving DecidableEq, Repr

/-- The span of the double `mantissa · 2 ^ exponent`. Its ends lie halfway to its neighbours, of
which the lower one is nearer when the mantissa is the least of its binade. Ties are broken to even
mantissas, so the ends round to it exactly if its own mantissa is even. -/
def Span.ofDouble (mantissa : Nat) (exponent : Int) : Span :=
  let low :=
    if mantissa = Double.leastNormal ∧ Double.minExponent < exponent then 4 * mantissa - 1
    else 4 * mantissa - 2
  let scale := Nat.pow 2 (exponent - 2).toNat
  { low := low * scale
    value := 4 * mantissa * scale
    high := (4 * mantissa + 2) * scale
    unit := Nat.pow 2 (2 - exponent).toNat
    closed := mantissa % 2 == 0 }

/-- The same span, measured in units of `10 ^ exponent`. -/
def Span.inUnitsOf (s : Span) (exponent : Int) : Span :=
  let up := Nat.pow 10 (-exponent).toNat
  { s with
    low := s.low * up
    value := s.value * up
    high := s.high * up
    unit := s.unit * Nat.pow 10 exponent.toNat }

/-- Whether a whole number of units lies in the interval. -/
def Span.admits (s : Span) (n : Nat) : Bool :=
  if s.closed then s.low ≤ n * s.unit && n * s.unit ≤ s.high
  else s.low < n * s.unit && n * s.unit < s.high

/-- The whole number of units in the interval that is nearest to the value, if the interval holds
one of the two around the value. The larger wins a tie. -/
def Span.nearest? (s : Span) : Option Nat :=
  let below := s.value / s.unit
  let above := below + 1
  match s.admits below, s.admits above with
  | true, true =>
    if s.value - below * s.unit < above * s.unit - s.value then some below else some above
  | true, false => some below
  | false, true => some above
  | false, false => none

/-- The number of digits before the decimal point: `k` such that the value is at least
`10 ^ (k - 1)` and below `10 ^ k`. -/
def Span.magnitude (s : Span) (binaryExponent : Int) : Int :=
  let guess := binaryExponent * 30103 / 100000 + 1
  let atLeast (k : Int) : Bool := s.unit * Nat.pow 10 k.toNat ≤ s.value * Nat.pow 10 (-k).toNat
  if atLeast guess then guess + 1
  else if atLeast (guess - 1) then guess
  else guess - 1

/-- No more than seventeen digits are needed to tell doubles apart. -/
def maxDigits : Nat := 17

/-- Drop trailing zeros, at most `fuel` of them. -/
def dropZeros : (fuel : Nat) → Decimal → Decimal
  | 0, d => d
  | fuel + 1, d =>
    if d.digits % 10 = 0 then dropZeros fuel ⟨d.digits / 10, d.exponent + 1⟩ else d

/-- The shortest decimal that rounds to the double `mantissa · 2 ^ exponent`, nearest to it among
those of its length. -/
def shortest (mantissa : Nat) (exponent : Int) : Decimal :=
  let span := Span.ofDouble mantissa exponent
  let magnitude := span.magnitude (exponent + mantissa.log2)
  let onGrid (count : Nat) : Option Decimal :=
    let grid : Int := magnitude - (count + 1)
    (span.inUnitsOf grid).nearest?.map fun n => dropZeros maxDigits ⟨n, grid⟩
  ((List.range maxDigits).findSome? onGrid).getD ⟨mantissa, exponent⟩

end Decimal

end Gridded
