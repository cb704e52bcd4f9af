/-!
# The value of a double

A `Float` is a pattern of 64 bits. This module names the number that the pattern stands for, so
that printing and rounding are exact integer arithmetic.

* `Double`: not a number, an infinity, or `± mantissa · 2 ^ exponent`;
* `Double.ofFloat`: the value of a `Float`;
* `Double.round`: the nearest integer within bounds.
-/

namespace Gridded

/-- What a `Float` stands for. -/
inductive Double
  | nan
  | infinite (negative : Bool)
  | finite (negative : Bool) (mantissa : Nat) (exponent : Int)
  deriving DecidableEq, Repr

namespace Double

/-- The least exponent, that of zero and of the subnormal numbers. -/
def minExponent : Int := -1074

/-- The number of values of the 52 mantissa bits of a pattern; the least mantissa of a normal number. -/
def leastNormal : Nat := Nat.pow 2 52

/-- Read a pattern of 64 bits: a sign, eleven exponent bits and 52 mantissa bits. -/
def ofBits (bits : Nat) : Double :=
  let negative := bits / Nat.pow 2 63 % 2 == 1
  let biased : Nat := bits / leastNormal % 2048
  let fraction : Nat := bits % leastNormal
  if biased = 2047 then
    if fraction = 0 then infinite negative else nan
  else if biased = 0 then finite negative fraction minExponent
  else finite negative (fraction + leastNormal) (Int.ofNat biased - 1 + minExponent)

/-- The value of a `Float`. -/
def ofFloat (x : Float) : Double :=
  ofBits x.toBits.toNat

/-- The integer nearest to `num / den`; a half goes up. -/
def nearest (num den : Nat) : Nat :=
  (2 * num + den) / (2 * den)

/-- The magnitude of the nearest integer; a half goes away from zero. -/
def roundMagnitude (mantissa : Nat) (exponent : Int) : Nat :=
  if 0 ≤ exponent then mantissa * Nat.pow 2 exponent.toNat
  else nearest mantissa (Nat.pow 2 (-exponent).toNat)

/-- Move an integer into `[low, high]`. -/
def clamp (low high n : Int) : Int :=
  if n < low then low else if high < n then high else n

/-- The nearest integer, halves away from zero, moved into `[low, high]`. What is not a number
counts as zero. -/
def round (low high : Int) : Double → Int
  | nan => clamp low high 0
  | infinite true => low
  | infinite false => high
  | finite negative mantissa exponent =>
    let magnitude := roundMagnitude mantissa exponent
    clamp low high (if negative then -magnitude else magnitude)

end Double

end Gridded
