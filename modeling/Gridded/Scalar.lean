import Gridded.Decimal.Layout
import Gridded.Decimal.Numeral

/-!
# Coordinate numbers

Coordinates, field values and conversion factors are numbers of one type. Programs compute with
doubles; laws of the algebra are read in exact arithmetic. Both are a `Scalar`, so that each
formula is written once, with its operations in one order.

* `Scalar`: arithmetic, comparison, rounding and text of a number type;
* `Scalar.least`, `Scalar.greatest`: the smaller and the larger of two numbers, skipping what is not
  a number;
* `Hyperbolic`: the two hyperbolic functions that the stretching of ocean levels needs;
* the instances for `Float`, and the instance for `Rat`.
-/

namespace Gridded

/-- A type of coordinate numbers. Comparisons are false where a side is not a number. -/
class Scalar (α : Type) extends Add α, Sub α, Mul α, Div α, Neg α, LT α, LE α, BEq α where
  decLt : DecidableLT α
  decLe : DecidableLE α
  /-- The number nearest to an integer. -/
  ofInt : Int → α
  /-- The number nearest to `m · 10 ^ e`, or to `m · 10 ^ -e` if the flag is set. -/
  ofScientific : Nat → Bool → Nat → α
  abs : α → α
  isNaN : α → Bool
  isFinite : α → Bool
  /-- What stands for a missing value. -/
  nan : α
  /-- The largest finite number. -/
  largest : α
  /-- The nearest integer, halves away from zero, moved into the given bounds. -/
  round : (low high : Int) → α → Int
  /-- The number nearest to a written one, if the type has such a number. -/
  ofNumeral? : Numeral → Option α
  /-- The text of a number in messages. -/
  plain : α → String
  /-- The text of a number in listings. -/
  detailed : α → String

/-- The hyperbolic functions of a number type. -/
class Hyperbolic (α : Type) where
  sinh : α → α
  tanh : α → α

namespace Scalar

variable {α : Type} [Scalar α]

instance (priority := low) instDecidableLT : DecidableLT α :=
  decLt

instance (priority := low) instDecidableLE : DecidableLE α :=
  decLe

instance (priority := low) instOfNat (n : Nat) : OfNat α n :=
  ⟨ofInt n⟩

instance (priority := low) instOfScientific : OfScientific α :=
  ⟨ofScientific⟩

/-- The number nearest to a count. -/
def ofNat (n : Nat) : α :=
  ofInt n

/-- The smaller of two numbers, the second if they are equal, and the other one if one is not a
number. -/
def least (a b : α) : α :=
  if isNaN b then a else if a < b then a else b

/-- The larger of two numbers, the second if they are equal, and the other one if one is not a
number. -/
def greatest (a b : α) : α :=
  if isNaN b then a else if b < a then a else b

end Scalar

instance : Scalar Float where
  decLt := Float.decLt
  decLe := Float.decLe
  ofInt := Float.ofInt
  ofScientific := Float.ofScientific
  abs := Float.abs
  isNaN := Float.isNaN
  isFinite := Float.isFinite
  nan := 0 / 0
  largest := Float.ofBits 0x7fefffffffffffff
  round low high x := (Double.ofFloat x).round low high
  ofNumeral? n := some n.toFloat
  plain := NumberLayout.plain.write
  detailed := NumberLayout.detailed.write

instance : Hyperbolic Float where
  sinh := Float.sinh
  tanh := Float.tanh

/-- The fraction in lowest terms, as text. -/
def exactText (q : Rat) : String :=
  if q.den = 1 then toString q.num else toString q.num ++ "/" ++ toString q.den

/-- The integer nearest to a fraction, halves away from zero. -/
def roundExact (q : Rat) : Int :=
  let magnitude : Int := Double.nearest q.num.natAbs q.den
  if q.num < 0 then -magnitude else magnitude

/-- Exact arithmetic. Every fraction is a finite number, a written number is that fraction, and the
largest number is that of the doubles. Nothing is missing: `nan` is an unused zero. -/
instance : Scalar Rat where
  decLt := inferInstance
  decLe := inferInstance
  ofInt := Rat.ofInt
  ofScientific := OfScientific.ofScientific
  abs q := if q < 0 then -q else q
  isNaN _ := false
  isFinite _ := true
  nan := 0
  largest := ((2 * Double.leastNormal - 1) * Nat.pow 2 971 : Nat)
  round low high q := Double.clamp low high (roundExact q)
  ofNumeral?
    | .decimal negative digits exponent =>
      let magnitude : Rat :=
        ((digits * Nat.pow 10 exponent.toNat : Nat) : Rat) / (Nat.pow 10 (-exponent).toNat : Nat)
      some (if negative then -magnitude else magnitude)
    | _ => none
  plain := exactText
  detailed := exactText

end Gridded
