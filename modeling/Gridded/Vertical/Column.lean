import Gridded.Scalar

/-!
# Columns

The formulas of vertical coordinates at one point of the ground. Each takes numbers by level, and one
or two numbers of the point: the surface pressure, the height of the ground, or the height of the
water surface and the depth of the sea.

* `stretching`: the curve that draws the levels of the ocean toward the surface and the bottom;
* `Column`: the numbers by level of each formula;
* `Column.coordinate`: the formulas.
-/

namespace Gridded

variable {α : Type} [Scalar α]

/-- The stretching curve for a control `a` of the surface and a control `b` of the bottom. It tends to
`s` as `a` goes to zero. -/
def stretching [Hyperbolic α] (s a b : α) : α :=
  if Scalar.abs a < 1e-12 then s
  else
    (1 - b) * Hyperbolic.sinh (a * s) / Hyperbolic.sinh a
      + b * (Hyperbolic.tanh (a * (s + 0.5)) / (2 * Hyperbolic.tanh (0.5 * a)) - 0.5)

/-- The numbers by level of a formula. -/
inductive Column (α : Type)
  /-- A pressure between a top pressure and that of the surface. -/
  | sigma (sigma : List α) (top outFactor : α)
  /-- A pressure with an offset and a share of that of the surface. -/
  | hybridPressure (offset share : List α) (outFactor : α)
  /-- A height with an offset and a share of that of the ground. -/
  | hybridHeight (offset share : List α)
  /-- A height between the bottom of the sea and its surface. -/
  | oceanSigma (sigma : List α)
  /-- A height with a stretched share of the depth, to which the surface adds. -/
  | stretched (s curve : List α) (critical : α)
  /-- A height with a stretched share of the water column. -/
  | blended (s curve : List α) (critical : α)
  deriving DecidableEq, Repr

namespace Column

/-- A number by level. -/
def level (xs : List α) (k : Nat) : α := xs.getD k Scalar.nan

omit [Scalar α] in
/-- The number of levels. -/
def size : Column α → Nat
  | sigma xs _ _ => xs.length
  | hybridPressure _ share _ => share.length
  | hybridHeight offset _ => offset.length
  | oceanSigma xs => xs.length
  | stretched s _ _ => s.length
  | blended s _ _ => s.length

omit [Scalar α] in
/-- The curve of the levels, of a formula that has one. -/
def curve : Column α → List α
  | stretched _ curve _ | blended _ curve _ => curve
  | _ => []

/-- The share of the depth at a level, before the surface adds to it. -/
def stretchedShare (s curve critical depth : α) : α :=
  critical * s + (depth - critical) * curve

/-- The share of the water column at a level, between -1 at the bottom and 0 at the surface. -/
def blendedShare (s curve critical depth : α) : α :=
  (critical * s + depth * curve) / (critical + depth)

/-- The coordinate of a level where the surface is at `surface` and, in the ocean, the depth is
`depth`. -/
def coordinate (c : Column α) (k : Nat) (surface depth : α) : α :=
  match c with
  | sigma xs top outFactor => (top + level xs k * (surface - top)) * outFactor
  | hybridPressure offset share outFactor => (level offset k + level share k * surface) * outFactor
  | hybridHeight offset share => level offset k + level share k * surface
  | oceanSigma xs => surface + level xs k * (depth + surface)
  | stretched s curve critical =>
    let share := stretchedShare (level s k) (level curve k) critical depth
    share + surface * (1 + share / depth)
  | blended s curve critical =>
    surface + (surface + depth) * blendedShare (level s k) (level curve k) critical depth

end Column

end Gridded
