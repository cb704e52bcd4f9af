import Gridded.Axis.Basic

/-!
# Nearest coordinates

The coordinate of an axis that is closest to a number or to a cell. The first of equally close ones
is taken.

* `firstLeast`: the first index at which a distance is least;
* `Axis.closest`: the search for a number, in which cells that contain it come first;
* `Axis.closestCell`: the search for a cell, by both edges.
-/

namespace Gridded

variable {α : Type} [Scalar α]

/-- The better of the best index so far and the next one, which has to be strictly nearer. -/
def nearer (distance : Nat → α) (best : Option Nat) (i : Nat) : Option Nat :=
  match best with
  | none => some i
  | some b => if distance i < distance b then some i else some b

/-- The first of the given indices at which the distance is least. -/
def firstLeast (distance : Nat → α) (indices : List Nat) : Option Nat :=
  indices.foldl (nearer distance) none

namespace Axis

/-- The distance of a midpoint from a number. -/
def distanceTo (a : Axis α) (target : α) (i : Nat) : α :=
  Scalar.abs (a.midpointAt i - target)

/-- The distance of both edges of a cell from those of another. -/
def distanceToCell (a : Axis α) (target : Interval α) (i : Nat) : α :=
  Scalar.abs (a.edge1At i - target.start) + Scalar.abs (a.edge2At i - target.stop)

/-- The indices of the cells that contain a number; none on an axis of points. -/
def containing (a : Axis α) (target : α) : List Nat :=
  if a.spacing.isInterval then a.indices.filter fun i => (a.cellAt i).contains target else []

/-- The index that a search found. -/
def found (a : Axis α) : Option Nat → Except Error Nat
  | some i => .ok i
  | none => .error (.invalidState (.emptyAxis a.name))

/-- The index of the coordinate closest to a number. A cell that contains the number is preferred to
one whose center is merely nearer. -/
def closest (a : Axis α) (target : α) : Except Error Nat :=
  if Scalar.isNaN target then .error (.invalidArgument (.searchForNaN a.name))
  else
    let distance := a.distanceTo target
    a.found ((firstLeast distance (a.containing target)).or (firstLeast distance a.indices))

/-- The index of the coordinate closest to a cell. On an axis of points the center of the cell is
searched for. -/
def closestCell (a : Axis α) (target : Interval α) : Except Error Nat :=
  if Scalar.isNaN target.start || Scalar.isNaN target.stop then
    .error (.invalidArgument (.searchForInterval a.name target.text))
  else if a.spacing.isInterval then a.found (firstLeast (a.distanceToCell target) a.indices)
  else a.closest target.midpoint

end Axis

end Gridded
