import Gridded.Attributes
import Gridded.Error
import Gridded.Extent
import Gridded.Interval

/-!
# Axes

The coordinates along one dimension of a grid. A regular axis is given by its start and its
resolution; any other axis stores values. Edges and midpoints follow from them.

| spacing               | first edge                    | second edge                   | midpoint                      |
|-----------------------|-------------------------------|-------------------------------|-------------------------------|
| regularPoint          | `start + (i - 1/2) · res`     | `start + (i + 1/2) · res`     | `start + i · res`             |
| regularInterval       | `start + i · res`             | `start + (i + 1) · res`       | `start + (i + 1/2) · res`     |
| irregularPoint        | halfway to the point before   | halfway to the point after    | `v[i]`                        |
| contiguousInterval    | `v[i]`                        | `v[i + 1]`                    | halfway between the edges     |
| discontiguousInterval | `v[2i]`                       | `v[2i + 1]`                   | halfway between the edges     |

The end cells of irregular points reach half a step beyond the outermost points. A single irregular
point has a cell of no width.

* `Axis`: the data;
* `Axis.edge1At`, `Axis.edge2At`, `Axis.midpointAt`, `Axis.cellAt`: the coordinates by index;
* `Axis.edge1`, `Axis.edge2`, `Axis.midpoint`, `Axis.cell`: the same with a check of the index;
* `Axis.isAscending`, `Axis.extent`: direction and extent of the axis;
* `Axis.coordinates`: all coordinates.
-/

namespace Gridded

/-- The coordinates along one dimension, with what is known about them. -/
structure Axis (α : Type) where
  name : String
  description : Option String
  units : Option String
  kind : Option AxisKind
  attributes : Attributes α
  spacing : Spacing
  dependence : Dependence
  /-- The axes that a dependent axis follows. -/
  parents : List String
  /-- The distance of neighbours on a regular axis; mere information on others. -/
  resolution : α
  /-- Whether the axis was taken from another one. -/
  isSubset : Bool
  /-- The number of coordinates. -/
  size : Nat
  start : α
  stop : α
  /-- The stored values; none on a regular axis. -/
  values : List α
  /-- The indices of the coordinates on the axis from which this one was first taken. -/
  range : Slice

/-- A coordinate: a point or a cell. -/
inductive Coordinate (α : Type)
  | point (value : α)
  | cell (interval : Interval α)

namespace Coordinate

variable {α : Type} [Scalar α]

/-- The point, or the center of the cell. -/
def midpoint : Coordinate α → α
  | point x => x
  | cell interval => interval.midpoint

end Coordinate

namespace Axis

variable {α : Type} [Scalar α]

/-- A stored value. -/
def value (a : Axis α) (i : Nat) : α :=
  a.values.getD i Scalar.nan

/-! ### Coordinates by index -/

/-- The first edge of a cell. -/
def edge1At (a : Axis α) (i : Nat) : α :=
  match a.spacing with
  | .regularPoint => a.start + (Scalar.ofNat i - 0.5) * a.resolution
  | .regularInterval => a.start + Scalar.ofNat i * a.resolution
  | .irregularPoint =>
    if a.size = 1 then a.value 0
    else if 0 < i then (a.value (i - 1) + a.value i) / 2
    else a.value 0 - (a.value 1 - a.value 0) / 2
  | .contiguousInterval => a.value i
  | .discontiguousInterval => a.value (2 * i)

/-- The second edge of a cell. -/
def edge2At (a : Axis α) (i : Nat) : α :=
  match a.spacing with
  | .regularPoint => a.start + (Scalar.ofNat i + 0.5) * a.resolution
  | .regularInterval => a.start + Scalar.ofNat (i + 1) * a.resolution
  | .irregularPoint =>
    if a.size = 1 then a.value 0
    else if i < a.size - 1 then (a.value i + a.value (i + 1)) / 2
    else a.value (a.size - 1) + (a.value (a.size - 1) - a.value (a.size - 2)) / 2
  | .contiguousInterval => a.value (i + 1)
  | .discontiguousInterval => a.value (2 * i + 1)

/-- The point, or the center of a cell. -/
def midpointAt (a : Axis α) (i : Nat) : α :=
  match a.spacing with
  | .regularPoint => a.start + Scalar.ofNat i * a.resolution
  | .regularInterval => a.start + (Scalar.ofNat i + 0.5) * a.resolution
  | .irregularPoint => a.value i
  | .contiguousInterval | .discontiguousInterval => (a.edge1At i + a.edge2At i) / 2

/-- A cell. -/
def cellAt (a : Axis α) (i : Nat) : Interval α :=
  ⟨a.edge1At i, a.edge2At i⟩

/-- A coordinate, a cell if the spacing has cells. -/
def coordinateAt (a : Axis α) (i : Nat) : Coordinate α :=
  if a.spacing.isInterval then .cell (a.cellAt i) else .point (a.midpointAt i)

/-! ### Coordinates by checked index -/

/-- What a function gives at an index of the axis. -/
def checked {β : Type} (a : Axis α) (i : Nat) (f : Nat → β) : Except Error β :=
  if i < a.size then .ok (f i) else .error (.indexOutOfRange i a.size)

/-- The first edge of a cell. -/
def edge1 (a : Axis α) (i : Nat) : Except Error α := a.checked i a.edge1At

/-- The second edge of a cell. -/
def edge2 (a : Axis α) (i : Nat) : Except Error α := a.checked i a.edge2At

/-- The point, or the center of a cell. -/
def midpoint (a : Axis α) (i : Nat) : Except Error α := a.checked i a.midpointAt

/-- A cell. -/
def cell (a : Axis α) (i : Nat) : Except Error (Interval α) := a.checked i a.cellAt

omit [Scalar α] in
@[simp] theorem checked_of_lt {β : Type} {a : Axis α} {i : Nat} (h : i < a.size) (f : Nat → β) :
    a.checked i f = .ok (f i) := if_pos h

omit [Scalar α] in
@[simp] theorem checked_of_le {β : Type} {a : Axis α} {i : Nat} (h : a.size ≤ i) (f : Nat → β) :
    a.checked i f = .error (.indexOutOfRange i a.size) := if_neg (Nat.not_lt.mpr h)

/-! ### The axis as a whole -/

/-- The indices of the coordinates. -/
def indices (a : Axis α) : List Nat := List.range a.size

/-- All coordinates in order. -/
def coordinates (a : Axis α) : List (Coordinate α) := a.indices.map a.coordinateAt

/-- All midpoints in order. -/
def midpoints (a : Axis α) : List α := a.indices.map a.midpointAt

/-- All cells in order. -/
def cells (a : Axis α) : List (Interval α) := a.indices.map a.cellAt

/-- The stored values, if the spacing stores any. -/
def values? (a : Axis α) : Option (List α) :=
  if a.spacing.isRegular then none else some a.values

/-- Whether coordinates increase. Of stored values only the first and the last are compared, so cells
in disorder can mislead this test. -/
def isAscending (a : Axis α) : Bool :=
  match a.spacing with
  | .regularPoint | .regularInterval => 0 < a.resolution
  | .irregularPoint => a.value 0 ≤ a.value (a.size - 1)
  | .contiguousInterval => a.value 0 ≤ a.value a.size
  | .discontiguousInterval => a.value 0 ≤ a.value (2 * a.size - 1)

/-- The extent of the axis, edges included. -/
def extent (a : Axis α) : Extent α :=
  match a.spacing with
  | .discontiguousInterval => Extent.ofList a.values
  | _ => Extent.between (a.edge1At 0) (a.edge2At (a.size - 1))

/-- Every index, as a slice named after the kind of axis. A scalar axis has no dimension to slice. -/
def indexRange (a : Axis α) : Slice :=
  if a.dependence = .scalar then Slice.empty
  else Slice.whole (a.kind.map AxisKind.name) a.size

/-- The role that the axis fills. -/
def role? (a : Axis α) : Option Role := a.kind.bind AxisKind.role?

/-- Equality in every field, numbers being compared as numbers. -/
def same (a b : Axis α) : Bool :=
  a.name == b.name && a.description == b.description && a.units == b.units && a.kind == b.kind &&
    a.attributes.same b.attributes && a.spacing == b.spacing && a.dependence == b.dependence &&
    a.parents == b.parents && a.resolution == b.resolution && a.isSubset == b.isSubset &&
    a.size == b.size && a.start == b.start && a.stop == b.stop && a.values == b.values &&
    a.range == b.range

end Axis

end Gridded
