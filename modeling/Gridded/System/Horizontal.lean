import Gridded.Axis.Listing
import Gridded.Axis.Subset

/-!
# Horizontal grids

The X and the Y axis of a grid.

* `HorizontalGrid`: the two axes, made by `HorizontalGrid.of`;
* `HorizontalGrid.closest`: the cell closest to a point;
* `HorizontalGrid.take`: the part of the grid at two slices.
-/

namespace Gridded

/-- The axes along the ground. -/
structure HorizontalGrid (α : Type) where
  x : Axis α
  y : Axis α

namespace HorizontalGrid

variable {α : Type} [Scalar α]

/-- Check that an axis fills a role. -/
def checkRole (axis : Axis α) (role : Role) : Except Error Unit :=
  if axis.role? = some role then .ok ()
  else .error (.invalidArgument (.wrongRole axis.name axis.kind role))

/-- The grid of an X axis and a Y axis. -/
def of (x y : Axis α) : Except Error (HorizontalGrid α) := do
  checkRole x .x
  checkRole y .y
  return ⟨x, y⟩

/-- Whether the axes are longitude and latitude. -/
def isLatLon (g : HorizontalGrid α) : Bool :=
  g.x.kind == some .lon && g.y.kind == some .lat

/-- The numbers of rows and of columns. -/
def shape (g : HorizontalGrid α) : List Nat := [g.y.size, g.x.size]

/-- The column and the row of the cell closest to a point. -/
def closest (g : HorizontalGrid α) (x y : α) : Except Error (Nat × Nat) := do
  return (← g.x.closest x, ← g.y.closest y)

/-- The part of the grid at a slice of the rows and a slice of the columns. -/
def take (g : HorizontalGrid α) (rows columns : Slice) : Except Error (HorizontalGrid α) := do
  return ⟨← g.x.take columns, ← g.y.take rows⟩

/-- The exchange form. -/
def toDocument (g : HorizontalGrid Float) : Document :=
  .table [("x_axis", g.x.toDocument), ("y_axis", g.y.toDocument)]

end HorizontalGrid

end Gridded
