import Gridded.Axis.Basic
import Gridded.Data.Tensor

/-!
# Axes as arrays

* `Axis.midpointArray`: the midpoints, without a dimension if the axis has none;
* `Axis.edgeArray`: the two edges of each cell, a row for each.
-/

namespace Gridded.Axis

variable {α : Type} [Scalar α]

/-- The midpoints as an array, which for a scalar axis is a single number. -/
def midpointArray (a : Axis α) : Tensor α :=
  if a.dependence = .scalar then .scalar (a.midpointAt 0) else .ofList a.midpoints

/-- The edges as an array of two columns. -/
def edgeArray (a : Axis α) : Tensor α :=
  .generate2 a.size 2 fun i side => if side = 0 then a.edge1At i else a.edge2At i

end Gridded.Axis
