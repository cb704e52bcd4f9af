import Gridded.Axis.Word
import Gridded.System.Horizontal
import Gridded.System.Subset
import Gridded.Vertical.Word

/-!
# Subsets of coordinate systems in words

The slices of a selection are composed with those that the axes and the transform remember. Their numbers
stand for words of 64 bits, and a stride that is not a word breaks the selection off.

* `HorizontalGrid.takeWord`: the part of a grid at two slices;
* `CoordinateSystem.selectWord`: the restricted system.
-/

namespace Gridded

variable {α : Type} [Scalar α]

/-- The part of the grid at a slice of the rows and a slice of the columns. -/
def HorizontalGrid.takeWord (g : HorizontalGrid α) (rows columns : Slice) :
    Outcome (HorizontalGrid α) := do
  return ⟨← g.x.takeWord columns, ← g.y.takeWord rows⟩

namespace CoordinateSystem

/-- Restrict an axis by itself. -/
def chooseWord (s : Selection α) (a : SystemAxis α) : Outcome (Choice α) := do
  let range ← ownRange s a
  return ⟨a, range, ← a.takeWord? range⟩

/-- What is kept of an axis: of a dependent one, the part at the slice of the first parent that has
one. -/
def settleWord (choices : List (Choice α)) (c : Choice α) : Outcome (SystemAxis α) :=
  if c.axis.axis.dependence = .dependent then
    c.axis.takeWord? (c.axis.axis.parents.findSome? (rangeOfName choices))
  else return c.kept

/-- The transform under a cut, or as it is if nothing is cut. -/
def cutTransformWord (t : VerticalTransform α) (cut : Cut) : Outcome (VerticalTransform α) :=
  if cut = {} then return t else t.subsetWord cut

/-- What a selection keeps of the system. -/
def selectWord (sys : CoordinateSystem α) (s : Selection α) : Outcome (CoordinateSystem α) := do
  let choices ← sys.axes.mapM (chooseWord s)
  let axes ← choices.mapM (settleWord choices)
  let transform ← sys.transform.mapM fun t => cutTransformWord t (cutOf choices)
  build (some sys.name) axes transform

end CoordinateSystem

end Gridded
