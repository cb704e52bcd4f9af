import Gridded.System.Basic

/-!
# Subsets of coordinate systems

A selection restricts each free axis by its role. Dependent axes follow the first axis they depend on
that was restricted, and the vertical transform is cut by the same slices.

* `CoordinateSystem.ownRange`: the slice that a selection picks on an axis;
* `CoordinateSystem.Choice`: an axis with its slice and what is kept of it;
* `CoordinateSystem.select`: the restricted system.
-/

namespace Gridded.CoordinateSystem

variable {α : Type} [Scalar α]

/-- Whether an axis is restricted by itself, and not as a part of others. -/
def isFree (a : SystemAxis α) : Bool :=
  match a.axis.dependence with
  | .dependent | .scalar | .twoD => false
  | _ => true

/-- The slice that a selection picks on an axis, or nothing if the axis is not restricted. -/
def ownRange (s : Selection α) (a : SystemAxis α) : Except Error (Option Slice) :=
  if isFree a then
    match a.role? with
    | some .x => .ok (s.horizontal.map (·.x))
    | some .y => .ok (s.horizontal.map (·.y))
    | _ => a.selectedRange s
  else .ok none

/-- An axis, the slice picked on it, and what is kept of it. -/
structure Choice (α : Type) where
  axis : SystemAxis α
  range : Option Slice
  kept : SystemAxis α

/-- Restrict an axis by itself. -/
def choose (s : Selection α) (a : SystemAxis α) : Except Error (Choice α) := do
  let range ← ownRange s a
  return ⟨a, range, ← a.take? range⟩

/-- The slice picked on the axis of a name. -/
def rangeOfName (choices : List (Choice α)) (name : String) : Option Slice :=
  (choices.find? fun c => c.axis.name == name).bind (·.range)

/-- The slice picked on the axis of a role. -/
def rangeOfRole (choices : List (Choice α)) (role : Role) : Option Slice :=
  choices.findSome? fun c => if c.axis.role? = some role then c.range else none

/-- What is kept of an axis: of a dependent one, the part at the slice of the first parent that has
one. -/
def settle (choices : List (Choice α)) (c : Choice α) : Except Error (SystemAxis α) :=
  if c.axis.axis.dependence = .dependent then
    c.axis.take? (c.axis.axis.parents.findSome? (rangeOfName choices))
  else .ok c.kept

/-- The cut of the transform. Time offsets stand in for time. -/
def cutOf (choices : List (Choice α)) : Cut where
  time := (rangeOfRole choices .time).or (rangeOfRole choices .timeOffset)
  z := rangeOfRole choices .vertical
  y := rangeOfRole choices .y
  x := rangeOfRole choices .x

/-- The transform under a cut, or as it is if nothing is cut. -/
def cutTransform (t : VerticalTransform α) (cut : Cut) : Except Error (VerticalTransform α) :=
  if cut = {} then .ok t else t.subset cut

/-- What a selection keeps of the system. -/
def select (sys : CoordinateSystem α) (s : Selection α) : Except Error (CoordinateSystem α) := do
  let choices ← sys.axes.mapM (choose s)
  let axes ← choices.mapM (settle choices)
  let transform ← sys.transform.mapM fun t => cutTransform t (cutOf choices)
  build (some sys.name) axes transform

end Gridded.CoordinateSystem
