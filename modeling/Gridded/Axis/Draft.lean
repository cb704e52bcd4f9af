import Gridded.Axis.Basic

/-!
# Drafts of axes

An axis is made from a draft, in which everything may still be missing or contradictory.

* `Axis.Draft`: the draft, with `Axis.Draft.regular` to give regular coordinates;
* `Axis.Draft.build`: the checks that turn a draft into an axis;
* `Axis.toDraft`: the draft of an existing axis.
-/

namespace Gridded

namespace Axis

/-- What has been said about an axis so far. -/
structure Draft (α : Type) where
  name : String
  description : Option String
  units : Option String
  kind : Option AxisKind
  attributes : Attributes α
  spacing : Option Spacing
  dependence : Dependence
  parents : List String
  resolution : α
  isSubset : Bool
  /-- The number of coordinates; zero leaves it to the values. -/
  size : Nat
  start : α
  stop : α
  values : Option (List α)
  range : Option Slice

variable {α : Type} [Scalar α]

namespace Draft

/-- Nothing said yet. -/
def blank : Draft α where
  name := ""
  description := none
  units := none
  kind := none
  attributes := Dictionary.empty
  spacing := none
  dependence := .independent
  parents := []
  resolution := 0
  isSubset := false
  size := 0
  start := 0
  stop := 0
  values := none
  range := none

/-- Give regular coordinates. This takes back any values. -/
def regular (d : Draft α) (size : Nat) (start stop step : α) : Draft α :=
  { d with size := size, start := start, stop := stop, resolution := step, values := none }

/-- The number of coordinates, told or counted from the values. -/
def count (d : Draft α) (spacing : Spacing) : Nat :=
  match d.size, d.values with
  | 0, some values => spacing.coordinatesOf values.length
  | size, _ => size

/-- Check the values that a spacing needs, and give the start, the stop and the values to store. -/
def stored (d : Draft α) (spacing : Spacing) (count : Nat) : Except Error (α × α × List α) :=
  if spacing.isRegular then
    if d.values.isSome then .error (.invalidArgument (.regularWithValues d.name))
    else if !Scalar.isFinite d.resolution || !Scalar.isFinite d.start then
      .error (.invalidArgument (.regularNotFinite d.name))
    else .ok (d.start, d.stop, [])
  else
    match d.values with
    | none => .error (.invalidArgument (.noValues spacing d.name))
    | some values =>
      let expected := spacing.valuesLen count
      if values.length = expected then
        .ok (values.getD 0 Scalar.nan, values.getD (expected - 1) Scalar.nan, values)
      else .error (.shapeMismatch d.name [expected] [values.length])

/-- The range of the axis, named after its kind. Unless one was told, it is the whole axis. -/
def rangeFor (d : Draft α) (count : Nat) : Except Error Slice :=
  let named (s : Slice) : Slice :=
    match d.kind with
    | some kind => s.withName kind.name
    | none => s
  match d.range with
  | none => .ok (named (Slice.whole none count))
  | some s =>
    if s.len = count then .ok (named s)
    else .error (.invalidRange (.wrongLength s d.name count))

/-- Check what an axis says about its dependence. -/
def checkDependence (d : Draft α) : Except Error Unit :=
  if d.dependence = .independent ∧ d.kind = none then
    .error (.invalidArgument (.untypedIndependent d.name))
  else if d.dependence = .dependent ∧ d.parents = [] then
    .error (.invalidArgument (.dependentWithoutParents d.name))
  else .ok ()

/-- Check the number of coordinates. -/
def checkCount (d : Draft α) (count : Nat) : Except Error Unit :=
  if count = 0 then .error (.invalidArgument (.noCoordinates d.name))
  else if d.dependence = .scalar ∧ count ≠ 1 then
    .error (.invalidArgument (.scalarCount d.name count))
  else .ok ()

/-- The axis with its coordinates and its range. -/
def assemble (d : Draft α) (spacing : Spacing) (count : Nat) (stored : α × α × List α)
    (range : Slice) : Axis α where
  name := d.name
  description := d.description
  units := d.units
  kind := d.kind
  attributes := d.attributes
  spacing := spacing
  dependence := d.dependence
  parents := d.parents
  resolution := d.resolution
  isSubset := d.isSubset
  size := count
  start := stored.1
  stop := stored.2.1
  values := stored.2.2
  range := range

/-- Make the axis, if the draft is complete and fits together. -/
def build (d : Draft α) : Except Error (Axis α) :=
  match d.spacing with
  | none => .error (.invalidArgument (.noSpacing d.name))
  | some spacing => do
    d.checkDependence
    let count := d.count spacing
    d.checkCount count
    let stored ← d.stored spacing count
    let range ← d.rangeFor count
    return d.assemble spacing count stored range

end Draft

/-- The draft from which the axis would be built again. -/
def toDraft (a : Axis α) : Draft α where
  name := a.name
  description := a.description
  units := a.units
  kind := a.kind
  attributes := a.attributes
  spacing := some a.spacing
  dependence := a.dependence
  parents := a.parents
  resolution := a.resolution
  isSubset := a.isSubset
  size := a.size
  start := a.start
  stop := a.stop
  values := a.values?
  range := some a.range

end Axis

end Gridded
