import Gridded.Axis.Timed
import Gridded.System.Horizontal
import Gridded.Vertical.Transform

/-!
# Coordinate systems

The axes of a gridded variable, at most one for each role, with an optional vertical transform. A
system always has an X axis and a Y axis, and its times are dated.

* `CoordinateSystem`: the axes and the transform;
* `CoordinateSystem.build`: the checks that the axes fit together;
* `CoordinateSystem.axisOf?`, `CoordinateSystem.nominalShape`: the axes by role;
* `CoordinateSystem.summary`, `CoordinateSystem.show?`: the system as text.
-/

namespace Gridded

/-- The axes of a gridded variable. -/
structure CoordinateSystem (α : Type) where
  name : String
  axes : List (SystemAxis α)
  horizontal : HorizontalGrid α
  transform : Option (VerticalTransform α)

namespace CoordinateSystem

variable {α : Type} [Scalar α]

/-! ### Axes by role -/

/-- The axis of a list that fills a role. -/
def filling (axes : List (SystemAxis α)) (role : Role) : Option (SystemAxis α) :=
  axes.find? fun a => a.role? = some role

/-- The axis that fills a role. -/
def axisOf? (s : CoordinateSystem α) (role : Role) : Option (SystemAxis α) :=
  filling s.axes role

/-- The axis of a name. -/
def find? (s : CoordinateSystem α) (name : String) : Option (SystemAxis α) :=
  s.axes.find? (·.name == name)

/-- The dated axis of the runs. -/
def runTimeAxis? (s : CoordinateSystem α) : Option (TimeAxis α) :=
  (s.axisOf? .runTime).bind SystemAxis.timed?

/-- The dated axis of time. -/
def timeAxis? (s : CoordinateSystem α) : Option (TimeAxis α) :=
  (s.axisOf? .time).bind SystemAxis.timed?

/-- Whether an axis is a dimension of the data, as all are but those that follow others and those of
one coordinate. -/
def isDimension (a : SystemAxis α) : Bool :=
  match a.axis.dependence with
  | .scalar | .dependent => false
  | _ => true

/-- The roles whose axes are dimensions of the data, with their axes, in canonical order. -/
def dimensions (s : CoordinateSystem α) : List (Role × SystemAxis α) :=
  Role.all.filterMap fun role =>
    ((s.axisOf? role).filter isDimension).map fun a => (role, a)

/-- The sizes of the dimensions in canonical order. -/
def nominalShape (s : CoordinateSystem α) : List Nat :=
  s.dimensions.map (·.2.size)

/-! ### Building -/

/-- Check one more axis against those before it. -/
def checkNext (before : List (SystemAxis α)) (a : SystemAxis α) : Except Error Unit :=
  if before.any (·.name == a.name) then .error (.invalidArgument (.duplicateName a.name))
  else
    match a.role? with
    | none => .ok ()
    | some role =>
      match filling before role with
      | some other => .error (.invalidArgument (.sharedRole other.name a.name role))
      | none =>
        if (role = .time ∨ role = .runTime) ∧ a.timed?.isNone then
          .error (.invalidArgument (.undatedRole role a.name))
        else .ok ()

/-- Check axes one by one, after those in `before`. -/
def checkEach (before : List (SystemAxis α)) : List (SystemAxis α) → Except Error Unit
  | [] => .ok ()
  | a :: rest => do
    checkNext before a
    checkEach (before ++ [a]) rest

/-- Check that the axes that others follow are there. -/
def checkParents (axes : List (SystemAxis α)) : Except Error Unit :=
  axes.forM fun a =>
    match a.axis.parents.find? fun parent => !axes.any (·.name == parent) with
    | some parent => .error (.invalidArgument (.unknownParent a.name parent))
    | none => .ok ()

/-- The axis that fills a role which must be filled. -/
def required (axes : List (SystemAxis α)) (role : Role) : Except Error (Axis α) :=
  match filling axes role with
  | some a => .ok a.axis
  | none => .error (.invalidArgument (.noAxis role))

/-- The names of the axes with a role, in canonical order. -/
def defaultName (axes : List (SystemAxis α)) : String :=
  " ".intercalate (Role.all.filterMap fun role => (filling axes role).map SystemAxis.name)

/-- Make a system from axes that fit together. -/
def build (name : Option String) (axes : List (SystemAxis α))
    (transform : Option (VerticalTransform α)) : Except Error (CoordinateSystem α) := do
  checkEach [] axes
  checkParents axes
  let x ← required axes .x
  let y ← required axes .y
  let horizontal ← HorizontalGrid.of x y
  return ⟨name.getD (defaultName axes), axes, horizontal, transform⟩

/-! ### Text -/

/-- The letters of the dimensions, as `GRID(T,Z,Y,X)`. -/
def summary (s : CoordinateSystem α) : String :=
  "GRID(" ++ ",".intercalate (s.dimensions.map (·.1.code)) ++ ")"

/-- A text with every line but the first indented. -/
def indented (text : String) : String :=
  String.ofList (text.toList.flatMap fun c => if c = '\n' then ['\n', ' ', ' '] else [c])

/-- The text about one axis: one line, or all that is known if its dates are in range. -/
def axisText? (full : Bool) (a : SystemAxis α) : Option String :=
  if full then a.display?.map indented else some a.axis.summary

/-- The text about a transform. -/
def transformText (t : VerticalTransform α) : String :=
  "vertical transform: " ++ t.name ++ " (" ++ t.formula.name ++ ")"

/-- The text about the system, with its axes in one line each or in full. -/
def show? (s : CoordinateSystem α) (full : Bool) : Option String := do
  let axes ← s.axes.mapM (axisText? full)
  return "\n  ".intercalate
    ([s.name ++ " " ++ s.summary] ++ axes ++ (s.transform.map transformText).toList)

end CoordinateSystem

end Gridded
