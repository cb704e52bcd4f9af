import Gridded.Axis.Listing
import Gridded.Axis.Subset

/-!
# Time axes

An axis of numbers together with the time scale that turns them into dates.

* `TimeAxis`: the axis and its scale;
* `TimeAxis.of`, `TimeAxis.ofUnits`: a time axis with a given scale, or with that of its units;
* `TimeAxis.date?`, `TimeAxis.offset`: the date of a number, and the number of a date;
* `TimeAxis.selectedRange`, `TimeAxis.select`: what a selection keeps, by date.
-/

namespace Gridded

/-- An axis whose numbers count time on a scale. -/
structure TimeAxis (α : Type) where
  axis : Axis α
  scale : TimeScale

namespace TimeAxis

variable {α : Type} [Scalar α]

/-- An axis with a time scale. Its kind, if it has one, must be one of time. -/
def of (axis : Axis α) (scale : TimeScale) : Except Error (TimeAxis α) :=
  match axis.kind with
  | some kind =>
    if kind.isTime then .ok ⟨axis, scale⟩
    else .error (.invalidArgument (.notTimeAxis axis.name kind))
  | none => .ok ⟨axis, scale⟩

/-- An axis with the time scale that its units name. -/
def ofUnits (axis : Axis α) : Except Error (TimeAxis α) :=
  match axis.units with
  | none => .error (.invalidTime (.axisWithoutUnits axis.name))
  | some units => do of axis (← TimeScale.ofText units)

/-- The name of the axis. -/
def name (t : TimeAxis α) : String := t.axis.name

/-- The number of coordinates. -/
def size (t : TimeAxis α) : Nat := t.axis.size

/-- The date of a number, if it is in range. -/
def date? (t : TimeAxis α) (x : α) : Option Instant := t.scale.date? x

/-- The number of a date. -/
def offset (t : TimeAxis α) (date : Instant) : α := t.scale.offset date

/-- The dates of all midpoints, if they are in range. -/
def dates? (t : TimeAxis α) : Option (List Instant) := t.axis.midpoints.mapM t.date?

/-- The slice that a date picks, or else the last index if the latest one is asked for. -/
def pick (t : TimeAxis α) (date : Option Instant) (latest : Bool) : Except Error (Option Slice) :=
  match date with
  | some date => (some ∘ Slice.single) <$> t.axis.closest (t.offset date)
  | none => .ok (if latest then some (Slice.single (t.axis.size - 1)) else none)

/-- The slice that a selection picks, or nothing if the axis is not restricted. -/
def selectedRange (t : TimeAxis α) (s : Selection α) : Except Error (Option Slice) :=
  match t.axis.kind with
  | some .time | none => t.pick s.time s.latestTime
  | some .runTime => t.pick s.runTime s.latestRunTime
  | some _ => t.axis.selectedRange s

/-- The same scale with another axis. -/
def onAxis (t : TimeAxis α) (axis : Except Error (Axis α)) : Except Error (TimeAxis α) :=
  axis.map fun axis => ⟨axis, t.scale⟩

/-- The coordinates at the indices of a slice. -/
def take (t : TimeAxis α) (s : Slice) : Except Error (TimeAxis α) := t.onAxis (t.axis.take s)

/-- What a selection keeps of the axis. -/
def select (t : TimeAxis α) (s : Selection α) : Except Error (TimeAxis α) := do
  t.onAxis (t.axis.take? (← t.selectedRange s))

/-- The coordinate closest to a date. -/
def takeClosest (t : TimeAxis α) (date : Instant) : Except Error (TimeAxis α) :=
  t.onAxis (t.axis.takeClosest (t.offset date))

/-- The coordinates at the indices that were taken from an axis that this one depends on. -/
def follow (t : TimeAxis α) (parent : Axis α) : Except Error (TimeAxis α) :=
  t.onAxis (t.axis.follow parent)

/-- Equality in every field. -/
def same (a b : TimeAxis α) : Bool := a.axis.same b.axis && a.scale == b.scale

/-- All that is known about the axis, with its first and last date if they are in range. -/
def display? (t : TimeAxis α) : Option String := do
  let first ← t.date? (t.axis.midpointAt 0)
  let last ← t.date? (t.axis.midpointAt (t.size - 1))
  return "\n".intercalate (t.axis.lines ++
    ["  date unit: " ++ t.scale.text, "  dates: " ++ first.isoText ++ " to " ++ last.isoText])

/-- The exchange form. -/
def toDocument (t : TimeAxis Float) : Document :=
  .table [("axis", t.axis.toDocument), ("date_unit", t.scale.toDocument)]

end TimeAxis

/-- An axis of a coordinate system: with or without a time scale. -/
inductive SystemAxis (α : Type)
  | plain (axis : Axis α)
  | timed (axis : TimeAxis α)

namespace SystemAxis

variable {α : Type} [Scalar α]

/-- The axis of numbers. -/
def axis : SystemAxis α → Axis α
  | plain a => a
  | timed t => t.axis

/-- The time axis, if it is one. -/
def timed? : SystemAxis α → Option (TimeAxis α)
  | plain _ => none
  | timed t => some t

/-- The name of the axis. -/
def name (a : SystemAxis α) : String := a.axis.name

/-- The role that the axis fills. -/
def role? (a : SystemAxis α) : Option Role := a.axis.role?

/-- The number of coordinates. -/
def size (a : SystemAxis α) : Nat := a.axis.size

/-- The slice that a selection picks, or nothing if the axis is not restricted. -/
def selectedRange (s : Selection α) : SystemAxis α → Except Error (Option Slice)
  | plain a => a.selectedRange s
  | timed t => t.selectedRange s

/-- The coordinates at the indices of a slice. -/
def take (s : Slice) : SystemAxis α → Except Error (SystemAxis α)
  | plain a => plain <$> a.take s
  | timed t => timed <$> t.take s

/-- The slice of an axis if one is given, and otherwise the whole axis. -/
def take? (a : SystemAxis α) : Option Slice → Except Error (SystemAxis α)
  | some s => a.take s
  | none => .ok a

/-- What a selection keeps of the axis. -/
def select (s : Selection α) : SystemAxis α → Except Error (SystemAxis α)
  | plain a => plain <$> a.select s
  | timed t => timed <$> t.select s

/-- The coordinates at the indices that were taken from an axis that this one depends on. -/
def follow (parent : Axis α) : SystemAxis α → Except Error (SystemAxis α)
  | plain a => plain <$> a.follow parent
  | timed t => timed <$> t.follow parent

/-- All that is known about the axis, if its dates are in range. -/
def display? : SystemAxis α → Option String
  | plain a => some a.display
  | timed t => t.display?

end SystemAxis

end Gridded
