import Gridded.Calendar.Scale
import Gridded.Error
import Gridded.Interval

/-!
# Selections

What to keep of a coordinate system, by the roles of its axes. Everything is optional; an axis about
which nothing is said is kept whole. A value goes before a flag for the same role.

* `Selection`: the parameters;
* `Selection.text`: the parameters that are set;
* `Selection.toDocument`, `Selection.ofDocument?`: the exchange form.
-/

namespace Gridded

/-- Index ranges along the horizontal axes. -/
structure HorizontalRanges where
  y : Slice
  x : Slice
  deriving DecidableEq, Repr

/-- What to keep of a coordinate system. -/
structure Selection (α : Type) where
  verticalPoint : Option α := none
  verticalCell : Option (Interval α) := none
  ensemble : Option α := none
  time : Option Instant := none
  latestTime : Bool := false
  runTime : Option Instant := none
  latestRunTime : Bool := false
  timeOffset : Option α := none
  timeOffsetCell : Option (Interval α) := none
  firstTimeOffset : Bool := false
  horizontal : Option HorizontalRanges := none
  deriving DecidableEq, Repr

namespace Selection

variable {α : Type} [Scalar α]

/-- Whether nothing is said. -/
def isEmpty (s : Selection α) : Bool :=
  s.verticalPoint.isNone && s.verticalCell.isNone && s.ensemble.isNone && s.time.isNone &&
    !s.latestTime && s.runTime.isNone && !s.latestRunTime && s.timeOffset.isNone &&
    s.timeOffsetCell.isNone && !s.firstTimeOffset && s.horizontal.isNone

/-- A parameter and its value, if it is set. -/
def part {β : Type} (name : String) (show? : β → String) (value : Option β) : List String :=
  (value.map fun v => name ++ "=" ++ show? v).toList

/-- The name of a flag, if it is set. -/
def flag (name : String) (isSet : Bool) : List String :=
  if isSet then [name] else []

/-- The parameters that are set. -/
def text (s : Selection α) : String :=
  let parts :=
    part "vertPoint" Scalar.plain s.verticalPoint ++
    part "vertIntv" Interval.text s.verticalCell ++
    part "ensCoord" Scalar.plain s.ensemble ++
    part "time" Instant.isoText s.time ++
    flag "timeLatest" s.latestTime ++
    part "runtime" Instant.isoText s.runTime ++
    flag "runtimeLatest" s.latestRunTime ++
    part "timeOffset" Scalar.plain s.timeOffset ++
    part "timeOffsetIntv" Interval.text s.timeOffsetCell ++
    flag "timeOffsetFirst" s.firstTimeOffset ++
    part "horiz" (fun h : HorizontalRanges => "(" ++ h.y.text ++ ", " ++ h.x.text ++ ")") s.horizontal
  "GridSubset\x7b" ++ ", ".intercalate parts ++ "\x7d"

/-- The names of the parameters in the exchange form, in order. -/
def fieldNames : List String :=
  ["vert_point", "vert_intv", "ens_coord", "time", "time_latest", "run_time", "run_time_latest",
    "time_offset", "time_offset_intv", "time_offset_first", "horiz_ranges"]

/-- An optional value in the exchange form. -/
def optionalDocument {β : Type} (write : β → Document) : Option β → Document
  | none => .null
  | some v => write v

/-- An instant in the exchange form. -/
def instantDocument (t : Instant) : Document := .text t.zuluText

/-- The exchange form. -/
def toDocument (s : Selection Float) : Document :=
  .table (fieldNames.zip [
    .ofReal? s.verticalPoint,
    optionalDocument Interval.toDocument s.verticalCell,
    .ofReal? s.ensemble,
    optionalDocument instantDocument s.time,
    .truth s.latestTime,
    optionalDocument instantDocument s.runTime,
    .truth s.latestRunTime,
    .ofReal? s.timeOffset,
    optionalDocument Interval.toDocument s.timeOffsetCell,
    .truth s.firstTimeOffset,
    optionalDocument (fun h : HorizontalRanges =>
      .table [("y", h.y.toDocument), ("x", h.x.toDocument)]) s.horizontal])

/-- Read an instant in the exchange form. -/
def instant? (d : Document) : Option Instant :=
  d.text?.bind Instant.ofZonedLoosely?

/-- Read horizontal ranges in the exchange form. -/
def horizontal? (d : Document) : Option HorizontalRanges :=
  (d.pair? Slice.ofDocument? "y" "x").map fun ranges => ⟨ranges.1, ranges.2⟩

/-- Read the parameters from a look-up of their fields. A parameter without a field is not set. -/
def ofFields? (field? : String → Option Document) : Option (Selection Float) := do
  let value {β : Type} (name : String) (read : Document → Option β) : Option (Option β) :=
    ((field? name).getD .null).optional? read
  let isSet (name : String) : Option Bool := ((field? name).getD (.truth false)).truth?
  return {
    verticalPoint := ← value "vert_point" Document.real?
    verticalCell := ← value "vert_intv" Interval.ofDocument?
    ensemble := ← value "ens_coord" Document.real?
    time := ← value "time" instant?
    latestTime := ← isSet "time_latest"
    runTime := ← value "run_time" instant?
    latestRunTime := ← isSet "run_time_latest"
    timeOffset := ← value "time_offset" Document.real?
    timeOffsetCell := ← value "time_offset_intv" Interval.ofDocument?
    firstTimeOffset := ← isSet "time_offset_first"
    horizontal := ← value "horiz_ranges" horizontal? }

/-- Read the exchange form: a table, in which other fields are skipped, or a list of the first
parameters in order. -/
def ofDocument? : Document → Option (Selection Float)
  | .table fields => ofFields? fun name => fields.lookup name
  | .list items =>
    if items.length ≤ fieldNames.length then
      ofFields? fun name => (fieldNames.zip items).lookup name
    else none
  | _ => none

end Selection

end Gridded
