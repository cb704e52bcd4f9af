import Gridded.Axis.Basic

/-!
# Axes as text

* `Axis.summary`, `Axis.display`: one line, and all that is known;
* `Axis.toDocument`: the exchange form.
-/

namespace Gridded.Axis

variable {α : Type} [Scalar α]

/-- One line about the axis. -/
def summary (a : Axis α) : String :=
  a.name ++ " (" ++ (a.kind.map AxisKind.name).getD "" ++ ") npts=" ++ toString a.size ++
    " [" ++ Scalar.plain a.start ++ ", " ++ Scalar.plain a.stop ++ "] " ++ a.spacing.name ++
    " resolution=" ++ Scalar.plain a.resolution ++ " range=" ++ a.range.text

/-- The lines about the axis. -/
def lines (a : Axis α) : List String :=
  [a.summary] ++
    (a.units.map ("  units: " ++ ·)).toList ++
    (a.description.map ("  description: " ++ ·)).toList ++
    ["  dependence: " ++ a.dependence.name ++
      (if a.parents.isEmpty then "" else " on " ++ ",".intercalate a.parents)] ++
    (a.values?.map fun values => "  values: " ++ Listing.list (values.map Scalar.detailed)).toList

/-- All that is known about the axis. -/
def display (a : Axis α) : String :=
  "\n".intercalate a.lines

/-- The exchange form. -/
def toDocument (a : Axis Float) : Document :=
  .table [
    ("name", .text a.name),
    ("description", .ofText? a.description),
    ("units", .ofText? a.units),
    ("axis_type", .ofText? (a.kind.map AxisKind.name)),
    ("attributes", a.attributes.toDocument),
    ("spacing", .text a.spacing.name),
    ("dependence_type", .text a.dependence.name),
    ("depends_on", .list (a.parents.map .text)),
    ("resolution", .real a.resolution),
    ("is_subset", .truth a.isSubset),
    ("ncoords", .whole a.size),
    ("start_value", .real a.start),
    ("end_value", .real a.stop),
    ("values", .list (a.values.map .real)),
    ("range", a.range.toDocument)]

end Gridded.Axis
