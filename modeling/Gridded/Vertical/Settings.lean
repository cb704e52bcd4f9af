import Gridded.Document
import Gridded.Error
import Gridded.Measure

/-!
# Settings

How vertical transforms treat time indices and units.

* `Settings`: the choices, with their defaults;
* `Settings.ofEnvironment`: the choices made by environment variables;
* `Settings.validate`: the check of the output unit;
* `Settings.toDocument`, `Settings.ofDocument?`: the exchange form.
-/

namespace Gridded

/-- The choices that all vertical transforms share. -/
structure Settings where
  /-- Whether a transform without time steps refuses every time index but the first. -/
  strictTimeIndex : Bool := false
  /-- Whether terms are converted to the unit of the term they are combined with. -/
  convertTermUnits : Bool := true
  /-- The unit of pressures that are given out, if not that of the surface pressure. -/
  outputPressureUnit : Option String := none
  deriving DecidableEq, Repr

namespace Settings

/-- What the text of a flag says. -/
def flag (text : String) : Bool :=
  Text.eqIgnoringCase text "true" || text == "1"

/-- A text without white space around it, unless nothing is left. -/
def trimmed? (text : String) : Option String :=
  if Text.trim text = "" then none else some (Text.trim text)

/-- The choices that environment variables make; `lookup` gives their values. -/
def ofEnvironment (lookup : String → Option String) : Settings where
  strictTimeIndex := ((lookup "VT_STRICT_TIME_INDEX").map flag).getD false
  convertTermUnits := ((lookup "VT_CONVERT_TERM_UNITS").map flag).getD true
  outputPressureUnit := (lookup "VT_PRESSURE_UNIT").bind trimmed?

/-- Check that pressures can be given out in the unit. -/
def validate (s : Settings) : Except ArgumentFault Unit :=
  match s.outputPressureUnit with
  | none => .ok ()
  | some unit => if measures .pressure unit then .ok () else .error (.notPressureUnit unit)

/-- The diagnostic form. -/
def listing (s : Settings) : String :=
  Listing.record "VerticalTransformConfig" [
    ("strict_time_index", Listing.truth s.strictTimeIndex),
    ("convert_term_units", Listing.truth s.convertTermUnits),
    ("output_pressure_unit", Listing.optionalText s.outputPressureUnit)]

/-- The exchange form. -/
def toDocument (s : Settings) : Document :=
  .table [
    ("strict_time_index", .truth s.strictTimeIndex),
    ("convert_term_units", .truth s.convertTermUnits),
    ("output_pressure_unit", .ofText? s.outputPressureUnit)]

/-- Read the exchange form, as a table or as a list in the order of the fields. Only the unit may be
absent from a table. -/
def ofDocument? : Document → Option Settings
  | .list [strict, convert, unit] => do
    return ⟨← strict.truth?, ← convert.truth?, ← unit.optional? Document.text?⟩
  | .table fields => do
    let d := Document.table fields
    return {
      strictTimeIndex := ← (← d.field? "strict_time_index").truth?
      convertTermUnits := ← (← d.field? "convert_term_units").truth?
      outputPressureUnit := ← (d.get "output_pressure_unit").optional? Document.text? }
  | _ => none

end Settings

end Gridded
