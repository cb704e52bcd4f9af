import Gridded.Document
import Gridded.Scalar
import Gridded.Text.Lowercase

/-!
# Units of measure

The units in which vertical coordinates are expressed: pressures, lengths and bare numbers. Units
outside the table are unknown, which is not an error.

* `Quantity`: what a unit measures;
* `Measure`: a unit, by its symbol, its quantity and its factor to the base unit;
* `Measure.ofText?`: the unit that a text names;
* `Measure.factorTo?`, `conversionFactor?`: the factor between two units of one quantity.
-/

namespace Gridded

/-- What a unit measures. -/
inductive Quantity
  | pressure | length | dimensionless
  deriving DecidableEq, Repr

/-- The name of a quantity. -/
def Quantity.name : Quantity → String
  | pressure => "Pressure"
  | length => "Length"
  | dimensionless => "Dimensionless"

/-- A unit of measure. -/
structure Measure (α : Type) where
  symbol : String
  quantity : Quantity
  /-- What one unit is in pascals, in meters, or as a bare number. -/
  factor : α
  deriving DecidableEq, Repr

namespace Measure

variable {α : Type} [Scalar α]

/-- The known units: their names in lower case, their quantity and their factor. -/
def known : List (List String × Quantity × α) := [
  (["pa", "pascal", "pascals"], .pressure, 1),
  (["hpa", "hectopascal", "hectopascals"], .pressure, 100),
  (["mbar", "millibar", "millibars", "mb"], .pressure, 100),
  (["kpa", "kilopascal", "kilopascals"], .pressure, 1000),
  (["bar", "bars"], .pressure, 100000),
  (["atm", "atmosphere"], .pressure, 101325),
  (["m", "meter", "meters", "metre", "metres"], .length, 1),
  (["km", "kilometer", "kilometers", "kilometre", "kilometres"], .length, 1000),
  (["cm", "centimeter", "centimeters"], .length, 0.01),
  (["mm", "millimeter", "millimeters"], .length, 0.001),
  (["1", "", "level", "layer", "sigma_level", "dimensionless"], .dimensionless, 1)]

/-- The unit that a text names, up to case and white space around it. -/
def ofText? (text : String) : Option (Measure α) :=
  (known.find? fun row => row.1.contains (Text.foldedName text)).map fun row =>
    ⟨Text.trim text, row.2.1, row.2.2⟩

/-- The base unit of pressure. -/
def pascal : Measure α := ⟨"Pa", .pressure, 1⟩

/-- The base unit of length. -/
def meter : Measure α := ⟨"m", .length, 1⟩

/-- The factor that turns numbers of one unit into numbers of the other. -/
def factorTo? (source target : Measure α) : Option α :=
  if source.quantity = target.quantity then some (source.factor / target.factor) else none

/-- The exchange form. -/
def toDocument (m : Measure Float) : Document :=
  .table [("symbol", .text m.symbol), ("kind", .text m.quantity.name), ("factor", .real m.factor)]

end Measure

/-- The quantity that a unit text measures, if the unit is known. -/
def quantityOf? (text : String) : Option Quantity :=
  (Measure.ofText? (α := Rat) text).map (·.quantity)

/-- Whether a unit text measures a quantity. -/
def measures (quantity : Quantity) (text : String) : Bool :=
  quantityOf? text == some quantity

/-- Whether two unit texts are known and measure the same quantity. -/
def compatibleUnits (a b : String) : Bool :=
  match quantityOf? a, quantityOf? b with
  | some p, some q => p == q
  | _, _ => false

/-- The factor that turns numbers of one unit text into numbers of another. -/
def conversionFactor? {α : Type} [Scalar α] (source target : String) : Option α := do
  (← Measure.ofText? source).factorTo? (← Measure.ofText? target)

end Gridded
