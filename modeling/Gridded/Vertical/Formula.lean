import Gridded.Text.Lowercase

/-!
# Vertical formulas

The formulas that turn the vertical coordinate of a model into a height or a pressure.

* `Formula`: the kinds of formulas, with their two names;
* `Formula.ofStandardName?`, `Formula.ofName?`: the formula of a name;
* `Formula.termLists`: the terms that a formula needs.
-/

namespace Gridded

/-- A kind of vertical formula. -/
inductive Formula
  | atmosSigma | hybridSigmaPressure | hybridHeight | oceanSigma | oceanS | oceanSG1 | oceanSG2
  | existingField
  deriving DecidableEq, Repr

namespace Formula

/-- The formulas, in the order in which their names are tried. -/
def all : List Formula :=
  [atmosSigma, hybridSigmaPressure, hybridHeight, oceanSigma, oceanS, oceanSG1, oceanSG2,
    existingField]

/-- The standard name of the vertical coordinate. -/
def standardName : Formula → String
  | atmosSigma => "atmosphere_sigma_coordinate"
  | hybridSigmaPressure => "atmosphere_hybrid_sigma_pressure_coordinate"
  | hybridHeight => "atmosphere_hybrid_height_coordinate"
  | oceanSigma => "ocean_sigma_coordinate"
  | oceanS => "ocean_s_coordinate"
  | oceanSG1 => "ocean_s_coordinate_g1"
  | oceanSG2 => "ocean_s_coordinate_g2"
  | existingField => "existing3DField"

/-- The short name. -/
def name : Formula → String
  | atmosSigma => "AtmosSigma"
  | hybridSigmaPressure => "HybridSigmaPressure"
  | hybridHeight => "HybridHeight"
  | oceanSigma => "OceanSigma"
  | oceanS => "OceanS"
  | oceanSG1 => "OceanSG1"
  | oceanSG2 => "OceanSG2"
  | existingField => "Existing3DField"

/-- The formula of that very standard name, up to white space around it. -/
def ofStandardName? (text : String) : Option Formula :=
  all.find? fun formula => formula.standardName == Text.trim text

/-- The formula of a standard name or a short name, up to case and white space around it. -/
def ofName? (text : String) : Option Formula :=
  all.find? fun formula =>
    Text.eqIgnoringCase formula.standardName (Text.trim text) ||
      Text.eqIgnoringCase formula.name (Text.trim text)

/-- Whether the coordinate is a pressure. -/
def isPressure : Formula → Bool
  | atmosSigma | hybridSigmaPressure => true
  | _ => false

/-- The lists of terms that a formula can do with. -/
def termLists : Formula → List (List String)
  | atmosSigma => [["sigma", "ps", "ptop"]]
  | hybridSigmaPressure => [["a", "b", "ps", "p0"], ["ap", "b", "ps"]]
  | hybridHeight => [["a", "b", "orog"]]
  | oceanSigma => [["sigma", "eta", "depth"]]
  | oceanS => [["s", "eta", "depth", "a", "b", "depth_c"]]
  | oceanSG1 => [["s", "C", "eta", "depth", "depth_c"]]
  | oceanSG2 => [["s", "C", "eta", "depth", "depth_c"]]
  | existingField => []

theorem mem_all (formula : Formula) : formula ∈ all := by
  cases formula <;> decide

end Formula

end Gridded
