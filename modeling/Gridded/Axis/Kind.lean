import Gridded.Text.Lowercase

/-!
# What axes are

* `AxisKind`: the quantity along an axis;
* `Role`: the place of an axis in a coordinate system, in canonical order;
* `Spacing`: how coordinates are laid out, and how many numbers that takes;
* `Dependence`: how an axis relates to the dimensions of the data.
-/

namespace Gridded

/-- The place of an axis in a coordinate system. -/
inductive Role
  | runTime | ensemble | time | timeOffset | vertical | y | x
  deriving DecidableEq, Repr

namespace Role

/-- The roles in canonical order. -/
def all : List Role := [runTime, ensemble, time, timeOffset, vertical, y, x]

/-- The position in canonical order. -/
def rank : Role → Nat
  | runTime => 0
  | ensemble => 1
  | time => 2
  | timeOffset => 3
  | vertical => 4
  | y => 5
  | x => 6

/-- The letter of a role in summaries. -/
def code : Role → String
  | runTime => "R"
  | ensemble => "E"
  | time => "T"
  | timeOffset => "O"
  | vertical => "Z"
  | y => "Y"
  | x => "X"

/-- The name of a role. -/
def name : Role → String
  | runTime => "RunTime"
  | ensemble => "Ensemble"
  | time => "Time"
  | timeOffset => "TimeOffset"
  | vertical => "Vertical"
  | y => "Y"
  | x => "X"

theorem getElem?_all_rank (r : Role) : all[r.rank]? = some r := by
  cases r <;> rfl

end Role

/-- The quantity along an axis. -/
inductive AxisKind
  | runTime | ensemble | time | geoX | geoY | geoZ | lat | lon | height | pressure
  | radialAzimuth | radialDistance | radialElevation | spectral | timeOffset | dimension
  deriving DecidableEq, Repr

namespace AxisKind

/-- The kinds of axes, in the order in which their names are tried. -/
def all : List AxisKind :=
  [runTime, ensemble, time, geoX, geoY, geoZ, lat, lon, height, pressure, radialAzimuth,
    radialDistance, radialElevation, spectral, timeOffset, dimension]

/-- The name of a kind. -/
def name : AxisKind → String
  | runTime => "RunTime"
  | ensemble => "Ensemble"
  | time => "Time"
  | geoX => "GeoX"
  | geoY => "GeoY"
  | geoZ => "GeoZ"
  | lat => "Lat"
  | lon => "Lon"
  | height => "Height"
  | pressure => "Pressure"
  | radialAzimuth => "RadialAzimuth"
  | radialDistance => "RadialDistance"
  | radialElevation => "RadialElevation"
  | spectral => "Spectral"
  | timeOffset => "TimeOffset"
  | dimension => "Dimension"

/-- The kind of a name, up to the case of its letters and white space around it. -/
def ofName? (text : String) : Option AxisKind :=
  all.find? fun kind => Text.eqIgnoringCase kind.name (Text.trim text)

/-- Whether an axis of this kind runs along the ground. -/
def isHorizontal : AxisKind → Bool
  | geoX | geoY | lat | lon => true
  | _ => false

/-- Whether an axis of this kind runs upward or downward. -/
def isVertical : AxisKind → Bool
  | geoZ | height | pressure => true
  | _ => false

/-- Whether an axis of this kind runs along time. -/
def isTime : AxisKind → Bool
  | time | runTime | timeOffset => true
  | _ => false

/-- The role that an axis of this kind fills, if it fills one. -/
def role? : AxisKind → Option Role
  | runTime => some .runTime
  | ensemble => some .ensemble
  | time => some .time
  | timeOffset => some .timeOffset
  | geoZ | height | pressure => some .vertical
  | geoY | lat => some .y
  | geoX | lon => some .x
  | radialAzimuth | radialDistance | radialElevation | spectral | dimension => none

theorem mem_all (kind : AxisKind) : kind ∈ all := by
  cases kind <;> decide

end AxisKind

/-- How coordinates are laid out along an axis. -/
inductive Spacing
  /-- Points `start + i · resolution`. -/
  | regularPoint
  /-- Adjacent cells of width `resolution`. -/
  | regularInterval
  /-- One value for each point. -/
  | irregularPoint
  /-- Adjacent cells, with the value of every edge. -/
  | contiguousInterval
  /-- Cells with two values each. -/
  | discontiguousInterval
  deriving DecidableEq, Repr

namespace Spacing

/-- The spacings, from the most to the least regular. -/
def all : List Spacing :=
  [regularPoint, regularInterval, irregularPoint, contiguousInterval, discontiguousInterval]

/-- The name of a spacing. -/
def name : Spacing → String
  | regularPoint => "regularPoint"
  | regularInterval => "regularInterval"
  | irregularPoint => "irregularPoint"
  | contiguousInterval => "contiguousInterval"
  | discontiguousInterval => "discontiguousInterval"

/-- The spacing of that very name. -/
def ofName? (text : String) : Option Spacing :=
  all.find? (·.name == text)

/-- Whether coordinates follow from a start and a resolution, and no values are stored. -/
def isRegular : Spacing → Bool
  | regularPoint | regularInterval => true
  | _ => false

/-- Whether coordinates are cells rather than points. -/
def isInterval : Spacing → Bool
  | regularInterval | contiguousInterval | discontiguousInterval => true
  | _ => false

/-- How many values are stored for `n` coordinates. -/
def valuesLen (n : Nat) : Spacing → Nat
  | regularPoint | regularInterval => 0
  | irregularPoint => n
  | contiguousInterval => n + 1
  | discontiguousInterval => 2 * n

/-- How many coordinates that many stored values make. -/
def coordinatesOf (count : Nat) : Spacing → Nat
  | regularPoint | regularInterval => 0
  | irregularPoint => count
  | contiguousInterval => count - 1
  | discontiguousInterval => count / 2

theorem coordinatesOf_valuesLen {s : Spacing} (h : s.isRegular = false) (n : Nat) :
    s.coordinatesOf (s.valuesLen n) = n := by
  cases s <;> simp_all [isRegular, coordinatesOf, valuesLen]

theorem ofName?_name (s : Spacing) : ofName? s.name = some s := by
  cases s <;> decide

end Spacing

/-- How an axis relates to the dimensions of the data. -/
inductive Dependence
  /-- The axis is a dimension of its own. -/
  | independent
  /-- The axis follows others, which it names. -/
  | dependent
  /-- A single coordinate without a dimension. -/
  | scalar
  /-- A coordinate with two dimensions. -/
  | twoD
  /-- Offsets from the runs of a forecast collection. -/
  | forecastOffsets
  /-- A dimension without coordinates. -/
  | dimension
  deriving DecidableEq, Repr

namespace Dependence

/-- The ways an axis can relate to the data. -/
def all : List Dependence := [independent, dependent, scalar, twoD, forecastOffsets, dimension]

/-- The name of a dependence. -/
def name : Dependence → String
  | independent => "Independent"
  | dependent => "Dependent"
  | scalar => "Scalar"
  | twoD => "TwoD"
  | forecastOffsets => "FmrcReg"
  | dimension => "Dimension"

/-- The dependence of that very name. -/
def ofName? (text : String) : Option Dependence :=
  all.find? (·.name == text)

instance : Inhabited Dependence := ⟨independent⟩

end Dependence

end Gridded
