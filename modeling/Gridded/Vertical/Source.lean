import Gridded.Vertical.Column
import Gridded.Vertical.Recipe
import Gridded.Vertical.Transform

/-!
# Sources of vertical coordinates

* `VerticalBase`: what every source of this library carries, with the checks of time and point;
* `FormulaSource`: a formula over horizontal terms;
* `StoredSource`: a coordinate that the dataset holds itself;
* the makers of the eight kinds of sources from a recipe.
-/

namespace Gridded

/-- What every source carries. -/
structure VerticalBase (α : Type) where
  name : String
  formula : Formula
  unit : Option String
  shape : GridShape
  times : Option Nat
  strictTimeIndex : Bool
  dataset : Dataset α

namespace VerticalBase

variable {α : Type} [Scalar α]

/-- The time step that is read for an index. Without time steps the index does not matter, unless the
settings are strict. -/
def timeStep (b : VerticalBase α) (time : Nat) : Except Error Nat :=
  match b.times with
  | some n => if n ≤ time then .error (.invalidTimeIndex time n) else .ok time
  | none =>
    if b.strictTimeIndex ∧ time ≠ 0 then .error (.invalidTimeIndex time 1) else .ok 0

/-- Check that a point lies on the grid. -/
def checkPoint (b : VerticalBase α) (x y : Nat) : Except Error Unit :=
  if b.shape.columns ≤ x then .error (.indexOutOfRange x b.shape.columns)
  else if b.shape.rows ≤ y then .error (.indexOutOfRange y b.shape.rows)
  else .ok ()

/-- The diagnostic form. -/
def listing (b : VerticalBase α) : String :=
  Listing.openRecord "TransformBase" [
    ("name", Text.quote b.name),
    ("unit", Listing.optionalText b.unit),
    ("shape", Listing.counts b.shape.toList),
    ("ntimes", Listing.optional toString b.times)]

/-- A source on this base. -/
def source (b : VerticalBase α) (array : Nat → Except Error (Tensor α))
    (profile : Nat → Nat → Nat → Except Error (List α)) (listing : String) :
    VerticalSource α where
  name := b.name
  formula := b.formula
  unit := b.unit
  shape := b.shape
  times := b.times
  array := array
  profile := profile
  listing := listing

end VerticalBase

/-- The base of a transform that a recipe makes. -/
def Recipe.base {α : Type} (r : Recipe α) (formula : Formula) (shape : GridShape)
    (times : Option Nat) (unit : Option String) : VerticalBase α where
  name := r.name
  formula := formula
  unit := unit
  shape := shape
  times := times
  strictTimeIndex := r.settings.strictTimeIndex
  dataset := r.dataset

/-! ### Formulas over horizontal terms -/

/-- A formula over one horizontal term, or over two of them in the ocean. -/
structure FormulaSource (α : Type) where
  base : VerticalBase α
  column : Column α
  surface : HorizontalTerm α
  depth : Option (HorizontalTerm α)

namespace FormulaSource

variable {α : Type} [Scalar α]

/-- The horizontal numbers at a time step, by row and column: those of the surface and of the depth. A
formula without depth has the surface in its place. -/
def planes (f : FormulaSource α) (time : Nat) : Except Error (Tensor α × Tensor α) := do
  let surface ← f.surface.load f.base.dataset time
  match f.depth with
  | some depth => return (surface, ← depth.load f.base.dataset time)
  | none => return (surface, surface)

/-- The coordinate of every point at a time step. -/
def array (f : FormulaSource α) (time : Nat) : Except Error (Tensor α) := do
  let step ← f.base.timeStep time
  let (surface, depth) ← f.planes step
  let s := f.base.shape
  return Tensor.generate3 s.levels s.rows s.columns fun k j i =>
    f.column.coordinate k (surface.get2 Scalar.nan j i) (depth.get2 Scalar.nan j i)

/-- The coordinate of every level at a time step, a column and a row. -/
def profile (f : FormulaSource α) (time x y : Nat) : Except Error (List α) := do
  f.base.checkPoint x y
  let step ← f.base.timeStep time
  let (surface, depth) ← f.planes step
  let atSurface := surface.get2 Scalar.nan y x
  let atDepth := depth.get2 Scalar.nan y x
  return (List.range f.base.shape.levels).map fun k => f.column.coordinate k atSurface atDepth

/-- The numbers by level in the diagnostic form. -/
def columnFields (f : FormulaSource α) : List (String × String) :=
  let levels (xs : List α) := Listing.list (xs.map Scalar.detailed)
  let surface (name : String) := (name, f.surface.listing)
  let depth := (f.depth.map fun depth => ("depth", depth.listing)).toList
  match f.column with
  | .sigma xs top outFactor =>
    [("sigma", levels xs), surface "ps", ("ptop", Scalar.detailed top),
      ("out_scale", Scalar.detailed outFactor)]
  | .hybridPressure offset share outFactor =>
    [("ap", levels offset), ("b", levels share), surface "ps",
      ("out_scale", Scalar.detailed outFactor)]
  | .hybridHeight offset share => [("a", levels offset), ("b", levels share), surface "orog"]
  | .oceanSigma xs => [("sigma", levels xs), surface "eta"] ++ depth
  | .stretched s curve critical | .blended s curve critical =>
    [("s", levels s), ("c", levels curve), ("depth_c", Scalar.detailed critical), surface "eta"]
      ++ depth

/-- The diagnostic form. -/
def listing (f : FormulaSource α) : String :=
  Listing.record f.base.formula.name (("base", f.base.listing) :: f.columnFields)

/-- The source of the formula. -/
def source (f : FormulaSource α) : VerticalSource α := f.base.source f.array f.profile f.listing

end FormulaSource

/-! ### Stored coordinates -/

/-- A coordinate that a variable holds, by level, row and column, and by time step before them if it
varies in time. Without time steps it is read at once. -/
structure StoredSource (α : Type) where
  base : VerticalBase α
  var : Variable α
  data : Option (Tensor α)

namespace StoredSource

variable {α : Type} [Scalar α]

/-- Check the shape of an array that was read, and clear its missing numbers. -/
def clean (f : StoredSource α) (data : Tensor α) : Except Error (Tensor α) :=
  if data.shape = f.base.shape.toList then
    let missing := f.var.missing
    if missing.isSome then
      .ok (data.map fun x => if missing.covers x then Scalar.nan else x)
    else .ok data
  else .error (.shapeMismatch f.var.name f.base.shape.toList data.shape)

/-- The coordinate of every point at a time step. -/
def array (f : StoredSource α) (time : Nat) : Except Error (Tensor α) := do
  let step ← f.base.timeStep time
  match f.data with
  | some data => return data
  | none => f.clean (← f.base.dataset.readAt f.var.name step)

/-- The coordinate of every level at a time step, a column and a row. -/
def profile (f : StoredSource α) (time x y : Nat) : Except Error (List α) := do
  f.base.checkPoint x y
  let data ← f.array time
  return (List.range f.base.shape.levels).map fun k => data.get3 Scalar.nan k y x

/-- The diagnostic form. -/
def listing (f : StoredSource α) : String :=
  Listing.record f.base.formula.name [
    ("base", f.base.listing),
    ("variable", f.var.listing),
    ("static_data", Listing.optional
      (fun data : Tensor α => Listing.list (data.entries.toList.map Scalar.detailed)) f.data)]

/-- The source of the stored coordinate. -/
def source (f : StoredSource α) : VerticalSource α := f.base.source f.array f.profile f.listing

end StoredSource

/-! ### Making sources -/

namespace Recipe

variable {α : Type} [Scalar α]

/-- The unit in which pressures are given out, and the factor to it from that of the surface pressure.
A surface pressure without a unit counts as pascals. If there is no factor, pressures keep the unit
of the surface pressure. -/
def pressureOutput (r : Recipe α) (surfaceUnit : Option String) : Option String × α :=
  match r.settings.outputPressureUnit with
  | none => (surfaceUnit, 1)
  | some target =>
    match conversionFactor? (surfaceUnit.getD "Pa") target with
    | some factor => (some target, factor)
    | none => (surfaceUnit, 1)

/-- Check that two terms have as many levels. -/
def sameLevels (r : Recipe α) (formula : Formula) (term : String) (expected found : List α) :
    Except Error Unit :=
  if expected.length = found.length then .ok ()
  else do
    let v ← r.variableOf formula term
    .error (.shapeMismatch v.name [expected.length] [found.length])

/-- A formula over a single horizontal term. -/
def overSurface (r : Recipe α) (formula : Formula) (column : Column α)
    (surface : HorizontalTerm α) (unit : Option String) : FormulaSource α :=
  ⟨r.base formula ⟨column.size, surface.rows, surface.columns⟩ surface.times unit, column, surface,
    none⟩

/-- Pressure between the top of the model and the surface. -/
def atmosSigma (r : Recipe α) : Except Error (FormulaSource α) := do
  let surface ← r.horizontal .atmosSigma "ps" none
  let sigma ← r.levels .atmosSigma "sigma" none
  let top ← r.number .atmosSigma "ptop" surface.var.units?
  let (unit, outFactor) := r.pressureOutput surface.var.units?
  return r.overSurface .atmosSigma (.sigma sigma top outFactor) surface unit

/-- The pressure offset by level: a term of its own, or a share of a reference pressure. -/
def pressureOffset (r : Recipe α) (unit : Option String) : Except Error (List α) := do
  if r.terms.contains "ap" then r.levels .hybridSigmaPressure "ap" unit
  else
    let reference ← r.number .hybridSigmaPressure "p0" unit
    return (← r.levels .hybridSigmaPressure "a" none).map (· * reference)

/-- Pressure with an offset and a share of that of the surface. -/
def hybridSigmaPressure (r : Recipe α) : Except Error (FormulaSource α) := do
  let surface ← r.horizontal .hybridSigmaPressure "ps" none
  let share ← r.levels .hybridSigmaPressure "b" none
  let offset ← r.pressureOffset surface.var.units?
  r.sameLevels .hybridSigmaPressure "b" offset share
  let (unit, outFactor) := r.pressureOutput surface.var.units?
  return r.overSurface .hybridSigmaPressure (.hybridPressure offset share outFactor) surface unit

/-- Height with an offset and a share of that of the ground. -/
def hybridHeight (r : Recipe α) : Except Error (FormulaSource α) := do
  let unit := (← r.variableOf .hybridHeight "a").units?
  let offset ← r.levels .hybridHeight "a" none
  let share ← r.levels .hybridHeight "b" none
  r.sameLevels .hybridHeight "b" offset share
  let ground ← r.horizontal .hybridHeight "orog" unit
  return r.overSurface .hybridHeight (.hybridHeight offset share) ground unit

/-- A formula of the ocean: over the height of the water surface and the depth, from a column that
is read once the unit of the depth is known. -/
def overDepth (r : Recipe α) (formula : Formula)
    (column : Option String → Except Error (Column α)) : Except Error (FormulaSource α) := do
  let unit := (← r.variableOf formula "depth").units?
  let depth ← r.horizontal formula "depth" none
  let surface ← r.horizontal formula "eta" unit
  let column ← column unit
  surface.sameShape depth
  let times ← HorizontalTerm.commonTimes formula [surface, depth]
  return ⟨r.base formula ⟨column.size, surface.rows, surface.columns⟩ times unit, column, surface,
    some depth⟩

/-- Height between the bottom of the sea and its surface. -/
def oceanSigma (r : Recipe α) : Except Error (FormulaSource α) :=
  r.overDepth .oceanSigma fun _ => Column.oceanSigma <$> r.levels .oceanSigma "sigma" none

/-- The levels, their stretching curve and the critical depth, the curve being read. -/
def readCurve (r : Recipe α) (formula : Formula) (unit : Option String) :
    Except Error (List α × List α × α) := do
  let s ← r.levels formula "s" none
  let curve ← r.levels formula "C" none
  r.sameLevels formula "C" s curve
  return (s, curve, ← r.number formula "depth_c" unit)

/-- Height with a stretched share of the depth, whose curve is computed. -/
def oceanS [Hyperbolic α] (r : Recipe α) : Except Error (FormulaSource α) :=
  r.overDepth .oceanS fun unit => do
    let s ← r.levels .oceanS "s" none
    let a ← r.number .oceanS "a" none
    let b ← r.number .oceanS "b" none
    let critical ← r.number .oceanS "depth_c" unit
    return .stretched s (s.map fun s => stretching s a b) critical

/-- Height with a stretched share of the depth, whose curve is read. -/
def oceanSG1 (r : Recipe α) : Except Error (FormulaSource α) :=
  r.overDepth .oceanSG1 fun unit => do
    let (s, curve, critical) ← r.readCurve .oceanSG1 unit
    return .stretched s curve critical

/-- Height with a stretched share of the water column, whose curve is read. -/
def oceanSG2 (r : Recipe α) : Except Error (FormulaSource α) :=
  r.overDepth .oceanSG2 fun unit => do
    let (s, curve, critical) ← r.readCurve .oceanSG2 unit
    return .blended s curve critical

/-- The variable that holds the coordinate. -/
def storedVariable (r : Recipe α) : Except Error (Variable α) :=
  let term := Attributes.Name.existingDataField
  match r.attributes.text? term with
  | none => .error (.missingTerm Formula.existingField.name term)
  | some name =>
    match r.dataset.find? name with
    | none => .error (.unresolvedTerm Formula.existingField.name term name)
    | some v => .ok v

/-- A coordinate that the dataset holds. -/
def existingField (r : Recipe α) : Except Error (StoredSource α) := do
  let v ← r.storedVariable
  let base := fun shape times => r.base .existingField shape times v.units?
  match v.shape with
  | [levels, rows, columns] =>
    let f : StoredSource α := ⟨base ⟨levels, rows, columns⟩ none, v, none⟩
    return { f with data := some (← f.clean (← r.dataset.read v.name)) }
  | [times, levels, rows, columns] =>
    return ⟨base ⟨levels, rows, columns⟩ (some times), v, none⟩
  | shape => .error (.shapeMismatch v.name [0, 0, 0] shape)

/-- Make the transform of a formula. -/
def make [Hyperbolic α] (r : Recipe α) (formula : Formula) : Except Error (VerticalTransform α) :=
  match formula with
  | .atmosSigma => (.source ·.source) <$> r.atmosSigma
  | .hybridSigmaPressure => (.source ·.source) <$> r.hybridSigmaPressure
  | .hybridHeight => (.source ·.source) <$> r.hybridHeight
  | .oceanSigma => (.source ·.source) <$> r.oceanSigma
  | .oceanS => (.source ·.source) <$> r.oceanS
  | .oceanSG1 => (.source ·.source) <$> r.oceanSG1
  | .oceanSG2 => (.source ·.source) <$> r.oceanSG2
  | .existingField => (.source ·.source) <$> r.existingField

end Recipe

end Gridded
