import Gridded.Data.Dataset
import Gridded.Vertical.Formula
import Gridded.Vertical.FormulaTerms
import Gridded.Vertical.Settings

/-!
# Recipes

All that a vertical transform is made from, and the reading of its terms. Whatever a formula needs is
looked up when the transform is made.

* `Recipe`: the name, the dataset, the attributes, the bindings of terms and the settings;
* `Recipe.key?`: the name of the formula;
* `Recipe.levels`, `Recipe.number`: a term with a number for each level, or with one number;
* `HorizontalTerm`, `Recipe.horizontal`: a term with a number for each point, and for each time step
  if it varies in time.
-/

namespace Gridded

/-- What a vertical transform is made from. -/
structure Recipe (α : Type) where
  name : String
  dataset : Dataset α
  attributes : Attributes α
  terms : FormulaTerms
  settings : Settings

namespace Recipe

variable {α : Type} [Scalar α]

/-- The recipe of a vertical coordinate, whose attributes bind the terms. -/
def of (name : String) (dataset : Dataset α) (attributes : Attributes α) (settings : Settings) :
    Except Error (Recipe α) := do
  let terms ←
    match attributes.text? Attributes.Name.formulaTerms with
    | some text => FormulaTerms.ofText text
    | none => pure FormulaTerms.empty
  return ⟨name, dataset, attributes, terms, settings⟩

/-- The name of the formula: that of the transform, or else the standard name. -/
def key? (r : Recipe α) : Option String :=
  (r.attributes.findText? Attributes.Name.transformType).or
    (r.attributes.text? Attributes.Name.standardName)

/-- The diagnostic form. -/
def listing (r : Recipe α) : String :=
  Listing.openRecord "TransformContext" [
    ("name", Text.quote r.name),
    ("attributes", r.attributes.listing),
    ("formula_terms", r.terms.listing),
    ("config", r.settings.listing)]

/-! ### Terms -/

/-- The variable that stands for a term. -/
def variableOf (r : Recipe α) (formula : Formula) (term : String) : Except Error (Variable α) := do
  let name ← r.terms.require formula.name term
  match r.dataset.find? name with
  | some v => return v
  | none => .error (.unresolvedTerm formula.name term name)

/-- The factor that converts numbers of a unit to another one. Units that are absent, equal or of
another kind leave numbers as they are, and so do the settings if they say so. -/
def unitFactor (settings : Settings) (source target : Option String) : α :=
  match source, target with
  | some source, some target =>
    if Text.trim source = Text.trim target then 1
    else
      match conversionFactor? source target with
      | some factor => if settings.convertTermUnits then factor else 1
      | none => 1
  | _, _ => 1

/-- A number of a variable in other units, or none where it is missing. -/
def clean (missing : Missing α) (factor x : α) : α :=
  if missing.covers x then Scalar.nan else x * factor

/-- The numbers of a term without horizontal dimensions, in the unit `target`. -/
def levels (r : Recipe α) (formula : Formula) (term : String) (target : Option String) :
    Except Error (List α) := do
  let v ← r.variableOf formula term
  if 1 < v.rank then .error (.shapeMismatch v.name [Tensor.count v.shape] v.shape)
  else
    let data ← r.dataset.read v.name
    return data.entries.toList.map (clean v.missing (unitFactor r.settings v.units? target))

/-- The number of a term that has just one, in the unit `target`. -/
def number (r : Recipe α) (formula : Formula) (term : String) (target : Option String) :
    Except Error α := do
  match ← r.levels formula term target with
  | [x] => return x
  | xs =>
    let v ← r.variableOf formula term
    .error (.shapeMismatch v.name [1] [xs.length])

end Recipe

/-- A term with a number for each row and column. A term without time steps is read at once. -/
structure HorizontalTerm (α : Type) where
  var : Variable α
  /-- The number of time steps, if the term varies in time. -/
  times : Option Nat
  rows : Nat
  columns : Nat
  factor : α
  data : Option (Tensor α)

namespace HorizontalTerm

variable {α : Type} [Scalar α]

/-- The name of the variable. -/
def name (f : HorizontalTerm α) : String := f.var.name

/-- The extent by rows and columns. -/
def shape (f : HorizontalTerm α) : List Nat := [f.rows, f.columns]

/-- Check the shape of an array that was read, and clean its numbers. -/
def clean (f : HorizontalTerm α) (data : Tensor α) : Except Error (Tensor α) :=
  if data.shape = f.shape then .ok (data.map (Recipe.clean f.var.missing f.factor))
  else .error (.shapeMismatch f.name f.shape data.shape)

/-- The array of the term at a time step. -/
def load (f : HorizontalTerm α) (dataset : Dataset α) (time : Nat) : Except Error (Tensor α) :=
  match f.data with
  | some data => .ok data
  | none => do f.clean (← dataset.readAt f.name time)

/-- The term without its array: what its variable declares. -/
def declared (v : Variable α) (factor : α) : Except Error (HorizontalTerm α) :=
  match v.shape with
  | [rows, columns] => .ok ⟨v, none, rows, columns, factor, none⟩
  | [times, rows, columns] => .ok ⟨v, some times, rows, columns, factor, none⟩
  | shape => .error (.shapeMismatch v.name [0, 0] shape)

/-- The diagnostic form. -/
def listing (f : HorizontalTerm α) : String :=
  Listing.record "FieldTerm" [
    ("variable", f.var.listing),
    ("time_dependent", Listing.truth f.times.isSome),
    ("ntimes", toString (f.times.getD 1)),
    ("shape", Listing.counts f.shape),
    ("scale", Scalar.detailed f.factor),
    ("static_data", Listing.optional
      (fun data : Tensor α => Listing.list (data.entries.toList.map Scalar.detailed)) f.data)]

/-- The number of time steps that terms share, if some of them vary in time. -/
def commonTimes (formula : Formula) (terms : List (HorizontalTerm α)) :
    Except Error (Option Nat) :=
  terms.foldlM (fun found f =>
    match found, f.times with
    | some n, some times =>
      if times = n then .ok found
      else .error (.invalidArgument (.unequalTimes formula.name f.name times n))
    | found, times => .ok (found.or times)) none

/-- Check that a term has the extent of another one. -/
def sameShape (f other : HorizontalTerm α) : Except Error Unit :=
  if other.shape = f.shape then .ok ()
  else .error (.shapeMismatch other.name f.shape other.shape)

end HorizontalTerm

/-- The numbers of a term with horizontal dimensions, in the unit `target`. -/
def Recipe.horizontal {α : Type} [Scalar α] (r : Recipe α) (formula : Formula) (term : String)
    (target : Option String) : Except Error (HorizontalTerm α) := do
  let v ← r.variableOf formula term
  let f ← HorizontalTerm.declared v (unitFactor r.settings v.units? target)
  match f.times with
  | some _ => return f
  | none => return { f with data := some (← f.clean (← r.dataset.read v.name)) }

end Gridded
