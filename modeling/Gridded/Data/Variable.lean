import Gridded.Attributes
import Gridded.Error

/-!
# Variables

What a dataset says about one of its arrays: dimensions, shape and attributes.

* `Variable`: the description, made by `Variable.of` and `Variable.withUnits`;
* `Missing`: the numbers that mark missing data, by `Variable.missing`.
-/

namespace Gridded

/-- The numbers that mark missing data, besides what is not a number. -/
structure Missing (α : Type) where
  fill : Option α
  missing : Option α
  deriving DecidableEq, Repr

namespace Missing

variable {α : Type} [Scalar α]

/-- Whether some number marks missing data. -/
def isSome (m : Missing α) : Bool := m.fill.isSome || m.missing.isSome

/-- Whether an optional mark is that number. -/
def matchesMark (x : α) : Option α → Bool
  | none => false
  | some mark => mark == x

/-- Whether a number is missing data. -/
def covers (m : Missing α) (x : α) : Bool :=
  Scalar.isNaN x || matchesMark x m.fill || matchesMark x m.missing

end Missing

/-- The description of an array. -/
structure Variable (α : Type) where
  name : String
  dims : List String
  shape : List Nat
  attributes : Attributes α
  deriving DecidableEq, Repr

namespace Variable

variable {α : Type} [Scalar α]

/-- A variable without attributes, with a name for each of its dimensions. -/
def of (name : String) (dims : List String) (shape : List Nat) : Except Error (Variable α) :=
  if dims.length = shape.length then .ok ⟨name, dims, shape, Dictionary.empty⟩
  else .error (.invalidArgument (.dimensionNames name dims.length shape.length))

/-- Set an attribute. -/
def withAttribute (v : Variable α) (name : String) (value : AttributeValue α) : Variable α :=
  { v with attributes := v.attributes.insert name value }

/-- Set the units. -/
def withUnits (v : Variable α) (units : String) : Variable α :=
  v.withAttribute Attributes.Name.units (.text units)

/-- The number of dimensions. -/
def rank (v : Variable α) : Nat := v.shape.length

/-- The units, if they are given as text. -/
def units? (v : Variable α) : Option String := v.attributes.text? Attributes.Name.units

/-- The marks of missing data. -/
def missing (v : Variable α) : Missing α :=
  ⟨v.attributes.number? Attributes.Name.fillValue, v.attributes.number? Attributes.Name.missingValue⟩

/-- The diagnostic form. -/
def listing (v : Variable α) : String :=
  Listing.record "Variable" [
    ("name", Text.quote v.name),
    ("dims", Listing.list (v.dims.map Text.quote)),
    ("shape", Listing.counts v.shape),
    ("attributes", v.attributes.listing)]

end Variable

end Gridded
