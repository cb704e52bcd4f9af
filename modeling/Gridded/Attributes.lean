import Gridded.Dictionary
import Gridded.Document
import Gridded.Scalar
import Gridded.Text.Lowercase
import Gridded.Text.Listing

/-!
# Attributes

The named metadata of variables, axes and vertical coordinates. A value is a text or a list of
numbers.

* `AttributeValue`: a value, with its readings as a text and as a number;
* `Attributes`: named values in the order of their names;
* `Attributes.text?`, `Attributes.number?`, `Attributes.findText?`: look-ups;
* the well-known names, as `Attributes.Name`.
-/

namespace Gridded

/-- The value of an attribute. -/
inductive AttributeValue (α : Type)
  | text (value : String)
  | numbers (values : List α)
  deriving DecidableEq, Repr

namespace AttributeValue

variable {α : Type} [Scalar α]

/-- The text, if the value is one. -/
def text? : AttributeValue α → Option String
  | text t => some t
  | numbers _ => none

/-- The numbers, if the value is a list of them. -/
def numbers? : AttributeValue α → Option (List α)
  | text _ => none
  | numbers xs => some xs

/-- The first number, or the number that the text writes between white space. -/
def number? : AttributeValue α → Option α
  | numbers xs => xs.head?
  | text t => (Numeral.ofText? (Text.trim t)).bind Scalar.ofNumeral?

/-- The text between double quotes, or the numbers between commas. -/
def display : AttributeValue α → String
  | text t => "\"" ++ t ++ "\""
  | numbers xs => ", ".intercalate (xs.map Scalar.plain)

/-- The diagnostic form. -/
def listing : AttributeValue α → String
  | text t => "Text(" ++ Text.quote t ++ ")"
  | numbers xs => "Numbers(" ++ Listing.list (xs.map Scalar.detailed) ++ ")"

/-- Equality as numbers. -/
def same : AttributeValue α → AttributeValue α → Bool
  | text a, text b => a == b
  | numbers xs, numbers ys => xs == ys
  | _, _ => false

/-- The exchange form. -/
def toDocument : AttributeValue Float → Document
  | text t => .text t
  | numbers xs => .list (xs.map .real)

/-- Read the exchange form. -/
def ofDocument? : Document → Option (AttributeValue Float)
  | .text t => some (text t)
  | d => (d.list? Document.real?).map numbers

end AttributeValue

/-- Named values, in the order of the names. -/
abbrev Attributes (α : Type) := Dictionary (AttributeValue α)

namespace Attributes

/-! ### Well-known names -/

namespace Name

def units : String := "units"
def longName : String := "long_name"
def standardName : String := "standard_name"
def formulaTerms : String := "formula_terms"
def positive : String := "positive"
def fillValue : String := "_FillValue"
def missingValue : String := "missing_value"
def transformType : String := "transform_type"
def existingDataField : String := "existingDataField"

/-- The names that have a meaning here. -/
def all : List String :=
  [units, longName, standardName, formulaTerms, positive, fillValue, missingValue, transformType,
    existingDataField]

end Name

variable {α : Type} [Scalar α]

/-- The text under a name. -/
def text? (attrs : Attributes α) (name : String) : Option String :=
  (attrs.find? name).bind AttributeValue.text?

/-- The number under a name. -/
def number? (attrs : Attributes α) (name : String) : Option α :=
  (attrs.find? name).bind AttributeValue.number?

/-- The value under the first name that is equal up to the case of its letters, if it is a text. -/
def findText? (attrs : Attributes α) (name : String) : Option String :=
  (attrs.entries.find? fun entry => Text.eqIgnoringCase entry.1 name).bind (·.2.text?)

/-- Equality as numbers. -/
def same (a b : Attributes α) : Bool :=
  a.entries.length == b.entries.length &&
    (a.entries.zip b.entries).all fun pair =>
      pair.1.1 == pair.2.1 && pair.1.2.same pair.2.2

/-- The diagnostic form. -/
def listing (attrs : Attributes α) : String :=
  let entries := attrs.entries.map fun entry => Text.quote entry.1 ++ ": " ++ entry.2.listing
  Listing.record "Attributes" [("entries", "\x7b" ++ ", ".intercalate entries ++ "\x7d")]

/-- The exchange form: one table of all values. -/
def toDocument (attrs : Attributes Float) : Document :=
  .table (attrs.entries.map fun entry => (entry.1, entry.2.toDocument))

/-- Read the exchange form. -/
def ofDocument? : Document → Option (Attributes Float)
  | .table fields => do
    let entries ← fields.mapM fun field => do
      return (field.1, ← AttributeValue.ofDocument? field.2)
    return Dictionary.empty.insertAll entries
  | _ => none

end Attributes

end Gridded
