import Gridded.Text.Quoted

/-!
# Listings

The diagnostic form of compound values: records with named fields, lists and optional values.

* `Listing.record`, `Listing.openRecord`: all fields of a record, or the fields that are shown;
* `Listing.list`, `Listing.optional`, `Listing.text`: the other forms.
-/

namespace Gridded.Listing

/-- Fields between braces. -/
def braced (name : String) (parts : List String) : String :=
  name ++ " \x7b " ++ ", ".intercalate parts ++ " \x7d"

/-- A field with its name. -/
def field (entry : String × String) : String :=
  entry.1 ++ ": " ++ entry.2

/-- A record with all of its fields. -/
def record (name : String) (fields : List (String × String)) : String :=
  braced name (fields.map field)

/-- A record that has more fields than are shown. -/
def openRecord (name : String) (fields : List (String × String)) : String :=
  braced name (fields.map field ++ [".."])

/-- A list. -/
def list (items : List String) : String :=
  "[" ++ ", ".intercalate items ++ "]"

/-- A list of counts. -/
def counts (items : List Nat) : String :=
  list (items.map toString)

/-- A value that may be absent. -/
def optional {β : Type} (show? : β → String) : Option β → String
  | none => "None"
  | some v => "Some(" ++ show? v ++ ")"

/-- An optional text. -/
def optionalText (text : Option String) : String :=
  optional Text.quote text

/-- A truth value. -/
def truth (b : Bool) : String :=
  if b then "true" else "false"

end Gridded.Listing
