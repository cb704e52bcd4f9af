import Gridded.Vertical.Source

/-!
# Catalogs of vertical transforms

* `Catalog`: makers of transforms by name, whatever the case of the name;
* `Catalog.standard`: the catalog of the built-in formulas under both of their names;
* `Catalog.make`: the transform that a recipe names;
* `Blueprint`: the making of one transform, step by step or from an existing one.
-/

namespace Gridded

/-- A maker of transforms. -/
abbrev Maker (α : Type) := Recipe α → Except Error (VerticalTransform α)

/-- Makers of transforms, under folded names. -/
abbrev Catalog (α : Type) := Dictionary (Maker α)

namespace Catalog

variable {α : Type} [Scalar α]

/-- Put a maker under a name, in place of any other. -/
def register (c : Catalog α) (name : String) (maker : Maker α) : Catalog α :=
  c.insert (Text.foldedName name) maker

/-- The maker under a name. -/
def maker? (c : Catalog α) (name : String) : Option (Maker α) :=
  c.find? (Text.foldedName name)

/-- Whether there is a maker under a name. -/
def knows (c : Catalog α) (name : String) : Bool :=
  (c.maker? name).isSome

/-- The maker of a built-in formula. -/
def builtIn [Hyperbolic α] (formula : Formula) : Maker α :=
  fun recipe => recipe.make formula

/-- The built-in formulas under their standard names and their short names. -/
def standard [Hyperbolic α] : Catalog α :=
  Formula.all.foldl (fun c formula =>
    register (register c formula.standardName (builtIn formula)) formula.name (builtIn formula))
    Dictionary.empty

/-- The transform that a recipe names. -/
def make (c : Catalog α) (r : Recipe α) : Except Error (VerticalTransform α) :=
  match r.key? with
  | none => .error (.unknownTransform (.unnamed r.name))
  | some key =>
    match maker? c key with
    | some maker => maker r
    | none => .error (.unknownTransform (.stated key))

/-- The diagnostic form: the names in order. -/
def listing (c : Catalog α) : String :=
  Listing.record "TransformRegistry" [("names", Listing.list (c.keys.map Text.quote))]

end Catalog

/-- What is needed to make one transform. -/
structure Blueprint (α : Type) where
  name : Option String := none
  attributes : Attributes α := Dictionary.empty
  /-- A transform to hand out as it is. -/
  existing : Option (VerticalTransform α) := none
  settings : Settings := {}

namespace Blueprint

variable {α : Type} [Scalar α]

/-- The blueprint of an existing transform. -/
def ofExisting (b : Blueprint α) (t : VerticalTransform α) : Blueprint α :=
  { b with name := some t.name, existing := some t }

/-- The name of a transform for which none is given. -/
def defaultName : String := "vertical"

/-- Make the transform, unless there is one already. -/
def build (b : Blueprint α) (dataset : Dataset α) (catalog : Catalog α) :
    Except Error (VerticalTransform α) :=
  match b.existing with
  | some t => .ok t
  | none => do
    match b.settings.validate with
    | .error fault => .error (.invalidArgument fault)
    | .ok () =>
      let recipe ← Recipe.of (b.name.getD defaultName) dataset b.attributes b.settings
      Catalog.make catalog recipe

end Blueprint

end Gridded
