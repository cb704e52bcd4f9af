import Gridded.Document
import Gridded.Scalar

/-!
# Extents

The least and the greatest of the numbers seen so far. Before the first number the bounds are the
wrong way round, so that any number replaces both.

* `Extent`: the bounds, with `add`, `ofList`, `contains` and `span`.
-/

namespace Gridded

/-- The least and the greatest of some numbers. -/
structure Extent (α : Type) where
  least : α
  greatest : α
  deriving DecidableEq, Repr

namespace Extent

variable {α : Type} [Scalar α]

/-- The extent of two numbers. -/
def between (a b : α) : Extent α :=
  ⟨Scalar.least a b, Scalar.greatest a b⟩

/-- The extent of no numbers. -/
def empty : Extent α :=
  ⟨Scalar.largest, -Scalar.largest⟩

/-- Whether the bounds are the wrong way round. -/
def isEmpty (e : Extent α) : Bool :=
  e.greatest < e.least

/-- Include a number. What is not a number is skipped. -/
def add (e : Extent α) (x : α) : Extent α :=
  if Scalar.isNaN x then e else ⟨Scalar.least e.least x, Scalar.greatest e.greatest x⟩

/-- The extent of a list of numbers. -/
def ofList (xs : List α) : Extent α :=
  xs.foldl add empty

/-- Whether a number lies between the bounds or on one. -/
def contains (e : Extent α) (x : α) : Bool :=
  e.least ≤ x && x ≤ e.greatest

/-- The distance between the bounds. -/
def span (e : Extent α) : α :=
  e.greatest - e.least

/-- The bounds in brackets. -/
def text (e : Extent α) : String :=
  "[" ++ Scalar.plain e.least ++ ", " ++ Scalar.plain e.greatest ++ "]"

/-- The exchange form. -/
def toDocument (e : Extent Float) : Document :=
  .table [("min", .real e.least), ("max", .real e.greatest)]

@[simp] theorem ofList_nil : ofList ([] : List α) = empty := rfl

theorem ofList_append (xs ys : List α) : ofList (xs ++ ys) = ys.foldl add (ofList xs) :=
  List.foldl_append

end Extent

end Gridded
