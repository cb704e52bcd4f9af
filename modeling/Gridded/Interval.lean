import Gridded.Document
import Gridded.Scalar

/-!
# Intervals

The two edges of a cell, in the order in which they were given: a descending cell starts at its
larger edge.

* `Interval`: the edges, with `midpoint`, `width`, `contains` and `normalized`;
* `Interval.fuzzyEq`: equality of both edges up to a tolerance.
-/

namespace Gridded

/-- A cell between two edges. -/
structure Interval (α : Type) where
  start : α
  stop : α
  deriving DecidableEq, Repr

/-- Whether two numbers differ by no more than the tolerance, or by no more than that share of the
larger magnitude. -/
def nearlyEqual {α : Type} [Scalar α] (tolerance a b : α) : Bool :=
  let difference := Scalar.abs (a - b)
  difference ≤ tolerance ||
    difference ≤ tolerance * Scalar.greatest (Scalar.abs a) (Scalar.abs b)

namespace Interval

variable {α : Type} [Scalar α]

/-- The center. -/
def midpoint (cell : Interval α) : α :=
  (cell.start + cell.stop) / 2

/-- The distance between the edges. -/
def width (cell : Interval α) : α :=
  Scalar.abs (cell.stop - cell.start)

/-- Whether the edges are in increasing order. -/
def isAscending (cell : Interval α) : Bool :=
  cell.start ≤ cell.stop

/-- The edges in increasing order. -/
def normalized (cell : Interval α) : Interval α :=
  if cell.isAscending then cell else ⟨cell.stop, cell.start⟩

/-- Whether a number lies between the edges or on one. -/
def contains (cell : Interval α) (x : α) : Bool :=
  cell.normalized.start ≤ x && x ≤ cell.normalized.stop

/-- Equality of both edges up to a tolerance. -/
def fuzzyEq (tolerance : α) (a b : Interval α) : Bool :=
  nearlyEqual tolerance a.start b.start && nearlyEqual tolerance a.stop b.stop

/-- Equality of the edges as numbers. -/
def same (a b : Interval α) : Bool :=
  a.start == b.start && a.stop == b.stop

/-- The edges with a dash between them. -/
def text (cell : Interval α) : String :=
  Scalar.plain cell.start ++ "-" ++ Scalar.plain cell.stop

/-- The exchange form. -/
def toDocument (cell : Interval Float) : Document :=
  .table [("start", .real cell.start), ("end", .real cell.stop)]

/-- Read the exchange form. -/
def ofDocument? (d : Document) : Option (Interval Float) :=
  (d.pair? Document.real? "start" "end").map fun edges => ⟨edges.1, edges.2⟩

end Interval

end Gridded
