import Gridded.Data.Tensor
import Gridded.Slice
import Gridded.Scalar
import Gridded.Vertical.Formula

/-!
# Vertical transforms

A vertical transform gives, for a time step, the height or the pressure of every point of a grid, as
an array by level, row and column. A transform can be restricted to slices of the grid and of time.

* `VerticalSource`: what a transform answers by itself;
* `VerticalTransform`: a source, or a window on another transform;
* `VerticalTransform.array`, `VerticalTransform.profile`: the whole array, or the column at one point;
* `VerticalTransform.window`, `VerticalTransform.subset`: restriction; the subset of a window is a
  window on what is behind it.
-/

namespace Gridded

/-- The extent of a grid by levels, rows and columns. -/
structure GridShape where
  levels : Nat
  rows : Nat
  columns : Nat
  deriving DecidableEq, Repr

/-- The extent as a list. -/
def GridShape.toList (s : GridShape) : List Nat := [s.levels, s.rows, s.columns]

/-- What a vertical transform answers by itself. -/
structure VerticalSource (α : Type) where
  name : String
  formula : Formula
  unit : Option String
  shape : GridShape
  /-- The number of time steps, if the coordinate varies in time. -/
  times : Option Nat
  /-- The coordinate of every point at a time step. -/
  array : Nat → Except Error (Tensor α)
  /-- The coordinate of every level at a time step, a column and a row. -/
  profile : Nat → Nat → Nat → Except Error (List α)
  /-- The diagnostic form. -/
  listing : String

/-- Slices of time, levels, rows and columns, each of which may be left open. -/
structure Cut where
  time : Option Slice := none
  z : Option Slice := none
  y : Option Slice := none
  x : Option Slice := none
  deriving DecidableEq, Repr

/-- Slices of levels, rows and columns, and of time if that is restricted. -/
structure Window where
  time : Option Slice
  z : Slice
  y : Slice
  x : Slice
  deriving DecidableEq, Repr

namespace Window

/-- The extent of what is seen. -/
def shape (w : Window) : GridShape := ⟨w.z.len, w.y.len, w.x.len⟩

/-- The time step that is seen at an index. -/
def innerTime (w : Window) (time : Nat) : Except Error Nat :=
  match w.time with
  | none => .ok time
  | some s => if time < s.len then .ok (s.index time) else .error (.invalidTimeIndex time s.len)

/-- A slice that fits a dimension of length `n`, or the whole dimension. -/
def restrict (n : Nat) : Option Slice → Except Error Slice
  | none => .ok (Slice.whole none n)
  | some s => do
    s.within n
    return s

/-- The window of a cut on a grid. Without time steps there is no time to restrict. -/
def ofCut (shape : GridShape) (times : Option Nat) (cut : Cut) : Except Error Window := do
  let z ← restrict shape.levels cut.z
  let y ← restrict shape.rows cut.y
  let x ← restrict shape.columns cut.x
  match times, cut.time with
  | some n, some s =>
    s.within n
    return ⟨some s, z, y, x⟩
  | _, _ => return ⟨none, z, y, x⟩

/-- The time steps of a cut through a window. -/
def cutTime (w : Window) (time : Option Slice) : Except Error (Option Slice) :=
  match time, w.time with
  | some sub, some s => some <$> s.compose sub
  | some sub, none => .ok (some sub)
  | none, s => .ok s

/-- The cut of the whole grid that a cut through the window amounts to. -/
def compose (w : Window) (cut : Cut) : Except Error Cut := do
  let time ← w.cutTime cut.time
  let z ← w.z.compose? cut.z
  let y ← w.y.compose? cut.y
  let x ← w.x.compose? cut.x
  return ⟨time, some z, some y, some x⟩

/-- The entries of an array that are seen. -/
def pick {α : Type} [Scalar α] (w : Window) (t : Tensor α) : Tensor α :=
  Tensor.generate3 w.z.len w.y.len w.x.len fun k j i =>
    t.get3 Scalar.nan (w.z.index k) (w.y.index j) (w.x.index i)

/-- The levels of a column that are seen. -/
def pickLevels {α : Type} [Scalar α] (w : Window) (column : List α) : List α :=
  w.z.indices.map fun k => column.getD k Scalar.nan

end Window

/-- A vertical transform: a source, or a window on another transform. -/
inductive VerticalTransform (α : Type)
  | source (s : VerticalSource α)
  | view (inner : VerticalTransform α) (window : Window)

namespace VerticalTransform

variable {α : Type}

/-- The source behind all windows. -/
def origin : VerticalTransform α → VerticalSource α
  | source s => s
  | view inner _ => inner.origin

/-- The name. -/
def name (t : VerticalTransform α) : String := t.origin.name

/-- The formula. -/
def formula (t : VerticalTransform α) : Formula := t.origin.formula

/-- The unit of the coordinate. -/
def unit (t : VerticalTransform α) : Option String := t.origin.unit

/-- Whether the coordinate varies in time. -/
def isTimeDependent (t : VerticalTransform α) : Bool := t.origin.times.isSome

/-- The extent of the grid. -/
def shape : VerticalTransform α → GridShape
  | source s => s.shape
  | view _ window => window.shape

/-- The number of time steps, if the coordinate varies in time. -/
def times : VerticalTransform α → Option Nat
  | source s => s.times
  | view inner window =>
    match window.time with
    | some s => some s.len
    | none => inner.times

variable [Scalar α]

/-- The coordinate of every point at a time step. -/
def array (time : Nat) : VerticalTransform α → Except Error (Tensor α)
  | source s => s.array time
  | view inner window => do
    let time ← window.innerTime time
    window.pick <$> array time inner

/-- The coordinate of every level at a time step, a column and a row. -/
def profile (time x y : Nat) : VerticalTransform α → Except Error (List α)
  | source s => s.profile time x y
  | view inner window => do
    let x ← window.x.element x
    let y ← window.y.element y
    let time ← window.innerTime time
    window.pickLevels <$> profile time x y inner

omit [Scalar α] in
/-- A window on a transform. -/
def window (t : VerticalTransform α) (cut : Cut) : Except Error (VerticalTransform α) :=
  view t <$> Window.ofCut t.shape t.times cut

omit [Scalar α] in
/-- The transform restricted to a cut. Cutting a window gives a window on what is behind it. -/
def subset (t : VerticalTransform α) (cut : Cut) : Except Error (VerticalTransform α) :=
  match t with
  | source _ => t.window cut
  | view inner window => do inner.window (← window.compose cut)

omit [Scalar α] in
/-- The diagnostic form. -/
def listing : VerticalTransform α → String
  | source s => s.listing
  | view inner window =>
    Listing.record "VerticalTransformSubset" [
      ("inner", inner.listing),
      ("t_range", Listing.optional Slice.listing window.time),
      ("z_range", window.z.listing),
      ("y_range", window.y.listing),
      ("x_range", window.x.listing)]

end VerticalTransform

end Gridded
