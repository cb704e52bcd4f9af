import Gridded.Axis.Draft
import Gridded.Axis.Search
import Gridded.Axis.Selection
import Gridded.Slice

/-!
# Subsets of axes

* `Axis.take`: the coordinates at the indices of a slice;
* `Axis.selectedRange`, `Axis.select`: the indices that a selection picks by the kind of axis;
* `Axis.takeClosest`, `Axis.takeClosestCell`: a single coordinate;
* `Axis.follow`: the coordinates that belong to those taken from another axis.

A regular axis stays regular, except that cells taken with a stride no longer touch: they keep
their edges as discontiguous cells. So do contiguous cells taken with a stride.
-/

namespace Gridded.Axis

variable {α : Type} [Scalar α]

/-- The two edges of each cell at the indices of a slice. -/
def edgesOf (a : Axis α) (s : Slice) : List α :=
  s.indices.flatMap fun i => [a.edge1At i, a.edge2At i]

/-- The draft of the cells at the indices of a slice, which need not touch. -/
def spreadOf (a : Axis α) (s : Slice) : Draft α :=
  { a.toDraft with
    spacing := some .discontiguousInterval
    resolution := a.resolution * Scalar.ofNat s.stride
    size := s.len
    values := some (a.edgesOf s) }

/-- The draft of the coordinates at the indices of a slice, of which `last` is the last. -/
def draftOf (a : Axis α) (s : Slice) (last : Nat) : Draft α :=
  match a.spacing with
  | .regularPoint =>
    a.toDraft.regular s.len (a.midpointAt s.first) (a.midpointAt last)
      (a.resolution * Scalar.ofNat s.stride)
  | .irregularPoint =>
    { a.toDraft with size := s.len, values := some (s.indices.map a.value) }
  | .regularInterval =>
    if s.stride = 1 then
      a.toDraft.regular s.len (a.edge1At s.first) (a.edge2At last) a.resolution
    else a.spreadOf s
  | .contiguousInterval =>
    if s.stride = 1 then
      { a.toDraft with
        size := s.len
        values := some ((a.values.drop s.first).take (last + 2 - s.first)) }
    else a.spreadOf s
  | .discontiguousInterval => a.spreadOf s

/-- The coordinates at the indices of a slice. The new axis remembers which indices of the axis it
stems from they are. -/
def take (a : Axis α) (s : Slice) : Except Error (Axis α) :=
  match s.last with
  | none => .error (.invalidRange (.emptySubset a.name))
  | some last => do
    s.within a.size
    let range ← a.range.compose s
    { a.draftOf s last with range := some range, isSubset := true }.build

/-- The coordinate closest to a number. -/
def takeClosest (a : Axis α) (target : α) : Except Error (Axis α) := do
  a.take (Slice.single (← a.closest target))

/-- The coordinate closest to a cell. -/
def takeClosestCell (a : Axis α) (target : Interval α) : Except Error (Axis α) := do
  a.take (Slice.single (← a.closestCell target))

/-- The index closest to a number, or else to a cell, if one is asked for. -/
def pick (a : Axis α) (point : Option α) (cell : Option (Interval α)) :
    Except Error (Option Nat) :=
  match point, cell with
  | some x, _ => some <$> a.closest x
  | none, some c => some <$> a.closestCell c
  | none, none => .ok none

/-- The index that a selection picks on an axis of a kind. -/
def selectedIndex (a : Axis α) (s : Selection α) : AxisKind → Except Error (Option Nat)
  | .geoZ | .height | .pressure => a.pick s.verticalPoint s.verticalCell
  | .ensemble => a.pick s.ensemble none
  | .timeOffset => do
    match ← a.pick s.timeOffset s.timeOffsetCell with
    | some i => return some i
    | none => return if s.firstTimeOffset then some 0 else none
  | _ => .ok none

/-- The slice that a selection picks, or nothing if the axis is not restricted. Horizontal axes are
restricted together, as part of a grid. -/
def selectedRange (a : Axis α) (s : Selection α) : Except Error (Option Slice) :=
  match a.kind with
  | none => .ok none
  | some kind =>
    if kind.isHorizontal then .error (.invalidState (.horizontalAxis a.name kind))
    else Option.map Slice.single <$> a.selectedIndex s kind

/-- The slice of an axis if one is given, and otherwise the whole axis. -/
def take? (a : Axis α) : Option Slice → Except Error (Axis α)
  | some s => a.take s
  | none => .ok a

/-- What a selection keeps of the axis. -/
def select (a : Axis α) (s : Selection α) : Except Error (Axis α) := do
  a.take? (← a.selectedRange s)

/-- The coordinates at the indices that were taken from an axis that this one depends on. -/
def follow (a parent : Axis α) : Except Error (Axis α) :=
  if a.parents.contains parent.name then
    if parent.isSubset then a.take parent.range else .ok a
  else .error (.invalidArgument (.notDependentOn a.name parent.name))

end Gridded.Axis
