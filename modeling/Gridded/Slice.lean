import Gridded.Error

/-!
# Making and composing slices

* `Slice.strided`, `Slice.between`: the checked slices from a first to a last index;
* `Slice.element`: the index at a position within the slice;
* `Slice.compose`: a slice of a slice;
* `Slice.within`: the check that a slice fits a dimension.
-/

namespace Gridded.Slice

/-- The indices from `first` to at most `last` in steps of `stride`. -/
def strided (first last stride : Nat) : Except Error Slice :=
  if last < first then .error (.invalidRange (.lastBeforeFirst last first))
  else if stride = 0 then .error (.invalidRange .zeroStride)
  else .ok ⟨none, first, (last - first) / stride + 1, stride⟩

/-- The indices from `first` to `last`. -/
def between (first last : Nat) : Except Error Slice :=
  strided first last 1

/-- The index at a position of the slice. -/
def element (s : Slice) (i : Nat) : Except Error Nat :=
  if i < s.len then .ok (s.index i) else .error (.indexOutOfRange i s.len)

/-- The indices of `s` at the positions that `sub` picks. The result keeps the name of `s`. -/
def compose (s sub : Slice) : Except Error Slice :=
  match sub.last with
  | none => .ok { empty with name := s.name }
  | some last =>
    if s.len ≤ last then .error (.invalidRange (.beyondParent sub s.len))
    else .ok ⟨s.name.or sub.name, s.index sub.first, sub.len, s.stride * sub.stride⟩

/-- Compose with a slice if there is one. -/
def compose? (s : Slice) : Option Slice → Except Error Slice
  | none => .ok s
  | some sub => s.compose sub

/-- Check that every index is below `n`. -/
def within (s : Slice) (n : Nat) : Except Error Unit :=
  match s.last with
  | none => .ok ()
  | some last => if n ≤ last then .error (.invalidRange (.beyondDimension s n)) else .ok ()

end Gridded.Slice
