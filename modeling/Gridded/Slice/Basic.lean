import Gridded.Document
import Gridded.Text.Listing

/-!
# Slices

A slice picks equally spaced indices `first, first + stride, …` along a dimension, `len` of them.
A slice may be empty and may carry the name of the dimension.

* `Slice`: the data, and the slices `single`, `whole`, `empty`;
* `Slice.last`, `Slice.indices`, `Slice.contains`: the indices picked;
* `Slice.written`, `Slice.text`: the written form `name=first:last:stride`;
* `Slice.toDocument`, `Slice.ofDocument?`: the exchange form.
-/

namespace Gridded

/-- Equally spaced indices along a dimension. -/
structure Slice where
  name : Option String
  first : Nat
  len : Nat
  stride : Nat
  deriving DecidableEq, Repr

namespace Slice

/-- One index. -/
def single (i : Nat) : Slice := ⟨none, i, 1, 1⟩

/-- Every index below `n`. -/
def whole (name : Option String) (n : Nat) : Slice := ⟨name, 0, n, 1⟩

/-- No index. -/
def empty : Slice := whole none 0

/-- The same indices under another name. -/
def withName (s : Slice) (name : String) : Slice := { s with name := some name }

/-- The index at a position, whether or not the slice is that long. -/
def index (s : Slice) (i : Nat) : Nat := s.first + i * s.stride

/-- The last index, if there is one. -/
def last (s : Slice) : Option Nat :=
  if s.len = 0 then none else some (s.index (s.len - 1))

/-- Whether the slice picks nothing. -/
def isEmpty (s : Slice) : Bool := s.len == 0

/-- The indices, in order. -/
def indices (s : Slice) : List Nat := (List.range s.len).map s.index

/-- Whether an index is picked. Deciding this for an index between the ends takes a division by the
stride, so without a stride there is no answer. -/
def contains (s : Slice) (i : Nat) : Option Bool :=
  match s.last with
  | none => some false
  | some last =>
    if s.first ≤ i ∧ i ≤ last then
      if s.stride = 0 then none else some ((i - s.first) % s.stride == 0)
    else some false

@[simp] theorem length_indices (s : Slice) : s.indices.length = s.len := by
  simp [indices]

@[simp] theorem getElem_indices (s : Slice) (i : Nat) (h : i < s.indices.length) :
    s.indices[i] = s.index i := by
  simp [indices]

theorem last_eq_getLast? (s : Slice) : s.last = s.indices.getLast? := by
  rcases Nat.eq_zero_or_pos s.len with h | h
  · simp [last, indices, h]
  · have hne : s.len ≠ 0 := by omega
    simp [last, indices, hne, List.getLast?_map, List.getLast?_range]

/-- The ends and, unless it is one, the stride, after the name. Without a last index there are no
ends. -/
def written (name : Option String) (first : Nat) (last : Option Nat) (stride : Nat) : String :=
  (match name with
    | some name => name ++ "="
    | none => "") ++
  (match last with
    | none => "EMPTY"
    | some last =>
      toString first ++ ":" ++ toString last ++
        (if stride = 1 then "" else ":" ++ toString stride))

/-- The written form. -/
def text (s : Slice) : String :=
  written s.name s.first s.last s.stride

/-- The diagnostic form. -/
def listing (s : Slice) : String :=
  Listing.record "IndexRange" [("name", Listing.optionalText s.name), ("first", toString s.first),
    ("len", toString s.len), ("stride", toString s.stride)]

/-- The exchange form. -/
def toDocument (s : Slice) : Document :=
  .table [("name", .ofText? s.name), ("first", .whole s.first), ("len", .whole s.len),
    ("stride", .whole s.stride)]

/-- Read the exchange form, as a table or as a list in the order of the fields. Only the name may be
absent from a table. -/
def ofDocument? : Document → Option Slice
  | .list [name, first, len, stride] => do
    return ⟨← name.optional? Document.text?, ← first.natural?, ← len.natural?, ← stride.natural?⟩
  | .table fields => do
    let d := Document.table fields
    return {
      name := ← (d.get "name").optional? Document.text?
      first := ← (← d.field? "first").natural?
      len := ← (← d.field? "len").natural?
      stride := ← (← d.field? "stride").natural? }
  | _ => none

end Slice

end Gridded
