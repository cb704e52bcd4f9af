import Gridded.Data.Dataset
import Gridded.Proofs.Checking

/-!
# Full arrays

An array is full if it has as many entries as its shape calls for. Nothing that is done with full arrays
leaves them otherwise, so every index below the sides of the array leads to an entry.

* `Tensor.get2?`, `Tensor.get3?`: looking up an entry only where there is one; `Tensor.get2?_eq`,
  `Tensor.get3?_eq` say that this is everywhere in a full array;
* `timeSlice_eq_ok`: the time slices of a full array are there and are full;
* `Dataset.Full`: sources of full arrays;
* `Library.Built`: what is held in memory, array by array, with `Library.Built.find?` and
  `Library.Built.full`.
-/

namespace Gridded

namespace Tensor

variable {α : Type} {t : Tensor α}

@[simp] theorem count_nil : count [] = 1 := rfl

@[simp] theorem count_cons (n : Nat) (shape : List Nat) : count (n :: shape) = n * count shape :=
  rfl

theorem isFull_map {β : Type} (h : t.IsFull) (f : α → β) : (t.map f).IsFull := by
  simpa [IsFull, map] using h

theorem isFull_generate3 (layers rows columns : Nat) (f : Nat → Nat → Nat → α) :
    (generate3 layers rows columns f).IsFull :=
  isFull_generate _ _

/-- The part of a full array at an index that is there is full. -/
theorem isFull_outer {outer : Nat} {inner : List Nat} (h : t.IsFull) (hshape : t.shape = outer :: inner)
    {index : Nat} (hindex : index < outer) : (t.outer inner index).IsFull := by
  rw [IsFull, hshape, count_cons] at h
  have hlast : (index + 1) * count inner ≤ outer * count inner := Nat.mul_le_mul_right _ hindex
  rw [Nat.succ_mul] at hlast
  simp only [IsFull, Tensor.outer, Array.size_extract, h, Nat.succ_mul]
  omega

/-! ### Looking up entries that are there -/

/-- The entry of an array of two dimensions, if it is there. -/
def get2? (t : Tensor α) (j i : Nat) : Option α :=
  match t.shape with
  | [rows, columns] => if j < rows ∧ i < columns then t.entries[j * columns + i]? else none
  | _ => none

/-- The entry of an array of three dimensions, if it is there. -/
def get3? (t : Tensor α) (k j i : Nat) : Option α :=
  match t.shape with
  | [layers, rows, columns] =>
    if k < layers ∧ j < rows ∧ i < columns then t.entries[(k * rows + j) * columns + i]? else none
  | _ => none

theorem entries_getElem? {p : Nat} (other : α) (hp : p < t.entries.size) :
    t.entries[p]? = some (t.entry other p) := by
  simp [entry, Array.getD, hp]

/-- The position of an entry by row and column. -/
theorem position_lt {rows columns j i : Nat} (hj : j < rows) (hi : i < columns) :
    j * columns + i < rows * columns := by
  have h : (j + 1) * columns ≤ rows * columns := Nat.mul_le_mul_right columns hj
  rw [Nat.succ_mul] at h
  omega

theorem get2?_eq {rows columns j i : Nat} (h : t.IsFull) (hshape : t.shape = [rows, columns])
    (hj : j < rows) (hi : i < columns) (other : α) : t.get2? j i = some (t.get2 other j i) := by
  have hsize : j * columns + i < t.entries.size := by
    rw [h, hshape]
    simpa using position_lt hj hi
  simp only [get2?, get2, hshape, hj, hi, and_self, if_true]
  exact entries_getElem? other hsize

theorem get2?_map {β : Type} (t : Tensor α) (f : α → β) (j i : Nat) :
    (t.map f).get2? j i = (t.get2? j i).map f := by
  unfold get2?
  rw [shape_map]
  split
  · split_ifs
    · simp [map]
    · rfl
  · rfl

theorem get2_of_get2? {t : Tensor α} {j i : Nat} {x : α} (h : t.get2? j i = some x) (other : α) :
    t.get2 other j i = x := by
  unfold get2? at h
  split at h
  · rename_i hshape
    split_ifs at h
    simp only [get2, hshape, entry, Array.getD_eq_getD_getElem?, h, Option.getD_some]
  · cases h

theorem get3?_eq {layers rows columns k j i : Nat} (h : t.IsFull)
    (hshape : t.shape = [layers, rows, columns]) (hk : k < layers) (hj : j < rows)
    (hi : i < columns) (other : α) : t.get3? k j i = some (t.get3 other k j i) := by
  have hsize : (k * rows + j) * columns + i < t.entries.size := by
    rw [h, hshape]
    simpa [Nat.mul_assoc] using position_lt (position_lt hk hj) hi
  simp only [get3?, get3, hshape, hk, hj, hi, and_self, if_true]
  exact entries_getElem? other hsize

end Tensor

/-! ### Time slices -/

section TimeSlice

variable {α : Type} {name : String} {data part : Tensor α} {time : Nat}

theorem timeSlice_eq_ok : timeSlice name data time = .ok part ↔
    ∃ times inner, data.shape = times :: inner ∧ time < times ∧ part = data.outer inner time := by
  unfold timeSlice
  rcases hshape : data.shape with _ | ⟨times, inner⟩
  · simp
  · by_cases ht : time < times
    · simp [ht, eq_comm]
    · simp [ht]

theorem isFull_of_timeSlice (hdata : data.IsFull) (h : timeSlice name data time = .ok part) :
    part.IsFull := by
  obtain ⟨times, inner, hshape, ht, rfl⟩ := timeSlice_eq_ok.1 h
  exact Tensor.isFull_outer hdata hshape ht

end TimeSlice

/-! ### Sources -/

/-- Every array that the source answers is full. -/
structure Dataset.Full {α : Type} (d : Dataset α) : Prop where
  read : ∀ {name data}, d.read name = .ok data → data.IsFull
  readAt : ∀ {name time data}, d.readAt name time = .ok data → data.IsFull

/-- A source that cuts its time slices from full arrays answers full arrays. -/
theorem Dataset.full_ofReads {α : Type} {find? : String → Option (Variable α)}
    {read : String → Except Error (Tensor α)}
    (h : ∀ {name data}, read name = .ok data → data.IsFull) : (Dataset.ofReads find? read).Full where
  read hread := h hread
  readAt hread := by
    obtain ⟨data, hdata, hslice⟩ := bind_eq_ok.1 hread
    exact isFull_of_timeSlice (h hdata) hslice

namespace Library

variable {α : Type} {lib : Library α}

/-- The library is filled with full arrays, one by one. -/
inductive Built : Library α → Prop
  | empty : Built Dictionary.empty
  | add {lib lib' : Library α} {v : Variable α} {data : Tensor α} (h : Built lib)
    (hdata : data.IsFull) (hadd : lib.add v data = .ok lib') : Built lib'

theorem add_eq_ok {lib' : Library α} {v : Variable α} {data : Tensor α} :
    lib.add v data = .ok lib' ↔ v.shape = data.shape ∧ lib.insert v.name (v, data) = lib' := by
  unfold add
  split_ifs with h <;> simp [h]

theorem Built.addNamed [Scalar α] (h : lib.Built) {lib' : Library α} {name : String}
    {dims : List String} {units : Option String} {data : Tensor α} (hdata : data.IsFull)
    (hadd : lib.addNamed name dims units data = .ok lib') : lib'.Built := by
  obtain ⟨v, -, hadd⟩ := bind_eq_ok.1 hadd
  exact .add h hdata hadd

/-- An array is held under the name of its variable, has the shape that its variable declares, and is
full. -/
theorem Built.find? (h : lib.Built) {name : String} {v : Variable α} {data : Tensor α}
    (hfind : Dictionary.find? lib name = some (v, data)) :
    v.name = name ∧ v.shape = data.shape ∧ data.IsFull := by
  induction h with
  | empty =>
    rw [Dictionary.find?_empty] at hfind
    cases hfind
  | add _ hdata hadd ih =>
    obtain ⟨hshape, rfl⟩ := add_eq_ok.1 hadd
    rw [Dictionary.find?_insert] at hfind
    split_ifs at hfind with hname
    · cases hfind
      exact ⟨hname.symm, hshape, hdata⟩
    · exact ih hfind

/-- A variable is found under its own name. -/
theorem Built.name_eq (h : lib.Built) {name : String} {v : Variable α}
    (hfind : lib.toDataset.find? name = some v) : v.name = name := by
  obtain ⟨⟨_, data⟩, hentry, rfl⟩ := Option.map_eq_some_iff.1 hfind
  exact (h.find? hentry).1

theorem read_eq_ok {name : String} {data : Tensor α} :
    lib.read name = .ok data ↔ ∃ v, Dictionary.find? lib name = some (v, data) := by
  unfold read
  rcases Dictionary.find? lib name with _ | ⟨v, found⟩ <;> simp

/-- A variable that is found is the one whose array is held under its name. -/
theorem Built.read (h : lib.Built) {name : String} {v : Variable α}
    (hfind : lib.toDataset.find? name = some v) :
    ∃ data, lib.read v.name = .ok data ∧ data.shape = v.shape ∧ data.IsFull := by
  obtain ⟨⟨_, data⟩, hentry, rfl⟩ := Option.map_eq_some_iff.1 hfind
  obtain ⟨hname, hshape, hdata⟩ := h.find? hentry
  exact ⟨data, read_eq_ok.2 ⟨_, hname ▸ hentry⟩, hshape.symm, hdata⟩

/-- A time slice of a variable that is found can be read at every time step that it declares. -/
theorem Built.exists_readAt (h : lib.Built) {name : String} {v : Variable α}
    (hfind : lib.toDataset.find? name = some v) {times : Nat} {inner : List Nat}
    (hshape : v.shape = times :: inner) {time : Nat} (ht : time < times) :
    ∃ part, lib.toDataset.readAt v.name time = .ok part ∧ part.shape = inner := by
  obtain ⟨data, hread, hdata, -⟩ := h.read hfind
  refine ⟨data.outer inner time, ?_, rfl⟩
  exact bind_eq_ok.2 ⟨data, hread, timeSlice_eq_ok.2 ⟨times, inner, hdata.trans hshape, ht, rfl⟩⟩

/-- A library answers full arrays. -/
theorem Built.full (h : lib.Built) : lib.toDataset.Full := by
  have hread : ∀ {name data}, lib.read name = .ok data → data.IsFull := fun hread => by
    obtain ⟨v, hfind⟩ := read_eq_ok.1 hread
    exact (h.find? hfind).2.2
  show (Dataset.ofReads lib.toDataset.find? lib.read).Full
  exact Dataset.full_ofReads hread

end Library

end Gridded
