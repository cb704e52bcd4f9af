import Gridded.Proofs.Data.Fullness

/-!
# Entries by index

An entry of an array stands at an index with one number for each dimension. Arrays are looked up in
other ways when coordinates are computed: by level, by row and column, or after cutting out a time
slice. All of these lead to entries at the indices that one expects.

* `Tensor.at?`: the entry at an index, with `Tensor.at?_cons` for cutting along the first dimension, and
  `Tensor.at?_take`, `Tensor.get2?_eq_at?` and `Tensor.get3?_eq_at?` for the other ways;
* `Library.at?`: the entry of an array that is held in memory.
-/

namespace Gridded

namespace Tensor

variable {α β : Type} {t : Tensor α}

/-- The position of an index among the entries of an array of that shape, if it is below all sides. -/
def offset? : (shape index : List Nat) → Option Nat
  | [], [] => some 0
  | n :: shape, i :: index =>
    if i < n then (i * count shape + ·) <$> offset? shape index else none
  | _, _ => none

/-- The entry at an index. -/
def at? (t : Tensor α) (index : List Nat) : Option α :=
  (offset? t.shape index).bind (t.entries[·]?)

theorem offset?_lt {shape index : List Nat} {p : Nat} (h : offset? shape index = some p) :
    p < count shape := by
  induction shape generalizing index p with
  | nil =>
    cases index with
    | nil =>
      cases h
      exact Nat.one_pos
    | cons => cases h
  | cons n shape ih =>
    cases index with
    | nil => cases h
    | cons i index =>
      rw [offset?] at h
      split_ifs at h with hi
      obtain ⟨q, hq, rfl⟩ := Option.map_eq_some_iff.1 h
      exact position_lt hi (ih hq)

/-- Cutting at an index of the first dimension leaves the entries at the indices that start with it. -/
theorem at?_cons {n : Nat} {inner : List Nat} (hshape : t.shape = n :: inner) {i : Nat} (hi : i < n)
    (index : List Nat) : t.at? (i :: index) = (t.outer inner i).at? index := by
  rw [at?, hshape, offset?, if_pos hi]
  show _ = (offset? inner index).bind fun p => (t.entries.extract _ _)[p]?
  rcases hp : offset? inner index with _ | p
  · rfl
  · have hlt : p < (i + 1) * count inner - i * count inner := by
      rw [Nat.succ_mul, Nat.add_sub_cancel_left]
      exact offset?_lt hp
    show t.entries[i * count inner + p]? = (t.entries.extract _ _)[p]?
    rw [Array.getElem?_extract]
    split_ifs with hbound
    · rfl
    · rw [Array.getElem?_eq_none_iff]
      omega

/-- An array of at most one dimension is a list. -/
theorem at?_take (h : t.IsFull) (hrank : t.shape.length ≤ 1) {k : Nat} (hk : k < t.entries.size) :
    t.at? ([k].take t.shape.length) = t.entries[k]? := by
  rw [IsFull] at h
  unfold at?
  rcases hshape : t.shape with _ | ⟨n, _ | ⟨m, inner⟩⟩
  · rw [hshape] at h
    obtain rfl : k = 0 := by simpa [h] using hk
    rfl
  · rw [hshape, count_cons, count_nil, Nat.mul_one] at h
    simp [offset?, h ▸ hk]
  · rw [hshape] at hrank
    simp at hrank

theorem get2?_eq_at? (t : Tensor α) (j i : Nat) : t.get2? j i = t.at? [j, i] := by
  unfold get2? at?
  match t.shape with
  | [] | [_] | _ :: _ :: _ :: _ => simp [offset?]
  | [rows, columns] => by_cases hj : j < rows <;> by_cases hi : i < columns <;> simp [offset?, hj, hi]

theorem get3?_eq_at? (t : Tensor α) (k j i : Nat) : t.get3? k j i = t.at? [k, j, i] := by
  unfold get3? at?
  match t.shape with
  | [] | [_] | [_, _] | _ :: _ :: _ :: _ :: _ => simp [offset?]
  | [layers, rows, columns] =>
    by_cases hk : k < layers <;> by_cases hj : j < rows <;> by_cases hi : i < columns <;>
      simp [offset?, hk, hj, hi, Nat.add_mul, Nat.mul_assoc, Nat.add_assoc]

/-- Applying a function to every entry applies it to the entry of a row and a column. -/
theorem get2_map_of_at? {j i : Nat} {x : α} (h : t.at? [j, i] = some x) (f : α → β) (other : β) :
    (t.map f).get2 other j i = f x := by
  refine get2_of_get2? ?_ other
  rw [get2?_map, get2?_eq_at?, h]
  rfl

theorem get3_of_at? {k j i : Nat} {x : α} (h : t.at? [k, j, i] = some x) (other : α) :
    t.get3 other k j i = x := by
  rw [← get3?_eq_at?] at h
  unfold get3? at h
  split at h
  · rename_i hshape
    split_ifs at h
    simp only [get3, hshape, entry, Array.getD_eq_getD_getElem?, h, Option.getD_some]
  · cases h

theorem at?_map (t : Tensor α) (f : α → β) (index : List Nat) :
    (t.map f).at? index = (t.at? index).map f := by
  unfold at?
  rw [shape_map]
  cases offset? t.shape index <;> simp [map]

end Tensor

/-! ### Libraries -/

namespace Library

variable {α : Type} {lib : Library α}

/-- The entry at an index of the array that is held under a name. -/
def at? (lib : Library α) (name : String) (index : List Nat) : Option α :=
  (Dictionary.find? lib name).bind fun held => held.2.at? index

theorem at?_eq {name : String} {data : Tensor α} (h : lib.read name = .ok data)
    (index : List Nat) : lib.at? name index = data.at? index := by
  obtain ⟨v, hfind⟩ := read_eq_ok.1 h
  rw [at?, hfind]
  rfl

/-- A time slice has the entries at the indices that start with its time step. -/
theorem at?_eq_of_readAt {name : String} {time : Nat} {part : Tensor α}
    (h : lib.toDataset.readAt name time = .ok part) (index : List Nat) :
    lib.at? name (time :: index) = part.at? index := by
  obtain ⟨data, hread, hslice⟩ := bind_eq_ok.1 h
  obtain ⟨times, inner, hshape, htime, rfl⟩ := timeSlice_eq_ok.1 hslice
  rw [at?_eq hread, Tensor.at?_cons hshape htime]

end Library

end Gridded
