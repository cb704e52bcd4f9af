import Gridded.Proofs.Slice.Composition

/-!
# The views of a slice

A slice is asked for its indices one by one, for all of them, for its last one, whether an index is among
them and whether they stay below a bound. Each answer is computed from the ends and the stride by its own
arithmetic.

* `Slice.mem_indices`, `Slice.pairwise_indices`: the indices that are listed;
* `Slice.strided_eq_ok`, `Slice.mem_indices_of_strided`: the slices from a first to a last index;
* `Slice.Consistent`: all answers describe the list of indices; `Slice.consistent_of_forward`;
* `Slice.contains_ne_none_iff`, `Slice.nodup_indices_iff`: what goes wrong without a stride.
-/

namespace Gridded.Slice

variable {s : Slice} {n : Nat}

theorem mem_indices : n ∈ s.indices ↔ ∃ i < s.len, s.index i = n := by
  simp [indices]

theorem indices_of_empty (h : s.len = 0) : s.indices = [] := by
  simp [indices, h]

theorem below_iff_indices : s.Below n ↔ ∀ i ∈ s.indices, i < n := by
  simp [Below, indices]

theorem index_lt_index (hs : 0 < s.stride) {i j : Nat} (h : i < j) : s.index i < s.index j :=
  Nat.add_lt_add_left (Nat.mul_lt_mul_of_pos_right h hs) s.first

/-- The indices are in order, and none comes twice. -/
theorem pairwise_indices (hs : 0 < s.stride) : s.indices.Pairwise (· < ·) :=
  List.Pairwise.map s.index (fun _ _ h => index_lt_index hs h) List.pairwise_lt_range

/-! ### Slices between two indices -/

theorem strided_eq_ok {first last stride : Nat} :
    strided first last stride = .ok s ↔
      first ≤ last ∧ 0 < stride ∧ s = ⟨none, first, (last - first) / stride + 1, stride⟩ := by
  unfold strided
  split_ifs with hlast hstride
  · simp [Nat.not_le.2 hlast]
  · simp [hstride]
  · simp [Nat.le_of_not_lt hlast, Nat.pos_of_ne_zero hstride, eq_comm]

/-- The last index that is reached may lie before the one that was asked for. -/
theorem mem_indices_of_strided {first last stride : Nat} (h : strided first last stride = .ok s) :
    n ∈ s.indices ↔ first ≤ n ∧ n ≤ last ∧ stride ∣ n - first := by
  obtain ⟨hle, hpos, rfl⟩ := strided_eq_ok.1 h
  have hreached : ∀ i, i < (last - first) / stride + 1 ↔ i * stride ≤ last - first := fun i => by
    rw [Nat.lt_succ_iff, Nat.le_div_iff_mul_le hpos]
  rw [mem_indices]
  constructor
  · rintro ⟨i, hi, rfl⟩
    have hi := (hreached i).1 hi
    simp only [index]
    exact ⟨by omega, by omega, by simp⟩
  · rintro ⟨hfirst, hlast, k, hk⟩
    rw [Nat.mul_comm] at hk
    exact ⟨k, (hreached k).2 (by omega), by simp only [index]; omega⟩

/-! ### All views -/

/-- Every answer that the slice gives is read off its list of indices. -/
structure Consistent (s : Slice) : Prop where
  element : ∀ i n, s.element i = .ok n ↔ s.indices[i]? = some n
  beyond : ∀ i, s.element i = .error (.indexOutOfRange i s.len) ↔ s.len ≤ i
  last : s.last = s.indices.getLast?
  contains : ∀ n, s.contains n = some (decide (n ∈ s.indices))
  within : ∀ n, s.within n = .ok () ↔ ∀ i ∈ s.indices, i < n

/-- An index is picked if it lies between the ends, at a distance from the first one that the stride
divides. -/
theorem mem_indices_iff_dvd (hs : 0 < s.stride) {last : Nat} (hlast : s.last = some last) :
    n ∈ s.indices ↔ (s.first ≤ n ∧ n ≤ last) ∧ s.stride ∣ n - s.first := by
  obtain ⟨hlen, rfl⟩ := last_eq_some.1 hlast
  rw [mem_indices]
  constructor
  · rintro ⟨i, hi, rfl⟩
    exact ⟨⟨Nat.le_add_right _ _, s.index_mono (by omega)⟩, by simp [index]⟩
  · rintro ⟨⟨hfirst, hle⟩, k, hk⟩
    have hindex : s.index k = n := by
      rw [Nat.mul_comm] at hk
      simp only [index]
      omega
    refine ⟨k, ?_, hindex⟩
    by_contra hbeyond
    have hlt : s.index (s.len - 1) < s.index k := index_lt_index hs (by omega)
    omega

theorem contains_eq (hs : s.len = 0 ∨ 0 < s.stride) :
    s.contains n = some (decide (n ∈ s.indices)) := by
  unfold contains
  cases hlast : s.last with
  | none => simp [indices_of_empty (last_eq_none.1 hlast)]
  | some last =>
    have hpos : 0 < s.stride := hs.resolve_left (by have := (last_eq_some.1 hlast).1; omega)
    have hmem := mem_indices_iff_dvd (n := n) hpos hlast
    by_cases hbetween : s.first ≤ n ∧ n ≤ last
    · simp [hbetween, hmem, Nat.ne_of_gt hpos, Nat.dvd_iff_mod_eq_zero, Bool.beq_eq_decide_eq]
    · simp [hbetween, hmem]

theorem consistent_of_forward (hs : s.len = 0 ∨ 0 < s.stride) : s.Consistent where
  element i n := by
    rw [element_eq_ok, List.getElem?_eq_some_iff]
    simp
  beyond i := by
    rcases Nat.lt_or_ge i s.len with h | h
    · simp [element_of_lt h, h]
    · simp [element_of_le h, h]
  last := s.last_eq_getLast?
  contains n := contains_eq hs
  within n := within_eq_ok.trans below_iff_indices

/-! ### Without a stride -/

/-- Whether an index is picked can be told of every index, unless there are indices but no stride. -/
theorem contains_ne_none_iff : (∀ n, s.contains n ≠ none) ↔ s.len = 0 ∨ 0 < s.stride := by
  constructor
  · intro h
    by_contra hnot
    have hlast : s.last = some (s.index (s.len - 1)) := last_eq_some.2 ⟨by omega, rfl⟩
    refine h s.first ?_
    simp [contains, hlast, show s.stride = 0 by omega, Slice.index]
  · intro h n
    simp [contains_eq h]

/-- No index comes twice, unless there are two of them and no stride. -/
theorem nodup_indices_iff : s.indices.Nodup ↔ s.len ≤ 1 ∨ 0 < s.stride := by
  constructor
  · intro h
    by_contra hnot
    have hlen : 1 < s.indices.length := by simp; omega
    refine List.pairwise_iff_getElem.1 h 0 1 (by omega) hlen Nat.one_pos ?_
    simp [index, show s.stride = 0 by omega]
  · rintro (hlen | hs)
    · rcases Nat.le_one_iff_eq_zero_or_eq_one.1 hlen with h | h <;> simp [indices, h]
    · exact (pairwise_indices hs).imp Nat.ne_of_lt

end Gridded.Slice
