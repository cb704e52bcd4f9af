import Gridded.Proofs.Slice.Composition

/-!
# Slices of slices of slices

Composition of slices is composition of their maps of indices: it succeeds if the second map ends in the
domain of the first, and it is associative. The two ways to compose three slices check different bounds;
what the one accepts, the other one accepts as well.

* `Slice.compose_eq_ok`, `Slice.compose_of_empty`: what composition makes;
* `Slice.below_iff_element`, `Slice.Reads.exists_element`: bounds and elements;
* `Slice.compose_assoc`, `Slice.compose_maps`: the law of composition and the whole of its behaviour.
-/

namespace Gridded.Slice

variable {s sub u r t : Slice}

/-- The composition of two slices of which the second is not empty. -/
theorem compose_eq_ok (h : 0 < sub.len) :
    s.compose sub = .ok r ↔
      sub.Below s.len ∧ r = ⟨s.name.or sub.name, s.index sub.first, sub.len, s.stride * sub.stride⟩ := by
  have hlast : sub.last = some (sub.index (sub.len - 1)) := last_eq_some.2 ⟨h, rfl⟩
  rw [below_iff_last_lt hlast]
  unfold compose
  rw [hlast]
  by_cases hn : s.len ≤ sub.index (sub.len - 1)
  · simp [hn, Nat.not_lt.2 hn]
  · simp [hn, Nat.lt_of_not_le hn, eq_comm]

/-- Nothing of a slice is nothing under its name. -/
theorem compose_of_empty (h : sub.len = 0) : s.compose sub = .ok { empty with name := s.name } := by
  unfold compose
  rw [last_eq_none.2 h]

/-- A slice stays below a bound if its elements do. -/
theorem below_iff_element {n : Nat} : s.Below n ↔ ∀ i m, s.element i = .ok m → m < n := by
  constructor
  · intro h i m hm
    obtain ⟨hi, rfl⟩ := element_eq_ok.1 hm
    exact h i hi
  · intro h i hi
    exact h i _ (element_of_lt hi)

/-- The elements of a composed slice are looked up in two steps, and both look-ups succeed. -/
theorem Reads.exists_element (h : Reads r s sub) {i : Nat} (hi : i < sub.len) :
    ∃ j n, sub.element i = .ok j ∧ s.element j = .ok n ∧ r.element i = .ok n :=
  ⟨_, _, element_of_lt hi, element_of_lt (h.below i hi), by
    rw [element_of_lt (h.len ▸ hi), h.index i hi]⟩

/-- **Composition is associative.** The bounds of the inner composition follow from those of the outer
ones, and so does that of `s` from those of `s.compose sub`. -/
theorem compose_assoc (hu : 0 < u.len) (hr : s.compose sub = .ok r) (ht : r.compose u = .ok t) :
    ∃ v, sub.compose u = .ok v ∧ s.compose v = .ok t := by
  have hreads := reads_of_compose hr
  obtain ⟨hbelow, rfl⟩ := (compose_eq_ok hu).1 ht
  rw [hreads.len] at hbelow
  -- The innermost slice has an index, which lies within the middle one.
  have hsub : 0 < sub.len := Nat.lt_of_le_of_lt (Nat.zero_le _) (hbelow 0 hu)
  obtain ⟨-, rfl⟩ := (compose_eq_ok hsub).1 hr
  have hv := (compose_eq_ok (r := ⟨_, _, _, _⟩) hu).2 ⟨hbelow, rfl⟩
  refine ⟨_, hv, (compose_eq_ok (by exact hu)).2 ⟨(reads_of_compose hv).below_of_below hreads.below, ?_⟩⟩
  simp only [index_mk_compose, Option.or_assoc, Nat.mul_assoc]

/-- **Slices compose as maps of indices.** A slice of a slice exists exactly if it is empty or all of its
elements are positions of the outer slice. It has as many elements, and each is found by looking up its
position in the inner slice and then the result in the outer one. If three slices compose from the left,
they compose from the right, to the same slice under the same name. -/
theorem compose_maps (s sub : Slice) :
    ((∃ r, s.compose sub = .ok r) ↔
      sub.isEmpty = true ∨ ∀ i n, sub.element i = .ok n → n < s.len) ∧
    (∀ r, s.compose sub = .ok r → r.len = sub.len ∧ ∀ i < sub.len,
      ∃ j n, sub.element i = .ok j ∧ s.element j = .ok n ∧ r.element i = .ok n) ∧
    ∀ u r t, u.isEmpty = false → s.compose sub = .ok r → r.compose u = .ok t →
      ∃ v, sub.compose u = .ok v ∧ s.compose v = .ok t := by
  refine ⟨?_, fun r hr => ?_, fun u r t hu hr ht => ?_⟩
  · rw [exists_compose_iff, ← below_iff_element]
    constructor
    · exact .inr
    · rintro (hempty | hbelow)
      · exact below_of_len_eq_zero (by simpa [isEmpty] using hempty) _
      · exact hbelow
  · have hreads := reads_of_compose hr
    exact ⟨hreads.len, fun i hi => hreads.exists_element hi⟩
  · exact compose_assoc (Nat.pos_of_ne_zero (by simpa [isEmpty] using hu)) hr ht

/-- Every third index from ten on, of these every second one from the third on, of these the last two. -/
theorem compose_maps_thirds :
    ∃ r t v : Slice, compose ⟨some "x", 10, 28, 3⟩ ⟨none, 2, 4, 2⟩ = .ok r ∧
      r.compose ⟨some "y", 2, 2, 1⟩ = .ok t ∧ t = ⟨some "x", 28, 2, 6⟩ ∧
      compose ⟨none, 2, 4, 2⟩ ⟨some "y", 2, 2, 1⟩ = .ok v ∧ v = ⟨some "y", 6, 2, 2⟩ ∧
      compose ⟨some "x", 10, 28, 3⟩ v = .ok t := by
  obtain ⟨v, hv, hassoc⟩ := (compose_maps ⟨some "x", 10, 28, 3⟩ ⟨none, 2, 4, 2⟩).2.2
    ⟨some "y", 2, 2, 1⟩ _ _ rfl rfl rfl
  exact ⟨_, _, v, rfl, rfl, rfl, hv, by cases hv; rfl, hassoc⟩

end Gridded.Slice
