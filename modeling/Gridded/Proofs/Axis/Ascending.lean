import Gridded.Proofs.Axis.Locating

/-!
# Which axes ascend

The test for the direction of an axis looks at the resolution, or at the first and the last stored value,
and not at any midpoint. On an axis in order it finds the direction of the midpoints. The one exception
are two cells that touch, of which the upper one comes first and both are stored from their lower edge:
there the first and the last value are the edge that the cells share, and the test finds no descent.

* `Axis.Ordered`: the axes in order;
* `Axis.isAscending_iff_of_regular`, `Axis.isAscending_iff_of_stored`: what the test looks at;
* `Axis.isAscending_iff_lt_of_values`: points and adjacent cells go the way of their values;
* `Axis.apart_iff`: cells are apart if they lie one above the other;
* `Axis.Deceptive`, `Axis.isAscending_iff`: the exception, and the test on all axes in order.
-/

namespace Gridded.Axis

variable {a : Axis ℚ} {s x y : ℚ} {i j : ℕ}

/-- The axes whose coordinates are kept apart and whose midpoints rise all along the axis or fall all along
it. Only cells that are stored one by one can be apart and still lie in disorder. -/
structure Ordered (a : Axis ℚ) : Prop where
  separated : a.Separated
  centers : a.spacing = .discontiguousInterval →
    a.midpoints.Pairwise (· < ·) ∨ a.midpoints.Pairwise (· > ·)

/-! ### What the test looks at -/

theorem isAscending_iff_of_regular (hreg : a.spacing.isRegular = true) :
    a.isAscending = true ↔ 0 < a.resolution := by
  cases hsp : a.spacing with
  | regularPoint =>
    simp only [isAscending, hsp]
    exact decide_eq_true_iff
  | regularInterval =>
    simp only [isAscending, hsp]
    exact decide_eq_true_iff
  | _ =>
    rw [hsp] at hreg
    cases hreg

/-- Of stored values the first and the last one are compared. -/
theorem isAscending_iff_of_stored (ha : a.WellFormed) (hreg : a.spacing.isRegular = false) :
    a.isAscending = true ↔ a.value 0 ≤ a.value (a.values.length - 1) := by
  rw [ha.length_values]
  cases hsp : a.spacing with
  | irregularPoint =>
    simp only [isAscending, hsp, Spacing.valuesLen]
    exact decide_eq_true_iff
  | contiguousInterval =>
    simp only [isAscending, hsp, Spacing.valuesLen, Nat.add_sub_cancel]
    exact decide_eq_true_iff
  | discontiguousInterval =>
    simp only [isAscending, hsp, Spacing.valuesLen]
    exact decide_eq_true_iff
  | _ =>
    rw [hsp] at hreg
    cases hreg

/-! ### Axes that go one way -/

/-- A number beyond another one is above it exactly if the way goes up. -/
theorem lt_iff_of_beyond (h : 0 < s * (y - x)) : x < y ↔ 0 < s := by
  rw [← sub_pos]
  exact (pos_iff_pos_of_mul_pos h).symm

/-- Midpoints of points and of adjacent cells go the way of the values. -/
theorem midpoints_beyond_of_values (ha : a.WellFormed)
    (hsp : a.spacing = .irregularPoint ∨ a.spacing = .contiguousInterval)
    (hvalues : a.values.Pairwise fun x y => 0 < s * (y - x)) (hij : i < j) (hj : j < a.size) :
    0 < s * (a.midpointAt j - a.midpointAt i) := by
  have hlength := ha.length_values
  rcases hsp with hsp | hsp
  · rw [hsp, Spacing.valuesLen] at hlength
    rw [midpointAt_of_irregularPoint hsp, midpointAt_of_irregularPoint hsp]
    exact value_pairwise hvalues hij (hlength ▸ hj)
  · rw [hsp, Spacing.valuesLen] at hlength
    have hlower := value_pairwise hvalues hij (by omega)
    have hupper := value_pairwise hvalues (Nat.succ_lt_succ hij) (by omega)
    have hmean : a.midpointAt j - a.midpointAt i =
        ((a.value j - a.value i) + (a.value (j + 1) - a.value (i + 1))) / 2 := by
      simp only [midpointAt, edge1At, edge2At, hsp]
      ring
    rw [hmean, mul_mean]
    linarith

/-- The test finds the way of a regular axis that does not stand still. -/
theorem isAscending_iff_lt_of_regular (hreg : a.spacing.isRegular = true) (hres : a.resolution ≠ 0)
    (hij : i < j) : a.isAscending = true ↔ a.midpointAt i < a.midpointAt j := by
  rw [isAscending_iff_of_regular hreg]
  exact (lt_iff_of_beyond (midpoints_beyond_of_regular hreg hres hij)).symm

/-- The test finds the way of points and of adjacent cells in strict order. -/
theorem isAscending_iff_lt_of_values (ha : a.WellFormed)
    (hsp : a.spacing = .irregularPoint ∨ a.spacing = .contiguousInterval)
    (hvalues : a.values.Pairwise (· < ·) ∨ a.values.Pairwise (· > ·)) (hij : i < j)
    (hj : j < a.size) : a.isAscending = true ↔ a.midpointAt i < a.midpointAt j := by
  obtain ⟨s, hbeyond⟩ := pairwise_beyond hvalues
  have hlength := ha.length_values
  have hreg : a.spacing.isRegular = false ∧ 1 < a.values.length := by
    rcases hsp with hsp | hsp
    · rw [hlength, hsp]
      exact ⟨rfl, by rw [Spacing.valuesLen]; omega⟩
    · rw [hlength, hsp]
      exact ⟨rfl, by rw [Spacing.valuesLen]; omega⟩
  have hends : 0 < s * (a.value (a.values.length - 1) - a.value 0) :=
    value_pairwise hbeyond (by omega) (by omega)
  have hvalue := lt_iff_of_beyond hends
  have hne := ne_of_beyond hends
  have hmidpoint := lt_iff_of_beyond (midpoints_beyond_of_values ha hsp hbeyond hij hj)
  rw [isAscending_iff_of_stored ha hreg.1, hmidpoint, ← hvalue]
  exact hne.le_iff_lt

/-! ### Cells stored one by one -/

/-- The lower edge of a cell. -/
def lower (a : Axis ℚ) (i : ℕ) : ℚ := a.edge1At i ⊓ a.edge2At i

/-- The upper edge of a cell. -/
def upper (a : Axis ℚ) (i : ℕ) : ℚ := a.edge1At i ⊔ a.edge2At i

/-- A cell without inner points in common with another one lies below it or above it. -/
theorem interior_inter_eq_empty_iff (hi : a.lower i < a.upper i) (hj : a.lower j < a.upper j) :
    a.interior i ∩ a.interior j = ∅ ↔ a.upper i ≤ a.lower j ∨ a.upper j ≤ a.lower i := by
  have hinter : a.interior i ∩ a.interior j =
      Set.Ioo (a.lower i ⊔ a.lower j) (a.upper i ⊓ a.upper j) := Set.Ioo_inter_Ioo
  rw [hinter, Set.Ioo_eq_empty_iff, not_lt, inf_le_iff, le_sup_iff, le_sup_iff]
  constructor
  · rintro ((hle | hle) | hle | hle)
    · exact absurd hle (not_le.2 hi)
    · exact .inl hle
    · exact .inr hle
    · exact absurd hle (not_le.2 hj)
  · rintro (hle | hle)
    · exact .inl (.inr hle)
    · exact .inr (.inl hle)

/-- Cells are apart if they have some width and lie one above the other. -/
theorem apart_iff : a.Apart ↔ (∀ i < a.size, a.lower i < a.upper i) ∧
    ∀ i < a.size, ∀ j < a.size, i ≠ j → a.upper i ≤ a.lower j ∨ a.upper j ≤ a.lower i := by
  have hwidth : ∀ i, 0 < (a.cellAt i).width ↔ a.lower i < a.upper i := fun i =>
    width_pos_iff.trans inf_lt_sup.symm
  constructor
  · intro h
    have hwide : ∀ i < a.size, a.lower i < a.upper i := fun i hi => (hwidth i).1 (h.width_pos i hi)
    exact ⟨hwide, fun i hi j hj hne =>
      (interior_inter_eq_empty_iff (hwide i hi) (hwide j hj)).1 (h.disjoint i hi j hj hne)⟩
  · rintro ⟨hwide, hbeside⟩
    exact ⟨fun i hi => (hwidth i).2 (hwide i hi), fun i hi j hj hne =>
      (interior_inter_eq_empty_iff (hwide i hi) (hwide j hj)).2 (hbeside i hi j hj hne)⟩

theorem center_between (hcells : a.spacing.isInterval = true) (i : ℕ) :
    a.lower i ≤ a.midpointAt i ∧ a.midpointAt i ≤ a.upper i := by
  rw [midpointAt_eq_center (precise_rat a) hcells]
  exact center_mem (a.edge1At i) (a.edge2At i)

theorem midpoint_pairwise {r : ℚ → ℚ → Prop} (h : a.midpoints.Pairwise r) (hij : i < j)
    (hj : j < a.size) : r (a.midpointAt i) (a.midpointAt j) := by
  rw [midpoints, List.pairwise_map, indices] at h
  have hlength : (List.range a.size).length = a.size := List.length_range
  have hpair := List.pairwise_iff_getElem.1 h i j (by omega) (by omega) hij
  rwa [List.getElem_range, List.getElem_range] at hpair

/-- Cells apart lie one above the other in the order of their centers. -/
theorem Apart.upper_le_lower (h : a.Apart) (hcells : a.spacing.isInterval = true) (hi : i < a.size)
    (hj : j < a.size) (hlt : a.midpointAt i < a.midpointAt j) : a.upper i ≤ a.lower j := by
  have hne : i ≠ j := by
    rintro rfl
    exact lt_irrefl _ hlt
  rcases (apart_iff.1 h).2 i hi j hj hne with hle | hle
  · exact hle
  · have hlow := (center_between hcells i).1
    have hhigh := (center_between hcells j).2
    linarith

/-- Two cells that touch, of which the upper one comes first, and both of which are stored from the lower
edge to the upper one. -/
structure Deceptive (a : Axis ℚ) : Prop where
  spacing : a.spacing = .discontiguousInterval
  size : a.size = 2
  last : a.edge1At 1 < a.edge2At 1
  touch : a.edge2At 1 = a.edge1At 0
  first : a.edge1At 0 < a.edge2At 0

section Discontiguous

variable (hsp : a.spacing = .discontiguousInterval) (ha : a.WellFormed)

include hsp ha

/-- The first and the last value are edges of the first and the last cell. -/
theorem isAscending_iff_edges : a.isAscending = true ↔ a.edge1At 0 ≤ a.edge2At (a.size - 1) := by
  have hpos := ha.size_pos
  have hlast : 2 * a.size - 1 = 2 * (a.size - 1) + 1 := by omega
  rw [isAscending_iff_of_stored ha (by rw [hsp]; rfl), ha.length_values, hsp, Spacing.valuesLen, hlast]
  simp only [edge1At, edge2At, hsp, Nat.mul_zero]

/-- Cells apart whose centers rise are found to ascend. -/
theorem isAscending_of_rise (hlt : a.upper 0 ≤ a.lower (a.size - 1)) : a.isAscending = true := by
  rw [isAscending_iff_edges hsp ha]
  calc a.edge1At 0 ≤ a.upper 0 := le_sup_left
    _ ≤ a.lower (a.size - 1) := hlt
    _ ≤ a.edge2At (a.size - 1) := inf_le_right

/-- Cells of which each lies below those before it are not found to ascend, unless they are two that touch.
A third cell would lie between the first and the last one. -/
theorem isAscending_iff_deceptive (hsize : 2 ≤ a.size) (hwide : ∀ i < a.size, a.lower i < a.upper i)
    (hfall : ∀ i j, i < j → j < a.size → a.upper j ≤ a.lower i) :
    a.isAscending = true ↔ a.Deceptive := by
  rw [isAscending_iff_edges hsp ha]
  constructor
  · intro hle
    have hstart : a.lower 0 ≤ a.edge1At 0 := inf_le_left
    have hstop : a.edge2At (a.size - 1) ≤ a.upper (a.size - 1) := le_sup_right
    have htwo : a.size = 2 := by
      by_contra hmany
      have hfirst := hfall 0 1 Nat.one_pos (by omega)
      have hlast := hfall 1 (a.size - 1) (by omega) (by omega)
      have hinner := hwide 1 (by omega)
      linarith
    rw [htwo] at hle hstop
    -- Nothing is left between the two cells, so both values are the edge that they share.
    have hbelow := hfall 0 1 Nat.one_pos (by omega)
    have hlower : a.lower 0 = a.edge1At 0 := by linarith
    have hupper : a.upper 1 = a.edge2At 1 := by linarith
    have hwide₀ := hwide 0 (by omega)
    have hwide₁ := hwide 1 (by omega)
    refine ⟨hsp, htwo, ?_, ?_, ?_⟩
    · rw [hupper, lower, inf_lt_iff] at hwide₁
      exact hwide₁.resolve_right (lt_irrefl _)
    · linarith
    · rw [hlower, upper, lt_sup_iff] at hwide₀
      exact hwide₀.resolve_left (lt_irrefl _)
  · intro hdec
    rw [hdec.size]
    exact hdec.touch.ge

end Discontiguous

theorem Deceptive.midpoint_lt (h : a.Deceptive) : a.midpointAt 1 < a.midpointAt 0 := by
  have hcells : a.spacing.isInterval = true := by rw [h.spacing]; rfl
  have hlast := h.last
  have hfirst := h.first
  have htouch := h.touch
  rw [midpointAt_eq_center (precise_rat a) hcells, midpointAt_eq_center (precise_rat a) hcells]
  linarith

/-- On cells stored one by one in order, the test fails exactly for two deceptive ones. -/
theorem Ordered.isAscending_cells (h : a.Ordered) (ha : a.WellFormed)
    (hsp : a.spacing = .discontiguousInterval) (hsize : 2 ≤ a.size) :
    a.isAscending = true ↔ a.midpointAt 0 < a.midpointAt (a.size - 1) ∨ a.Deceptive := by
  have hcells : a.spacing.isInterval = true := by rw [hsp]; rfl
  have hapart := h.separated.apart ha hcells
  rcases h.centers hsp with hrise | hfall
  · have hlt := midpoint_pairwise hrise (i := 0) (j := a.size - 1) (by omega) (by omega)
    refine iff_of_true (isAscending_of_rise hsp ha ?_) (.inl hlt)
    exact hapart.upper_le_lower hcells (by omega) (by omega) hlt
  · have hbelow : ∀ i j, i < j → j < a.size → a.midpointAt j < a.midpointAt i := fun i j hij hj =>
      midpoint_pairwise (r := (· > ·)) hfall hij hj
    have hends := hbelow 0 (a.size - 1) (by omega) (by omega)
    rw [isAscending_iff_deceptive hsp ha hsize (apart_iff.1 hapart).1 fun i j hij hj =>
      hapart.upper_le_lower hcells hj (hij.trans hj) (hbelow i j hij hj)]
    exact (or_iff_right (not_lt.2 hends.le)).symm

/-- **When the test for the direction is right.** On an axis in order, with two coordinates or more, the
test says that the axis ascends exactly if the last midpoint is above the first, except for two cells that
touch, the upper one first, both stored from their lower edge: these descend, and the test says that they
ascend. -/
theorem isAscending_iff (ha : a.Built) (h : a.Ordered) (hsize : 2 ≤ a.size) :
    ∃ first last, a.midpoint 0 = .ok first ∧ a.midpoint (a.size - 1) = .ok last ∧
      (¬a.Deceptive → (a.isAscending = true ↔ first < last)) ∧
      (a.Deceptive → a.isAscending = true ∧ last < first) := by
  have hwell := ha.wellFormed
  refine ⟨_, _, checked_of_lt (by omega) _, checked_of_lt (by omega) _, ?_, ?_⟩
  · intro hplain
    cases hsp : a.spacing with
    | irregularPoint =>
      have hvalues := h.separated
      rw [Separated, hsp] at hvalues
      exact isAscending_iff_lt_of_values hwell (.inl hsp) hvalues (by omega) (by omega)
    | contiguousInterval =>
      have hvalues := h.separated
      rw [Separated, hsp] at hvalues
      exact isAscending_iff_lt_of_values hwell (.inr hsp) hvalues (by omega) (by omega)
    | discontiguousInterval =>
      rw [h.isAscending_cells hwell hsp hsize]
      exact or_iff_left hplain
    | _ =>
      have hres := h.separated
      rw [Separated, hsp] at hres
      exact isAscending_iff_lt_of_regular (by rw [hsp]; rfl) hres (by omega)
  · intro hdec
    refine ⟨(h.isAscending_cells hwell hdec.spacing hsize).2 (.inr hdec), ?_⟩
    rw [hdec.size]
    exact hdec.midpoint_lt

/-- Cells stored one by one, given by their edges. -/
def layers (edges : List ℚ) : Draft ℚ :=
  { Draft.blank with
    name := "z"
    kind := some .geoZ
    spacing := some .discontiguousInterval
    values := some edges }

/-- Three cells fall from 30 to 0, and the first and the last one are stored from the lower edge. -/
theorem isAscending_iff_falling : ∃ a, (layers [20, 30, 20, 10, 0, 10]).build = .ok a ∧ a.Ordered ∧
    2 ≤ a.size ∧ a.isAscending = false ∧ ∃ first last, a.midpoint 0 = .ok first ∧
      a.midpoint (a.size - 1) = .ok last ∧ (a.isAscending = true ↔ first < last) := by
  obtain ⟨a, ha, hord, hsize, hdec, hasc⟩ : ∃ a, (layers [20, 30, 20, 10, 0, 10]).build = .ok a ∧
      a.Ordered ∧ 2 ≤ a.size ∧ a.size ≠ 2 ∧ a.isAscending = false := by
    refine ⟨_, rfl, ⟨apart_iff.2 ?_, fun _ => .inr ?_⟩, ?_, ?_, ?_⟩
    · decide +kernel
    · decide +kernel
    · decide +kernel
    · decide +kernel
    · decide +kernel
  obtain ⟨first, last, hfirst, hlast, hright, -⟩ := isAscending_iff ⟨_, ha⟩ hord hsize
  exact ⟨a, ha, hord, hsize, hasc, first, last, hfirst, hlast, hright fun h => hdec h.size⟩

/-- The cell from 10 to 20 lies above the cell from 0 to 10, but the first value and the last one are both
10. -/
theorem isAscending_deceptive : ∃ a, (layers [10, 20, 0, 10]).build = .ok a ∧ a.Ordered ∧
    2 ≤ a.size ∧ a.isAscending = true ∧ a.midpoint 0 = .ok 15 ∧ a.midpoint (a.size - 1) = .ok 5 := by
  refine ⟨_, rfl, ⟨apart_iff.2 ?_, fun _ => .inr ?_⟩, ?_, ?_, ?_, ?_⟩
  · decide +kernel
  · decide +kernel
  · decide +kernel
  · decide +kernel
  · decide +kernel
  · decide +kernel

end Gridded.Axis
