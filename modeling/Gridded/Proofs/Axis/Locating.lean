import Mathlib.Algebra.Order.Field.Basic
import Mathlib.Algebra.Order.Ring.Abs
import Gridded.Proofs.Axis.Directions
import Gridded.Proofs.Axis.Single

/-!
# Cells and searches

A number strictly between the edges of a cell is found at the index of that cell, and so is the cell
itself. Cells with some width and disjoint interiors have no inner point in common with each other, edges
included, so a search among cells has no choice. On an axis of points the cells reach halfway to the
neighbours, so that each holds just the numbers that are nearer to its point than to any other.

* `Axis.interior`, `Axis.Apart`: the numbers inside a cell, and cells that share none;
* `Axis.apart_of_beyond`: cells that touch and go one way are apart;
* `Axis.Apart.closest_interior`, `Axis.Apart.closestCell_cellAt`: the searches among such cells;
* `Axis.Advances`: the axes that go one way and nowhere stand still;
* `Axis.Advances.nearer`: the numbers inside the cell of a point;
* `Axis.Separated`, `Axis.locate_cells`: the axes whose coordinates are kept apart, and all their searches.
-/

namespace Gridded

/-- Of two numbers the one at which `x` is not yet halfway to the other is nearer to `x`. -/
theorem abs_sub_lt_of_ahead {s x y z : ℚ} (hyz : 0 < s * (z - y)) (hx : 0 < s * (y + z - 2 * x)) :
    |y - x| < |z - x| := by
  have hprod : 0 < s * s * ((z - y) * (y + z - 2 * x)) := by
    have hmul := mul_pos hyz hx
    linarith
  have hpos := pos_of_mul_pos_right hprod (mul_self_nonneg s)
  rw [← sq_lt_sq]
  have hsq : (z - x) ^ 2 - (y - x) ^ 2 = (z - y) * (y + z - 2 * x) := by ring
  linarith

namespace Axis

variable {a : Axis ℚ} {s x : ℚ} {i j : ℕ}

/-! ### Cells that are apart -/

/-- The numbers strictly between the edges of a cell. -/
def interior (a : Axis ℚ) (i : ℕ) : Set ℚ := Set.uIoo (a.edge1At i) (a.edge2At i)

/-- Cells with some width, no two of which have an inner point in common. -/
structure Apart (a : Axis ℚ) : Prop where
  width_pos : ∀ i < a.size, 0 < (a.cellAt i).width
  disjoint : ∀ i < a.size, ∀ j < a.size, i ≠ j → a.interior i ∩ a.interior j = ∅

theorem width_pos_iff : 0 < (a.cellAt i).width ↔ a.edge1At i ≠ a.edge2At i := by
  rw [Interval.width, abs_rat, abs_pos, sub_ne_zero, ne_comm]
  rfl

theorem Apart.interior_nonempty (h : a.Apart) (hi : i < a.size) : (a.interior i).Nonempty :=
  Set.nonempty_uIoo.2 (width_pos_iff.1 (h.width_pos i hi))

theorem inside_iff : a.Inside x j ↔ j < a.size ∧ x ∈ Set.uIcc (a.edge1At j) (a.edge2At j) := by
  rw [Set.mem_uIcc]
  rfl

/-- A number inside a cell is not in another cell, and not on an edge of it either. -/
theorem Apart.eq_of_inside (h : a.Apart) (hi : i < a.size) (hx : x ∈ a.interior i)
    (hin : a.Inside x j) : j = i := by
  obtain ⟨hj, hle, hge⟩ := inside_iff.1 hin
  by_contra hne
  -- Some numbers near `x` would be inside both cells.
  have hwide : a.edge1At j ⊓ a.edge2At j < a.edge1At j ⊔ a.edge2At j :=
    inf_lt_sup.2 (width_pos_iff.1 (h.width_pos j hj))
  obtain ⟨hlow, hhigh⟩ := hx
  have hmeet : max (a.edge1At i ⊓ a.edge2At i) (a.edge1At j ⊓ a.edge2At j) <
      min (a.edge1At i ⊔ a.edge2At i) (a.edge1At j ⊔ a.edge2At j) := by
    refine max_lt (lt_min (hlow.trans hhigh) (hlow.trans_le hge)) (lt_min ?_ hwide)
    exact hle.trans_lt hhigh
  obtain ⟨y, hy⟩ := exists_between hmeet
  rw [max_lt_iff, lt_min_iff] at hy
  have hnone : y ∉ a.interior i ∩ a.interior j := by
    rw [h.disjoint i hi j hj (Ne.symm hne)]
    exact Set.notMem_empty y
  exact hnone ⟨⟨hy.1.1, hy.2.1⟩, ⟨hy.1.2, hy.2.2⟩⟩

/-- Cells that touch and go one way are apart. -/
theorem apart_of_beyond (hsp : a.spacing ≠ .discontiguousInterval)
    (hcells : ∀ k < a.size, 0 < s * (a.edge2At k - a.edge1At k)) : a.Apart := by
  have hbefore : ∀ i j, i < j → j < a.size → a.interior i ∩ a.interior j = ∅ := by
    intro i j hij hj
    have hapart := edge1At_beyond hsp (fun k hk => (hcells k hk).le) hij hj
    refine Set.eq_empty_of_forall_notMem fun y ⟨hyi, hyj⟩ => ?_
    have hstop := (ahead_of_mem_uIoo (hcells i (hij.trans hj)) hyi).2
    have hstart := (ahead_of_mem_uIoo (hcells j hj) hyj).1
    linarith
  refine ⟨fun i hi => width_pos_iff.2 (ne_of_beyond (hcells i hi)), fun i hi j hj hne => ?_⟩
  rcases lt_or_gt_of_ne hne with hij | hji
  · exact hbefore i j hij hj
  · rw [Set.inter_comm]
    exact hbefore j i hji hi

theorem inside_of_interior (hi : i < a.size) (hx : x ∈ a.interior i) : a.Inside x i :=
  inside_iff.2 ⟨hi, hx.1.le, hx.2.le⟩

/-- A number inside a cell is found there. -/
theorem Apart.closest_interior (h : a.Apart) (hcells : a.spacing.isInterval = true) (hi : i < a.size)
    (hx : x ∈ a.interior i) : a.closest x = .ok i := by
  obtain ⟨k, hk, hleast⟩ := exists_closest_of_inside rfl (fun _ _ => rfl) hcells
    ⟨i, inside_of_interior hi hx⟩
  rw [hk, h.eq_of_inside hi hx hleast.holds]

theorem distanceToCell_cellAt (a : Axis ℚ) (i k : ℕ) : a.distanceToCell (a.cellAt i) k =
    |a.edge1At k - a.edge1At i| + |a.edge2At k - a.edge2At i| := by
  rw [distanceToCell, abs_rat, abs_rat]
  rfl

/-- A cell is found where it is: any other cell is at some distance from it. -/
theorem Apart.closestCell_cellAt (h : a.Apart) (hcells : a.spacing.isInterval = true)
    (hi : i < a.size) : a.closestCell (a.cellAt i) = .ok i := by
  obtain ⟨k, hk, hleast⟩ : ∃ k, firstLeast (a.distanceToCell (a.cellAt i)) a.indices = some k ∧
      IsFirstLeast (a.distanceToCell (a.cellAt i)) (· < a.size) k :=
    exists_firstLeast_indices (Nat.zero_lt_of_lt hi) fun _ _ => rfl
  have hdist := hleast.least i hi
  simp only [distanceToCell_cellAt, sub_self, abs_zero, add_zero] at hdist
  have hstart := abs_nonneg (a.edge1At k - a.edge1At i)
  have hstop := abs_nonneg (a.edge2At k - a.edge2At i)
  have h₁ : a.edge1At k = a.edge1At i := sub_eq_zero.1 (abs_eq_zero.1 (by linarith))
  have h₂ : a.edge2At k = a.edge2At i := sub_eq_zero.1 (abs_eq_zero.1 (by linarith))
  have hki : k = i := by
    obtain ⟨y, hy⟩ := h.interior_nonempty hi
    refine h.eq_of_inside hi hy (inside_of_interior hleast.holds ?_)
    rwa [interior, h₁, h₂]
  rw [closestCell_eq rfl rfl, if_pos hcells, hk, hki]
  rfl

/-! ### Points that go one way -/

theorem ne_discontiguous_of_points (hpoint : a.spacing.isInterval = false) :
    a.spacing ≠ .discontiguousInterval := fun hsp => by
  rw [hsp] at hpoint
  cases hpoint

/-- The cell of a point reaches halfway to the next point. -/
theorem edge2At_eq_halfway (hpoint : a.spacing.isInterval = false) (hi : i + 1 < a.size) :
    a.edge2At i = (a.midpointAt i + a.midpointAt (i + 1)) / 2 := by
  cases hsp : a.spacing with
  | regularPoint =>
    simp only [edge2At, midpointAt, hsp, ofNat_rat, half_rat]
    push_cast
    ring
  | irregularPoint =>
    rw [edge2At_of_lt hsp hi, midpointAt_of_irregularPoint hsp, midpointAt_of_irregularPoint hsp]
  | _ =>
    rw [hsp] at hpoint
    cases hpoint

/-- An axis whose points and cells all go the way of a number, and nowhere stand still. -/
structure Advances (a : Axis ℚ) (s : ℚ) : Prop where
  cell : ∀ k < a.size, 0 < s * (a.edge2At k - a.edge1At k)
  point : a.spacing.isInterval = false →
    ∀ j k, j < k → k < a.size → 0 < s * (a.midpointAt k - a.midpointAt j)

/-- A number inside the cell of a point is nearer to this point than to any other. -/
theorem Advances.nearer (h : a.Advances s) (hpoint : a.spacing.isInterval = false) (hi : i < a.size)
    (hx : x ∈ a.interior i) (hj : j < a.size) (hne : j ≠ i) :
    |a.midpointAt i - x| < |a.midpointAt j - x| := by
  have hspacing := ne_discontiguous_of_points hpoint
  obtain ⟨hstart, hstop⟩ := ahead_of_mem_uIoo (h.cell i hi) hx
  rcases lt_or_gt_of_ne hne with hji | hij
  · -- Looking back, `x` is beyond the number halfway to the point before, and `j` is not after that.
    obtain ⟨k, rfl⟩ := Nat.exists_eq_succ_of_ne_zero (Nat.ne_zero_of_lt hji)
    rw [← edge2At_eq_edge1At_succ hspacing hi, edge2At_eq_halfway hpoint hi] at hstart
    have hle : 0 ≤ s * (a.midpointAt k - a.midpointAt j) := by
      rcases Nat.lt_succ_iff_lt_or_eq.1 hji with hlt | rfl
      · exact (h.point hpoint j k hlt (Nat.lt_of_succ_lt hi)).le
      · simp
    have hback := h.point hpoint j (k + 1) hji hi
    exact abs_sub_lt_of_ahead (s := -s) (by linarith) (by linarith)
  · have hnext : i + 1 < a.size := lt_of_le_of_lt hij hj
    rw [edge2At_eq_halfway hpoint hnext] at hstop
    have hle : 0 ≤ s * (a.midpointAt j - a.midpointAt (i + 1)) := by
      rcases Nat.lt_or_eq_of_le hij with hlt | rfl
      · exact (h.point hpoint (i + 1) j hlt hj).le
      · simp
    exact abs_sub_lt_of_ahead (h.point hpoint i j hij hj) (by linarith)

/-- A number inside the cell of a point is found at this point. -/
theorem Advances.closest_interior (h : a.Advances s) (hpoint : a.spacing.isInterval = false)
    (hi : i < a.size) (hx : x ∈ a.interior i) : a.closest x = .ok i := by
  obtain ⟨k, hk, hleast⟩ := exists_closest_of_nil (Nat.zero_lt_of_lt hi) rfl (fun _ _ => rfl)
    (containing_of_points hpoint x)
  by_cases hki : k = i
  · rw [hk, hki]
  · have hnearer := h.nearer hpoint hi hx hleast.holds hki
    have hle : a.distanceTo x k ≤ a.distanceTo x i := hleast.least i hi
    rw [distanceTo, distanceTo, abs_rat, abs_rat] at hle
    exact absurd hnearer (not_lt.2 hle)

theorem center_mem_interior (h : a.edge1At i ≠ a.edge2At i) :
    (a.cellAt i).midpoint ∈ a.interior i := by
  show (a.edge1At i + a.edge2At i) / 2 ∈ Set.uIoo (a.edge1At i) (a.edge2At i)
  rcases lt_or_gt_of_ne h with hlt | hgt
  · rw [Set.uIoo_of_lt hlt]
    constructor <;> linarith
  · rw [Set.uIoo_of_gt hgt]
    constructor <;> linarith

/-- The cell of a point is found at this point, since its center is inside. -/
theorem Advances.closestCell_cellAt (h : a.Advances s) (hpoint : a.spacing.isInterval = false)
    (hi : i < a.size) : a.closestCell (a.cellAt i) = .ok i := by
  rw [closestCell_eq rfl rfl, hpoint]
  exact h.closest_interior hpoint hi (center_mem_interior (ne_of_beyond (h.cell i hi)))

/-! ### Axes in order -/

/-- The axes whose coordinates are kept apart: regular ones that do not stand still, those that store
points or adjacent edges in strict order, and those that store cells one by one if these cells are apart. -/
def Separated (a : Axis ℚ) : Prop :=
  match a.spacing with
  | .regularPoint | .regularInterval => a.resolution ≠ 0
  | .irregularPoint | .contiguousInterval =>
    a.values.Pairwise (· < ·) ∨ a.values.Pairwise (· > ·)
  | .discontiguousInterval => a.Apart

/-- The cells of a regular axis go the way of its resolution, and so do its points. -/
theorem advances_of_regular (hreg : a.spacing.isRegular = true) (hres : a.resolution ≠ 0) :
    a.Advances a.resolution := by
  have hsq : 0 < a.resolution * a.resolution := mul_self_pos.2 hres
  refine ⟨fun k _ => ?_, fun _ j k hjk _ => midpoints_beyond_of_regular hreg hres hjk⟩
  rwa [span_of_regular hreg]

/-- An axis that stores its points or adjacent edges in strict order goes the way of these values, unless
it is a single point. -/
theorem exists_advances_of_values (ha : a.WellFormed)
    (hsp : a.spacing = .irregularPoint ∧ 1 < a.size ∨ a.spacing = .contiguousInterval)
    (hvalues : a.values.Pairwise (· < ·) ∨ a.values.Pairwise (· > ·)) : ∃ s, a.Advances s := by
  obtain ⟨s, hbeyond⟩ := pairwise_beyond hvalues
  refine ⟨s, fun k hk => span_beyond ha hbeyond hsp hk, fun hpoint j k hjk hk => ?_⟩
  rcases hsp with ⟨hsp, -⟩ | hsp
  · have hlength : a.values.length = a.size := by rw [ha.length_values, hsp]; rfl
    rw [midpointAt_of_irregularPoint hsp, midpointAt_of_irregularPoint hsp]
    exact value_pairwise hbeyond hjk (hlength ▸ hk)
  · rw [hsp] at hpoint
    cases hpoint

theorem Separated.exists_advances (h : a.Separated) (ha : a.WellFormed)
    (hsp : a.spacing ≠ .discontiguousInterval) (hmany : a.spacing = .irregularPoint → 1 < a.size) :
    ∃ s, a.Advances s := by
  unfold Separated at h
  cases hspacing : a.spacing with
  | irregularPoint =>
    rw [hspacing] at h
    exact exists_advances_of_values ha (.inl ⟨hspacing, hmany hspacing⟩) h
  | contiguousInterval =>
    rw [hspacing] at h
    exact exists_advances_of_values ha (.inr hspacing) h
  | discontiguousInterval => exact absurd hspacing hsp
  | _ =>
    rw [hspacing] at h
    exact ⟨a.resolution, advances_of_regular (by rw [hspacing]; rfl) h⟩

theorem Separated.locate_points (h : a.Separated) (ha : a.WellFormed)
    (hpoint : a.spacing.isInterval = false) (hi : i < a.size) :
    (∀ x ∈ a.interior i, a.closest x = .ok i) ∧ a.closestCell (a.cellAt i) = .ok i := by
  by_cases hsingle : a.size = 1
  · obtain rfl : i = 0 := by omega
    exact ⟨fun x _ => closest_of_one hsingle x, closestCell_of_one hsingle _⟩
  · obtain ⟨s, hs⟩ := h.exists_advances ha (ne_discontiguous_of_points hpoint) fun _ => by omega
    exact ⟨fun x hx => hs.closest_interior hpoint hi hx, hs.closestCell_cellAt hpoint hi⟩

theorem Separated.apart (h : a.Separated) (ha : a.WellFormed) (hcells : a.spacing.isInterval = true) :
    a.Apart := by
  by_cases hsp : a.spacing = .discontiguousInterval
  · simpa only [Separated, hsp] using h
  · obtain ⟨s, hs⟩ := h.exists_advances ha hsp fun hpoint => by
      rw [hpoint] at hcells
      cases hcells
    exact apart_of_beyond hsp hs.cell

/-- **Cells and searches agree.** On a built axis whose coordinates are kept apart, every number strictly
between the edges of a cell is found at the index of this cell, and so is the cell. -/
theorem locate_cells (ha : a.Built) (hsep : a.Separated) (hi : i < a.size) :
    ∃ e₁ e₂, a.edge1 i = .ok e₁ ∧ a.edge2 i = .ok e₂ ∧
      (∀ x ∈ Set.uIoo e₁ e₂, a.closest x = .ok i) ∧
      a.cell i = .ok ⟨e₁, e₂⟩ ∧ a.closestCell ⟨e₁, e₂⟩ = .ok i := by
  obtain ⟨hnumber, hcell⟩ : (∀ x ∈ a.interior i, a.closest x = .ok i) ∧
      a.closestCell (a.cellAt i) = .ok i := by
    cases hcells : a.spacing.isInterval with
    | false => exact hsep.locate_points ha.wellFormed hcells hi
    | true =>
      have hapart := hsep.apart ha.wellFormed hcells
      exact ⟨fun x hx => hapart.closest_interior hcells hi hx, hapart.closestCell_cellAt hcells hi⟩
  exact ⟨_, _, checked_of_lt hi _, checked_of_lt hi _, hnumber, checked_of_lt hi _, hcell⟩

/-- The points 8, 4, 2 and 1 descend. The cell of the point 4 reaches from 6 to 3, and 5 is in it. -/
theorem locate_cells_halving :
    ∃ a, (points [8, 4, 2, 1]).build = .ok a ∧ a.Separated ∧ 1 < a.size ∧
      a.closest 5 = .ok 1 ∧ a.closestCell ⟨6, 3⟩ = .ok 1 := by
  obtain ⟨a, ha, hsep, hsize, h₁, h₂⟩ : ∃ a, (points [8, 4, 2, 1]).build = .ok a ∧ a.Separated ∧
      1 < a.size ∧ a.edge1 1 = .ok 6 ∧ a.edge2 1 = .ok 3 := by
    refine ⟨_, rfl, .inr ?_, ?_, ?_, ?_⟩ <;> decide +kernel
  obtain ⟨e₁, e₂, he₁, he₂, hnumber, -, hcell⟩ := locate_cells ⟨_, ha⟩ hsep hsize
  obtain rfl : e₁ = 6 := Except.ok.inj (he₁.symm.trans h₁)
  obtain rfl : e₂ = 3 := Except.ok.inj (he₂.symm.trans h₂)
  refine ⟨a, ha, hsep, hsize, hnumber 5 ?_, hcell⟩
  rw [Set.uIoo_of_gt (by norm_num)]
  constructor <;> norm_num

end Axis

end Gridded
