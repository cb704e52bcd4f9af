import Gridded.Proofs.Axis.Cells

/-!
# Axes that run one way

How the order of stored values passes to the cells. The distance between the edges of a cell is a step
from one value to the next, or the mean of two such steps, or the resolution. So if all steps go one way,
all cells go that way, and adjacent cells make one chain.

A direction is a number `s`, of which only the sign matters: `y` is at `x` or beyond it if
`0 ≤ s * (y - x)`. This treats axes that ascend and axes that descend alike.

* `Axis.pairwise_ahead`, `Axis.pairwise_beyond`: the direction of values in order;
* `Axis.span_of_regular`, `Axis.span_of_values`: the distance between the edges of a cell;
* `Axis.steps_of_regular`: the distance between midpoints at regular steps;
* `Axis.span_ahead`, `Axis.span_beyond`: cells go the way that values go;
* `Axis.edge1At_ahead`, `Axis.edge1At_beyond`, `Axis.ends_ahead`: the edges of adjacent cells, in order.
-/

namespace Gridded

/-! ### Between two numbers -/

section Between

variable {s x y z : ℚ}

theorem mem_uIcc_of_ahead (hs : s ≠ 0) (hx : 0 ≤ s * (z - x)) (hy : 0 ≤ s * (y - z)) :
    z ∈ Set.uIcc x y := by
  rw [Set.mem_uIcc]
  rcases hs.lt_or_gt with hs | hs
  · have hzx := nonpos_of_mul_nonneg_right hx hs
    have hyz := nonpos_of_mul_nonneg_right hy hs
    exact .inr ⟨by linarith, by linarith⟩
  · have hxz := (mul_nonneg_iff_of_pos_left hs).1 hx
    have hzy := (mul_nonneg_iff_of_pos_left hs).1 hy
    exact .inl ⟨by linarith, by linarith⟩

theorem ne_of_beyond (h : 0 < s * (y - x)) : x ≠ y := by
  rintro rfl
  rw [sub_self, mul_zero] at h
  exact lt_irrefl 0 h

/-- A number strictly between two others is ahead of the first and behind the second. -/
theorem ahead_of_mem_uIoo (h : 0 < s * (y - x)) (hz : z ∈ Set.uIoo x y) :
    0 < s * (z - x) ∧ 0 < s * (y - z) := by
  rcases mul_pos_iff.1 h with ⟨hs, hxy⟩ | ⟨hs, hyx⟩
  · rw [Set.uIoo_of_le (by linarith)] at hz
    exact ⟨mul_pos hs (by linarith [hz.1]), mul_pos hs (by linarith [hz.2])⟩
  · rw [Set.uIoo_of_ge (by linarith)] at hz
    exact ⟨mul_pos_of_neg_of_neg hs (by linarith [hz.2]),
      mul_pos_of_neg_of_neg hs (by linarith [hz.1])⟩

end Between

namespace Axis

variable {a : Axis ℚ} {s : ℚ} {i j : ℕ}

/-! ### Values in order -/

theorem value_of_lt (hi : i < a.values.length) : a.value i = a.values[i] := by
  rw [value, List.getD, List.getElem?_eq_getElem hi]
  rfl

theorem value_pairwise {r : ℚ → ℚ → Prop} (h : a.values.Pairwise r) (hij : i < j)
    (hj : j < a.values.length) : r (a.value i) (a.value j) := by
  rw [value_of_lt (hij.trans hj), value_of_lt hj]
  exact List.pairwise_iff_getElem.1 h i j (hij.trans hj) hj hij

/-- Values in order run one way: 1 if they ascend and -1 if they descend. -/
theorem pairwise_ahead {l : List ℚ} (h : l.Pairwise (· ≤ ·) ∨ l.Pairwise (· ≥ ·)) :
    ∃ s : ℚ, s ≠ 0 ∧ l.Pairwise fun x y => 0 ≤ s * (y - x) := by
  rcases h with h | h
  · exact ⟨1, by norm_num, h.imp fun hxy => by linarith⟩
  · exact ⟨-1, by norm_num, h.imp fun hxy => by linarith⟩

/-- Values in strict order run one way and do not stand still. -/
theorem pairwise_beyond {l : List ℚ} (h : l.Pairwise (· < ·) ∨ l.Pairwise (· > ·)) :
    ∃ s : ℚ, l.Pairwise fun x y => 0 < s * (y - x) := by
  rcases h with h | h
  · exact ⟨1, h.imp fun hxy => by linarith⟩
  · exact ⟨-1, h.imp fun hxy => by linarith⟩

/-! ### From edge to edge -/

theorem span_of_regular (hreg : a.spacing.isRegular = true) (i : ℕ) :
    a.edge2At i - a.edge1At i = a.resolution := by
  cases hsp : a.spacing with
  | regularPoint =>
    simp only [edge1At, edge2At, hsp, ofNat_rat, half_rat]
    ring
  | regularInterval =>
    simp only [edge1At, edge2At, hsp, ofNat_rat]
    push_cast
    ring
  | _ =>
    rw [hsp] at hreg
    cases hreg

/-- From one midpoint of a regular axis to another one it is as many steps as there are indices. -/
theorem steps_of_regular (hreg : a.spacing.isRegular = true) (i j : ℕ) :
    a.midpointAt j - a.midpointAt i = ((j : ℚ) - i) * a.resolution := by
  cases hsp : a.spacing with
  | regularPoint =>
    simp only [midpointAt, hsp, ofNat_rat]
    ring
  | regularInterval =>
    simp only [midpointAt, hsp, ofNat_rat, half_rat]
    ring
  | _ =>
    rw [hsp] at hreg
    cases hreg

/-- A regular axis goes the way of its resolution. -/
theorem midpoints_beyond_of_regular (hreg : a.spacing.isRegular = true) (hres : a.resolution ≠ 0)
    (hij : i < j) : 0 < a.resolution * (a.midpointAt j - a.midpointAt i) := by
  have hsq : 0 < a.resolution * a.resolution := mul_self_pos.2 hres
  have hindex : (0 : ℚ) < (j : ℚ) - i := sub_pos.2 (Nat.cast_lt.2 hij)
  rw [steps_of_regular hreg]
  linarith [mul_pos hindex hsq]

section Points

variable (hsp : a.spacing = .irregularPoint)

include hsp

/-- The first cell of points is as wide as the first step. -/
theorem span_zero (h : 1 < a.size) : a.edge2At 0 - a.edge1At 0 = a.value 1 - a.value 0 := by
  rw [edge1At_zero hsp h, edge2At_of_lt hsp h]
  ring

/-- A cell between other ones is as wide as the mean of the steps on both sides. -/
theorem span_inner (hi : i + 2 < a.size) : a.edge2At (i + 1) - a.edge1At (i + 1) =
    ((a.value (i + 1) - a.value i) + (a.value (i + 2) - a.value (i + 1))) / 2 := by
  rw [edge1At_succ hsp (by omega), edge2At_of_lt hsp hi]
  ring

/-- The last cell is as wide as the last step. -/
theorem span_last (hi : i + 2 = a.size) :
    a.edge2At (i + 1) - a.edge1At (i + 1) = a.value (i + 1) - a.value i := by
  rw [edge1At_succ hsp (by omega), edge2At_last hsp hi]
  ring

end Points

/-- What holds of the differences between values in order, and with two numbers of their mean, holds from
edge to edge of every cell. -/
theorem span_of_values {p : ℚ → Prop} (ha : a.WellFormed)
    (hmean : ∀ x y, p x → p y → p ((x + y) / 2))
    (hvalues : a.values.Pairwise fun x y => p (y - x))
    (hsp : a.spacing = .irregularPoint ∧ 1 < a.size ∨ a.spacing = .contiguousInterval)
    (hi : i < a.size) : p (a.edge2At i - a.edge1At i) := by
  have hsteps : ∀ j, j + 1 < a.values.length → p (a.value (j + 1) - a.value j) := fun j hj =>
    value_pairwise hvalues (Nat.lt_succ_self j) hj
  have hlength := ha.length_values
  rcases hsp with ⟨hsp, hmany⟩ | hsp
  · rw [hsp, Spacing.valuesLen] at hlength
    rw [hlength] at hsteps
    rcases i with _ | i
    · rw [span_zero hsp hmany]
      exact hsteps 0 hmany
    · by_cases hlast : i + 2 = a.size
      · rw [span_last hsp hlast]
        exact hsteps i hi
      · have hnext : i + 2 < a.size := by omega
        rw [span_inner hsp hnext]
        exact hmean _ _ (hsteps i hi) (hsteps (i + 1) hnext)
  · rw [hsp, Spacing.valuesLen] at hlength
    have hspan : a.edge2At i - a.edge1At i = a.value (i + 1) - a.value i := by
      simp only [edge1At, edge2At, hsp]
    rw [hspan]
    exact hsteps i (by omega)

theorem mul_mean (s x y : ℚ) : s * ((x + y) / 2) = (s * x + s * y) / 2 := by
  ring

/-- Cells go the way that values go. -/
theorem span_ahead (ha : a.WellFormed) (hvalues : a.values.Pairwise fun x y => 0 ≤ s * (y - x))
    (hsp : a.spacing = .irregularPoint ∧ 1 < a.size ∨ a.spacing = .contiguousInterval)
    (hi : i < a.size) : 0 ≤ s * (a.edge2At i - a.edge1At i) := by
  refine span_of_values (p := fun x => 0 ≤ s * x) ha (fun x y hx hy => ?_) hvalues hsp hi
  rw [mul_mean]
  linarith

/-- Cells have some width if values do not stand still. -/
theorem span_beyond (ha : a.WellFormed) (hvalues : a.values.Pairwise fun x y => 0 < s * (y - x))
    (hsp : a.spacing = .irregularPoint ∧ 1 < a.size ∨ a.spacing = .contiguousInterval)
    (hi : i < a.size) : 0 < s * (a.edge2At i - a.edge1At i) := by
  refine span_of_values (p := fun x => 0 < s * x) ha (fun x y hx hy => ?_) hvalues hsp hi
  rw [mul_mean]
  linarith

/-! ### Edges in order -/

section Chain

variable (hsp : a.spacing ≠ .discontiguousInterval)
  (hcells : ∀ k < a.size, 0 ≤ s * (a.edge2At k - a.edge1At k))

include hsp hcells

/-- The first edges of adjacent cells are in the order of the cells. -/
theorem edge1At_ahead (hij : i ≤ j) (hj : j < a.size) : 0 ≤ s * (a.edge1At j - a.edge1At i) := by
  induction j, hij using Nat.le_induction with
  | base => simp
  | succ j hij ih =>
    have hj' : j < a.size := by omega
    have hcell := hcells j hj'
    rw [edge2At_eq_edge1At_succ hsp hj] at hcell
    linarith [ih hj']

/-- A cell starts at or beyond the second edges of all cells before it. -/
theorem edge1At_beyond (hij : i < j) (hj : j < a.size) : 0 ≤ s * (a.edge1At j - a.edge2At i) := by
  rw [edge2At_eq_edge1At_succ hsp (lt_of_le_of_lt hij hj)]
  exact edge1At_ahead hsp hcells hij hj

/-- Every cell is between the ends of the axis. -/
theorem ends_ahead (hi : i < a.size) : 0 ≤ s * (a.edge1At i - a.edge1At 0) ∧
    0 ≤ s * (a.edge2At (a.size - 1) - a.edge2At i) := by
  refine ⟨edge1At_ahead hsp hcells (Nat.zero_le i) hi, ?_⟩
  rcases Nat.lt_or_ge i (a.size - 1) with hlt | hge
  · have hlast : a.size - 1 < a.size := by omega
    have hstart := edge1At_beyond hsp hcells hlt hlast
    have hcell := hcells (a.size - 1) hlast
    linarith
  · obtain rfl : i = a.size - 1 := by omega
    simp

end Chain

end Axis

end Gridded
