import Mathlib.Order.Interval.Set.UnorderedInterval
import Mathlib.Tactic.Linarith
import Gridded.Proofs.Axis.Searching
import Gridded.Proofs.Axis.Taking

/-!
# Cells and their centers

Where a midpoint is in its cell, in exact arithmetic. A cell of a regular axis, or one that is stored, has
its midpoint in its center, and so have the two cells at the ends of irregular points. Every other cell of
a point reaches halfway to the neighbours, so the point is in it only if it lies between these.

* `Axis.edge2At_eq_edge1At_succ`: cells that are not stored one by one are adjacent;
* `Axis.IsInner`: the points whose cells reach halfway to a neighbour on both sides;
* `Axis.midpointAt_eq_center_of_outer`: all other midpoints are centers;
* `Axis.midpoint_mem_cell_iff`: when a midpoint is in its cell.
-/

namespace Gridded.Axis

variable {a : Axis ℚ} {i : ℕ}

/-! ### The edges of points -/

/-- Cells that are not stored one by one are adjacent. -/
theorem edge2At_eq_edge1At_succ (hspacing : a.spacing ≠ .discontiguousInterval)
    (hi : i + 1 < a.size) : a.edge2At i = a.edge1At (i + 1) := by
  cases hsp : a.spacing with
  | regularPoint =>
    simp only [edge1At, edge2At, hsp, ofNat_rat, half_rat]
    push_cast
    ring
  | regularInterval => simp only [edge1At, edge2At, hsp]
  | irregularPoint =>
    have hmany : a.size ≠ 1 := by omega
    have hinner : i < a.size - 1 := by omega
    simp [edge1At, edge2At, hsp, hmany, hinner]
  | contiguousInterval => simp only [edge1At, edge2At, hsp]
  | discontiguousInterval => exact absurd hsp hspacing

section Points

variable (hsp : a.spacing = .irregularPoint)

include hsp

theorem midpointAt_of_irregularPoint : a.midpointAt i = a.value i := by
  simp only [midpointAt, hsp]

/-- A single point has a cell of no width. -/
theorem edges_of_single (h : a.size = 1) : a.edge1At i = a.value 0 ∧ a.edge2At i = a.value 0 := by
  simp [edge1At, edge2At, hsp, h]

/-- The first cell reaches as far below its point as above it. -/
theorem edge1At_zero (h : 1 < a.size) :
    a.edge1At 0 = a.value 0 - (a.value 1 - a.value 0) / 2 := by
  have hmany : a.size ≠ 1 := by omega
  simp [edge1At, hsp, hmany]

theorem edge1At_succ (hi : i + 1 < a.size) :
    a.edge1At (i + 1) = (a.value i + a.value (i + 1)) / 2 := by
  have hmany : a.size ≠ 1 := by omega
  simp [edge1At, hsp, hmany]

theorem edge2At_of_lt (hi : i + 1 < a.size) :
    a.edge2At i = (a.value i + a.value (i + 1)) / 2 := by
  have hmany : a.size ≠ 1 := by omega
  have hinner : i < a.size - 1 := by omega
  simp [edge2At, hsp, hmany, hinner]

/-- The last cell reaches as far above its point as below it. -/
theorem edge2At_last (hi : i + 2 = a.size) :
    a.edge2At (i + 1) = a.value (i + 1) + (a.value (i + 1) - a.value i) / 2 := by
  have hmany : a.size ≠ 1 := by omega
  have hlast : ¬i + 1 < a.size - 1 := by omega
  have hsize : a.size - 1 = i + 1 := by omega
  have hsize' : a.size - 2 = i := by omega
  simp [edge2At, hsp, hmany, hsize, hsize']

end Points

/-! ### Centers -/

/-- A point of an irregular axis with neighbours on both sides. -/
def IsInner (a : Axis ℚ) (i : ℕ) : Prop :=
  a.spacing = .irregularPoint ∧ 0 < i ∧ i + 1 < a.size

/-- A point that does not have neighbours on both sides is the center of its cell. -/
theorem midpointAt_eq_center_of_end (hsp : a.spacing = .irregularPoint) (hi : i < a.size)
    (hend : i = 0 ∨ i + 1 = a.size) : a.midpointAt i = (a.edge1At i + a.edge2At i) / 2 := by
  rw [midpointAt_of_irregularPoint hsp]
  by_cases hsingle : a.size = 1
  · obtain ⟨h₁, h₂⟩ := edges_of_single (i := i) hsp hsingle
    obtain rfl : i = 0 := by omega
    rw [h₁, h₂]
    ring
  · rcases i with _ | i
    · rw [edge1At_zero hsp (by omega), edge2At_of_lt hsp (by omega)]
      ring
    · rw [edge1At_succ hsp hi, edge2At_last hsp (by omega)]
      ring

theorem midpointAt_eq_center_of_outer (hi : i < a.size) (houter : ¬a.IsInner i) :
    a.midpointAt i = (a.edge1At i + a.edge2At i) / 2 := by
  cases hcells : a.spacing.isInterval with
  | true => exact midpointAt_eq_center (precise_rat a) hcells i
  | false =>
    cases hsp : a.spacing with
    | regularPoint =>
      simp only [midpointAt, edge1At, edge2At, hsp, ofNat_rat, half_rat]
      ring
    | irregularPoint =>
      refine midpointAt_eq_center_of_end hsp hi ?_
      by_contra hends
      exact houter ⟨hsp, by omega, by omega⟩
    | _ =>
      rw [hsp] at hcells
      cases hcells

/-- The center of two edges is between them. -/
theorem center_mem (x y : ℚ) : (x + y) / 2 ∈ Set.uIcc x y := by
  rw [Set.mem_uIcc]
  rcases le_total x y with h | h
  · exact .inl ⟨by linarith, by linarith⟩
  · exact .inr ⟨by linarith, by linarith⟩

/-- A number is between those halfway to its neighbours exactly if it is between the neighbours. -/
theorem mem_halfway_iff (x y z : ℚ) : y ∈ Set.uIcc ((x + y) / 2) ((y + z) / 2) ↔ y ∈ Set.uIcc x z := by
  rw [Set.mem_uIcc, Set.mem_uIcc]
  refine or_congr (and_congr ?_ ?_) (and_congr ?_ ?_)
  · constructor <;> intro h <;> linarith
  · constructor <;> intro h <;> linarith
  · constructor <;> intro h <;> linarith
  · constructor <;> intro h <;> linarith

/-- **When a midpoint is in its cell**, whichever of the edges is the larger one: always, except that a
point with neighbours on both sides has to be between these. -/
theorem midpoint_mem_cell_iff (hi : i < a.size) :
    ∃ m e₁ e₂, a.midpoint i = .ok m ∧ a.edge1 i = .ok e₁ ∧ a.edge2 i = .ok e₂ ∧
      (m ∈ Set.uIcc e₁ e₂ ↔
        (a.IsInner i → a.value i ∈ Set.uIcc (a.value (i - 1)) (a.value (i + 1)))) := by
  refine ⟨_, _, _, checked_of_lt hi _, checked_of_lt hi _, checked_of_lt hi _, ?_⟩
  by_cases hinner : a.IsInner i
  · obtain ⟨hsp, hpos, hlast⟩ := id hinner
    obtain ⟨k, rfl⟩ := Nat.exists_eq_succ_of_ne_zero hpos.ne'
    rw [midpointAt_of_irregularPoint hsp, edge1At_succ hsp hi, edge2At_of_lt hsp hlast]
    simp only [hinner, true_imp_iff]
    exact mem_halfway_iff _ _ _
  · rw [midpointAt_eq_center_of_outer hi hinner]
    exact iff_of_true (center_mem _ _) fun h => absurd h hinner

/-- Irregular points. -/
def points (values : List ℚ) : Draft ℚ :=
  { Draft.blank with
    name := "z"
    kind := some .geoZ
    spacing := some .irregularPoint
    values := some values }

/-- The point 2 is between its neighbours, and so it is in its cell, which reaches from 3/2 to 3. -/
theorem midpoint_mem_cell_doubling :
    ∃ a, (points [1, 2, 4, 8]).build = .ok a ∧ 1 < a.size ∧ a.IsInner 1 ∧
      ∃ m e₁ e₂, a.midpoint 1 = .ok m ∧ a.edge1 1 = .ok e₁ ∧ a.edge2 1 = .ok e₂ ∧
        m ∈ Set.uIcc e₁ e₂ := by
  obtain ⟨a, ha, hi, hinner, hbetween⟩ : ∃ a, (points [1, 2, 4, 8]).build = .ok a ∧ 1 < a.size ∧
      a.IsInner 1 ∧ a.value 0 ≤ a.value 1 ∧ a.value 1 ≤ a.value 2 := by
    refine ⟨_, rfl, ?_, ⟨rfl, ?_, ?_⟩, ?_⟩ <;> decide +kernel
  obtain ⟨m, e₁, e₂, hm, h₁, h₂, hiff⟩ := midpoint_mem_cell_iff hi
  exact ⟨a, ha, hi, hinner, m, e₁, e₂, hm, h₁, h₂,
    hiff.2 fun _ => Set.mem_uIcc_of_le hbetween.1 hbetween.2⟩

/-- The point 10 is above both its neighbours, and its cell has no width and lies at 5. -/
theorem midpoint_not_mem_cell_peak :
    ∃ a, (points [0, 10, 0]).build = .ok a ∧ 1 < a.size ∧
      ∃ m e₁ e₂, a.midpoint 1 = .ok m ∧ a.edge1 1 = .ok e₁ ∧ a.edge2 1 = .ok e₂ ∧
        m = 10 ∧ e₁ = 5 ∧ e₂ = 5 ∧ m ∉ Set.uIcc e₁ e₂ := by
  refine ⟨_, rfl, by decide, 10, 5, 5, ?_, ?_, ?_, rfl, rfl, rfl, ?_⟩
  · decide +kernel
  · decide +kernel
  · decide +kernel
  · norm_num [Set.uIcc_self]

end Gridded.Axis
