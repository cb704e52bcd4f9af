import Mathlib.Data.List.Induction
import Mathlib.Order.Bounds.Basic
import Gridded.Proofs.Axis.Directions

/-!
# The extent of an axis

The cells of an axis that does not store them one by one touch. The extent is taken from two edges only,
the first edge of the first cell and the second edge of the last. It still covers all edges if the axis
runs one way. Where cells are stored one by one, the extent is taken from all values, which are the edges.

* `Extent.Tight`: an extent whose bounds are the least and the greatest of some numbers;
* `Extent.tight_between`, `Extent.tight_ofList`: such extents of two numbers and of a list;
* `Axis.Steady`: the axes that have one;
* `Axis.extent_tight`: cells touch, and the extent of a steady axis is that of its edges.
-/

namespace Gridded

/-! ### Tight extents -/

namespace Extent

/-- The bounds are the least and the greatest of some numbers, and among them. -/
structure Tight (e : Extent ℚ) (S : Set ℚ) : Prop where
  least : IsLeast S e.least
  greatest : IsGreatest S e.greatest

/-- Two numbers are the ends of all that lies between them. -/
theorem tight_between {S : Set ℚ} {x y : ℚ} (hx : x ∈ S) (hy : y ∈ S) (h : S ⊆ Set.uIcc x y) :
    (between x y).Tight S := by
  constructor
  · rw [between, least_rat]
    exact ⟨min_rec' (· ∈ S) hx hy, fun z hz => (h hz).1⟩
  · rw [between, greatest_rat]
    exact ⟨max_rec' (· ∈ S) hx hy, fun z hz => (h hz).2⟩

theorem add_rat (e : Extent ℚ) (x : ℚ) : e.add x = ⟨min e.least x, max e.greatest x⟩ := by
  rw [add, if_neg (by exact Bool.false_ne_true), least_rat, greatest_rat]

/-- The bounds of the numbers of a list, to which the bounds of the empty extent are added. -/
theorem bounds_ofList (l : List ℚ) :
    IsLeast (insert Scalar.largest {x | x ∈ l}) (ofList l).least ∧
      IsGreatest (insert (-Scalar.largest) {x | x ∈ l}) (ofList l).greatest := by
  induction l using List.reverseRecOn with
  | nil => simp [empty]
  | append_singleton l x ih =>
    have hinsert : ∀ b : ℚ,
        insert b {y | y ∈ l ++ [x]} = insert x (insert b {y | y ∈ l}) := fun b => by
      ext y
      simp only [Set.mem_insert_iff, Set.mem_ofPred_eq, List.mem_append, List.mem_singleton]
      tauto
    have hadd : ofList (l ++ [x]) = (ofList l).add x := ofList_append l [x]
    rw [hadd, add_rat, hinsert, hinsert, min_comm, max_comm]
    exact ⟨ih.1.insert x, ih.2.insert x⟩

/-- The extent of a list of numbers is tight, since none is beyond the bounds of the empty extent. -/
theorem tight_ofList {l : List ℚ} (hne : l ≠ []) (hl : ∀ x ∈ l, |x| ≤ Scalar.largest) :
    (ofList l).Tight {x | x ∈ l} := by
  obtain ⟨y, hy⟩ := List.exists_mem_of_ne_nil l hne
  have hbounds := abs_le.1 (hl y hy)
  obtain ⟨⟨hmin, hlow⟩, ⟨hmax, hhigh⟩⟩ := bounds_ofList l
  -- If a bound is that of the empty extent, the number `y` is the same.
  constructor
  · refine ⟨?_, fun x hx => hlow (.inr hx)⟩
    rcases hmin with hmin | hmin
    · have hle : (ofList l).least ≤ y := hlow (.inr hy)
      rwa [le_antisymm hle (hmin ▸ hbounds.2)]
    · exact hmin
  · refine ⟨?_, fun x hx => hhigh (.inr hx)⟩
    rcases hmax with hmax | hmax
    · have hle : y ≤ (ofList l).greatest := hhigh (.inr hy)
      rwa [le_antisymm (hmax ▸ hbounds.1) hle]
    · exact hmax

end Extent

namespace Axis

variable {a : Axis ℚ} {i : ℕ}

/-! ### Edges -/

/-- All edges of all cells. -/
def edges (a : Axis ℚ) : Set ℚ := {e | ∃ i, a.edge1 i = .ok e ∨ a.edge2 i = .ok e}

theorem checked_eq_ok {β : Type} {f : ℕ → β} {x : β} : a.checked i f = .ok x ↔ i < a.size ∧ f i = x := by
  by_cases hi : i < a.size
  · simp [hi]
  · simp [checked_of_le (not_lt.1 hi), hi]

theorem mem_edges {e : ℚ} : e ∈ a.edges ↔ ∃ i < a.size, a.edge1At i = e ∨ a.edge2At i = e := by
  simp only [edges, Set.mem_ofPred_eq, edge1, edge2, checked_eq_ok, ← and_or_left]

/-- Where cells are stored one by one, the values are the edges. -/
theorem edges_of_discontiguous (ha : a.WellFormed) (hsp : a.spacing = .discontiguousInterval) :
    a.edges = {v | v ∈ a.values} := by
  have hlength : a.values.length = 2 * a.size := by rw [ha.length_values, hsp]; rfl
  ext e
  rw [mem_edges, Set.mem_ofPred_eq, List.mem_iff_getElem]
  simp only [edge1At, edge2At, hsp]
  constructor
  · rintro ⟨i, hi, rfl | rfl⟩
    · exact ⟨2 * i, by omega, (value_of_lt _).symm⟩
    · exact ⟨2 * i + 1, by omega, (value_of_lt _).symm⟩
  · rintro ⟨k, hk, rfl⟩
    refine ⟨k / 2, by omega, ?_⟩
    rcases Nat.mod_two_eq_zero_or_one k with heven | hodd
    · left
      rw [show 2 * (k / 2) = k by omega]
      exact value_of_lt hk
    · right
      rw [show 2 * (k / 2) + 1 = k by omega]
      exact value_of_lt hk

/-! ### Steady axes -/

/-- The axes with a tight extent: regular ones, those that store points or adjacent edges in order, and those
that store cells one by one with values in the range of the doubles. The extent of no values has the bounds
of this range, the wrong way round, and exact values beyond it would not replace them. -/
def Steady (a : Axis ℚ) : Prop :=
  match a.spacing with
  | .regularPoint | .regularInterval => True
  | .irregularPoint | .contiguousInterval =>
    a.values.Pairwise (· ≤ ·) ∨ a.values.Pairwise (· ≥ ·)
  | .discontiguousInterval => ∀ v ∈ a.values, |v| ≤ Scalar.largest

theorem exists_direction_of_values (ha : a.WellFormed)
    (hsp : a.spacing = .irregularPoint ∨ a.spacing = .contiguousInterval)
    (hvalues : a.values.Pairwise (· ≤ ·) ∨ a.values.Pairwise (· ≥ ·)) :
    ∃ s : ℚ, s ≠ 0 ∧ ∀ k < a.size, 0 ≤ s * (a.edge2At k - a.edge1At k) := by
  obtain ⟨s, hs, hahead⟩ := pairwise_ahead hvalues
  refine ⟨s, hs, fun k hk => ?_⟩
  by_cases hsingle : a.spacing = .irregularPoint ∧ a.size = 1
  · obtain ⟨h₁, h₂⟩ := edges_of_single (i := k) hsingle.1 hsingle.2
    rw [h₁, h₂, sub_self, mul_zero]
  · refine span_ahead ha hahead (hsp.imp (fun hpoint => ⟨hpoint, ?_⟩) id) hk
    have hone : a.size ≠ 1 := fun hone => hsingle ⟨hpoint, hone⟩
    omega

/-- The cells of a steady axis go one way, if they touch. -/
theorem Steady.exists_direction (hsteady : a.Steady) (ha : a.WellFormed)
    (hsp : a.spacing ≠ .discontiguousInterval) :
    ∃ s : ℚ, s ≠ 0 ∧ ∀ k < a.size, 0 ≤ s * (a.edge2At k - a.edge1At k) := by
  cases hreg : a.spacing.isRegular with
  | true =>
    simp only [span_of_regular hreg]
    rcases le_total 0 a.resolution with h | h
    · exact ⟨1, by norm_num, fun _ _ => by linarith⟩
    · exact ⟨-1, by norm_num, fun _ _ => by linarith⟩
  | false =>
    unfold Steady at hsteady
    cases hspacing : a.spacing with
    | irregularPoint =>
      rw [hspacing] at hsteady
      exact exists_direction_of_values ha (.inl hspacing) hsteady
    | contiguousInterval =>
      rw [hspacing] at hsteady
      exact exists_direction_of_values ha (.inr hspacing) hsteady
    | discontiguousInterval => exact absurd hspacing hsp
    | _ =>
      rw [hspacing] at hreg
      cases hreg

/-- Where cells touch and go one way, all edges are between the ends of the axis. -/
theorem edges_subset {s : ℚ} (hs : s ≠ 0) (hsp : a.spacing ≠ .discontiguousInterval)
    (hcells : ∀ k < a.size, 0 ≤ s * (a.edge2At k - a.edge1At k)) :
    a.edges ⊆ Set.uIcc (a.edge1At 0) (a.edge2At (a.size - 1)) := by
  intro e he
  obtain ⟨i, hi, rfl | rfl⟩ := mem_edges.1 he
  · obtain ⟨hstart, hstop⟩ := ends_ahead hsp hcells hi
    exact mem_uIcc_of_ahead hs hstart (by linarith [hcells i hi])
  · obtain ⟨hstart, hstop⟩ := ends_ahead hsp hcells hi
    exact mem_uIcc_of_ahead hs (by linarith [hcells i hi]) hstop

theorem Steady.tight_extent (hsteady : a.Steady) (ha : a.WellFormed) : a.extent.Tight a.edges := by
  have hsize := ha.size_pos
  by_cases hsp : a.spacing = .discontiguousInterval
  · have hne : a.values ≠ [] := fun hnil => by
      have hlength := ha.length_values
      rw [hnil, hsp, Spacing.valuesLen, List.length_nil] at hlength
      omega
    simp only [Steady, hsp] at hsteady
    simp only [extent, hsp]
    rw [edges_of_discontiguous ha hsp]
    exact Extent.tight_ofList hne hsteady
  · obtain ⟨s, hs, hcells⟩ := hsteady.exists_direction ha hsp
    have hextent : a.extent = Extent.between (a.edge1At 0) (a.edge2At (a.size - 1)) := by
      cases hspacing : a.spacing <;> simp_all [extent]
    rw [hextent]
    refine Extent.tight_between ?_ ?_ (edges_subset hs hsp hcells)
    · exact mem_edges.2 ⟨0, hsize, .inl rfl⟩
    · exact mem_edges.2 ⟨a.size - 1, by omega, .inr rfl⟩

/-- **Cells touch, and the extent is tight.** On a built axis whose cells are not stored one by one, every
cell ends where the next one starts. The bounds of the extent of a steady axis are the least and the
greatest of all edges. -/
theorem extent_tight (ha : a.Built) :
    (a.spacing ≠ .discontiguousInterval → ∀ i, i + 1 < a.size →
      ∃ e, a.edge2 i = .ok e ∧ a.edge1 (i + 1) = .ok e) ∧
    (a.Steady → a.extent.Tight a.edges) := by
  refine ⟨fun hsp i hi => ⟨a.edge1At (i + 1), ?_, checked_of_lt hi _⟩, fun hsteady =>
    hsteady.tight_extent ha.wellFormed⟩
  rw [← edge2At_eq_edge1At_succ hsp hi]
  exact checked_of_lt (Nat.lt_of_succ_lt hi) _

/-- The points 8, 4, 2 and 1 descend. Their cells reach from 10 to 1/2. -/
theorem extent_tight_halving :
    ∃ a, (points [8, 4, 2, 1]).build = .ok a ∧ a.Steady ∧
      (∃ e, a.edge2 0 = .ok e ∧ a.edge1 1 = .ok e) ∧
      a.extent.Tight a.edges ∧ a.extent = ⟨1 / 2, 10⟩ := by
  obtain ⟨a, ha, hsteady, hsp, hsize, hextent⟩ : ∃ a, (points [8, 4, 2, 1]).build = .ok a ∧ a.Steady ∧
      a.spacing ≠ .discontiguousInterval ∧ 1 < a.size ∧ a.extent = ⟨1 / 2, 10⟩ := by
    refine ⟨_, rfl, .inr ?_, ?_, ?_, ?_⟩ <;> decide +kernel
  obtain ⟨htouch, htight⟩ := extent_tight ⟨_, ha⟩
  exact ⟨a, ha, hsteady, htouch hsp 0 hsize, htight hsteady, hextent⟩

end Axis

end Gridded
