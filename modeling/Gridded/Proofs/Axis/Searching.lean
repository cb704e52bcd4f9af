import Gridded.Axis.Search
import Gridded.Proofs.Axis.Building
import Gridded.Proofs.Numbers

/-!
# The nearest coordinate

A search goes through indices in increasing order and keeps the best one so far. With ordered distances it
ends at the first of the least ones.

* `IsFirstLeast`: an index with a property, at which a distance is least, and greater at each lower index
  with the property;
* `exists_firstLeast`: what a search through an increasing list gives, by one step
  (`IsFirstLeast.exists_nearer`) and by induction over the list;
* `Interval.contains_iff`: the numbers in a cell, in whichever order its edges are;
* `Axis.search_exact`: the searches of an axis, for a number and for a cell.
-/

namespace Gridded

/-- The first of the indices with a property at which a distance is least. -/
structure IsFirstLeast {α : Type} [Scalar α] (distance : Nat → α) (p : Nat → Prop) (i : Nat) : Prop where
  holds : p i
  least : ∀ j, p j → distance i ≤ distance j
  first : ∀ j, p j → j < i → distance i < distance j

section Search

variable {α : Type} [Scalar α] [Scalar.Ordered α] {distance : Nat → α}

open Scalar.Ordered

/-- One step of a search: the next index joins those that were seen. -/
theorem IsFirstLeast.exists_nearer {p : Nat → Prop} {b i : Nat} (h : IsFirstLeast distance p b)
    (hlt : ∀ j, p j → j < i) (hb : Scalar.isNaN (distance b) = false)
    (hi : Scalar.isNaN (distance i) = false) :
    ∃ c, nearer distance (some b) i = some c ∧ IsFirstLeast distance (fun j => p j ∨ j = i) c := by
  by_cases hnearer : distance i < distance b
  · refine ⟨i, if_pos hnearer, .inr rfl, ?_, ?_⟩
    · rintro j (hj | rfl)
      · exact le_of_lt (lt_of_lt_of_le hnearer (h.least j hj))
      · exact le_self hi
    · rintro j (hj | rfl) hji
      · exact lt_of_lt_of_le hnearer (h.least j hj)
      · exact absurd hji (Nat.lt_irrefl j)
  · refine ⟨b, if_neg hnearer, .inl h.holds, ?_, ?_⟩
    · rintro j (hj | rfl)
      · exact h.least j hj
      · exact le_of_not_lt hi hb hnearer
    · rintro j (hj | rfl) hjb
      · exact h.first j hj hjb
      · exact absurd (hlt b h.holds) (Nat.lt_asymm hjb)

/-- The rest of a search: what was seen comes before the indices that are left. -/
theorem IsFirstLeast.exists_foldl {l : List Nat} (hsorted : l.Pairwise (· < ·)) :
    ∀ {p : Nat → Prop} {b : Nat}, IsFirstLeast distance p b → (∀ j, p j → ∀ i ∈ l, j < i) →
      (∀ j, p j ∨ j ∈ l → Scalar.isNaN (distance j) = false) →
      ∃ c, l.foldl (nearer distance) (some b) = some c ∧
        IsFirstLeast distance (fun j => p j ∨ j ∈ l) c := by
  induction l with
  | nil => exact fun h _ _ => ⟨_, rfl, by simpa using h⟩
  | cons i l ih =>
    intro p b h hbefore hnum
    obtain ⟨hi, hl⟩ := List.pairwise_cons.1 hsorted
    obtain ⟨c, hc, hseen⟩ := h.exists_nearer (fun j hj => hbefore j hj i List.mem_cons_self)
      (hnum b (.inl h.holds)) (hnum i (.inr List.mem_cons_self))
    have hbefore' : ∀ j, p j ∨ j = i → ∀ k ∈ l, j < k := by
      rintro j (hj | rfl) k hk
      · exact hbefore j hj k (List.mem_cons_of_mem i hk)
      · exact hi k hk
    obtain ⟨c', hc', hall⟩ := ih hl hseen hbefore' fun j hj =>
      hnum j (by simpa only [List.mem_cons, or_assoc] using hj)
    refine ⟨c', by rw [List.foldl_cons, hc, hc'], ?_⟩
    simpa only [List.mem_cons, or_assoc] using hall

/-- A search through some indices in increasing order gives the first of the least distances. -/
theorem exists_firstLeast {l : List Nat} (hne : l ≠ []) (hsorted : l.Pairwise (· < ·))
    (hnum : ∀ j ∈ l, Scalar.isNaN (distance j) = false) :
    ∃ i, firstLeast distance l = some i ∧ IsFirstLeast distance (· ∈ l) i := by
  obtain ⟨i, l, rfl⟩ := List.exists_cons_of_ne_nil hne
  obtain ⟨hi, hl⟩ := List.pairwise_cons.1 hsorted
  have hseen : IsFirstLeast distance (· = i) i := by
    refine ⟨rfl, ?_, ?_⟩
    · rintro j rfl
      exact le_self (hnum j List.mem_cons_self)
    · rintro j rfl hlt
      exact absurd hlt (Nat.lt_irrefl j)
  obtain ⟨c, hc, hall⟩ := hseen.exists_foldl hl (by rintro j rfl; exact hi)
    fun j hj => hnum j (List.mem_cons.2 hj)
  exact ⟨c, hc, by simpa only [List.mem_cons] using hall⟩

/-- A cell contains the numbers between its edges, in whichever order these are. -/
theorem Interval.contains_iff {cell : Interval α} {x : α} : cell.contains x = true ↔
    (cell.start ≤ x ∧ x ≤ cell.stop) ∨ (cell.stop ≤ x ∧ x ≤ cell.start) := by
  simp only [contains, normalized, isAscending, Bool.and_eq_true, decide_eq_true_iff]
  by_cases h : cell.start ≤ cell.stop
  · rw [if_pos h]
    refine ⟨.inl, fun hx => hx.elim id fun ⟨hstop, hstart⟩ => ?_⟩
    exact ⟨le_trans _ _ _ h hstop, le_trans _ _ _ hstart h⟩
  · rw [if_neg h]
    exact ⟨.inr, fun hx => hx.elim (fun hin => absurd (le_trans _ _ _ hin.1 hin.2) h) id⟩

end Search

namespace Axis

variable {α : Type} [Scalar α] {a : Axis α}

/-! ### What a search is to find -/

/-- Whether a number lies in the cell at an index, edges included and in whichever order they are. -/
def Inside (a : Axis α) (x : α) (j : Nat) : Prop :=
  j < a.size ∧ ((a.edge1At j ≤ x ∧ x ≤ a.edge2At j) ∨ (a.edge2At j ≤ x ∧ x ≤ a.edge1At j))

/-- The coordinate nearest to a number: the first of the nearest points, and of cells the first of the
nearest ones that contain the number, or of all cells if none does. -/
structure Nearest (a : Axis α) (x : α) (i : Nat) : Prop where
  index_lt : i < a.size
  of_point : a.spacing.isInterval = false →
    IsFirstLeast (fun j => Scalar.abs (a.midpointAt j - x)) (· < a.size) i
  of_inside : a.spacing.isInterval = true → (∃ j, a.Inside x j) →
    IsFirstLeast (fun j => Scalar.abs (a.midpointAt j - x)) (a.Inside x) i
  of_not_inside : a.spacing.isInterval = true → (¬∃ j, a.Inside x j) →
    IsFirstLeast (fun j => Scalar.abs (a.midpointAt j - x)) (· < a.size) i

/-! ### The searches -/

theorem closest_eq {x : α} (hx : Scalar.isNaN x = false) : a.closest x =
    a.found ((firstLeast (a.distanceTo x) (a.containing x)).or
      (firstLeast (a.distanceTo x) a.indices)) :=
  if_neg (by simp [hx])

theorem closestCell_eq {c : Interval α} (hstart : Scalar.isNaN c.start = false)
    (hstop : Scalar.isNaN c.stop = false) : a.closestCell c =
    if a.spacing.isInterval then a.found (firstLeast (a.distanceToCell c) a.indices)
    else a.closest c.midpoint :=
  if_neg (by simp [hstart, hstop])

theorem containing_of_points (hpoint : a.spacing.isInterval = false) (x : α) : a.containing x = [] := by
  rw [containing, hpoint]
  rfl

theorem pairwise_containing (a : Axis α) (x : α) : (a.containing x).Pairwise (· < ·) := by
  rw [containing]
  split
  · exact List.pairwise_lt_range.filter _
  · exact List.Pairwise.nil

variable [Scalar.Ordered α] {x : α}

theorem mem_containing (hcells : a.spacing.isInterval = true) {j : Nat} :
    j ∈ a.containing x ↔ a.Inside x j := by
  rw [containing, if_pos hcells, indices, List.mem_filter, List.mem_range, Interval.contains_iff]
  rfl

/-- A search through all indices of an axis. -/
theorem exists_firstLeast_indices {distance : Nat → α} (hsize : 0 < a.size)
    (hnum : ∀ j < a.size, Scalar.isNaN (distance j) = false) :
    ∃ i, firstLeast distance a.indices = some i ∧ IsFirstLeast distance (· < a.size) i := by
  have hne : a.indices ≠ [] := by
    rw [indices, ne_eq, List.range_eq_nil]
    exact hsize.ne'
  obtain ⟨i, hi, hleast⟩ := exists_firstLeast hne List.pairwise_lt_range fun j hj =>
    hnum j (List.mem_range.1 hj)
  exact ⟨i, hi, by simpa only [indices, List.mem_range] using hleast⟩

/-- Where some cell contains the number, it is searched for among these cells. -/
theorem exists_closest_of_inside (hx : Scalar.isNaN x = false)
    (hnum : ∀ j < a.size, Scalar.isNaN (a.distanceTo x j) = false)
    (hcells : a.spacing.isInterval = true) (h : ∃ j, a.Inside x j) :
    ∃ i, a.closest x = .ok i ∧ IsFirstLeast (a.distanceTo x) (a.Inside x) i := by
  obtain ⟨j, hj⟩ := h
  have hne : a.containing x ≠ [] := List.ne_nil_of_mem ((mem_containing hcells).2 hj)
  obtain ⟨i, hi, hleast⟩ := exists_firstLeast hne (a.pairwise_containing x) fun k hk =>
    hnum k ((mem_containing hcells).1 hk).1
  refine ⟨i, ?_, by simpa only [mem_containing hcells] using hleast⟩
  rw [closest_eq hx, hi]
  rfl

/-- Where no cell contains the number, it is searched for among all coordinates. -/
theorem exists_closest_of_nil (hsize : 0 < a.size) (hx : Scalar.isNaN x = false)
    (hnum : ∀ j < a.size, Scalar.isNaN (a.distanceTo x j) = false) (h : a.containing x = []) :
    ∃ i, a.closest x = .ok i ∧ IsFirstLeast (a.distanceTo x) (· < a.size) i := by
  obtain ⟨i, hi, hleast⟩ := exists_firstLeast_indices hsize hnum
  refine ⟨i, ?_, hleast⟩
  rw [closest_eq hx, h, hi]
  rfl

theorem exists_nearest (hsize : 0 < a.size) (hx : Scalar.isNaN x = false)
    (hnum : ∀ j < a.size, Scalar.isNaN (a.distanceTo x j) = false) :
    ∃ i, a.closest x = .ok i ∧ a.Nearest x i := by
  cases hcells : a.spacing.isInterval with
  | false =>
    obtain ⟨i, hi, h⟩ := exists_closest_of_nil hsize hx hnum (containing_of_points hcells x)
    exact ⟨i, hi, h.holds, fun _ => h, by simp [hcells], by simp [hcells]⟩
  | true =>
    by_cases hin : ∃ j, a.Inside x j
    · obtain ⟨i, hi, h⟩ := exists_closest_of_inside hx hnum hcells hin
      exact ⟨i, hi, h.holds.1, by simp [hcells], fun _ _ => h, fun _ hout => absurd hin hout⟩
    · have hnil : a.containing x = [] := List.eq_nil_iff_forall_not_mem.2 fun j hj =>
        hin ⟨j, (mem_containing hcells).1 hj⟩
      obtain ⟨i, hi, h⟩ := exists_closest_of_nil hsize hx hnum hnil
      exact ⟨i, hi, h.holds, by simp [hcells], fun _ hin' => absurd hin' hin, fun _ _ => h⟩

/-- **The searches are exact.** On a built axis the search for a number finds the coordinate nearest to
it, and the search for a cell finds the first of the cells whose edges are least far from its edges. Where
the axis has points, it is the center of the cell that is searched for. -/
theorem search_exact (ha : a.Built) :
    (∀ x : α, Scalar.isNaN x = false →
      (∀ j < a.size, Scalar.isNaN (Scalar.abs (a.midpointAt j - x)) = false) →
      ∃ i, a.closest x = .ok i ∧ a.Nearest x i) ∧
    ∀ c : Interval α, Scalar.isNaN c.start = false → Scalar.isNaN c.stop = false →
      (a.spacing.isInterval = false → a.closestCell c = a.closest c.midpoint) ∧
      (a.spacing.isInterval = true →
        let distance j := Scalar.abs (a.edge1At j - c.start) + Scalar.abs (a.edge2At j - c.stop)
        (∀ j < a.size, Scalar.isNaN (distance j) = false) →
        ∃ i, a.closestCell c = .ok i ∧ IsFirstLeast distance (· < a.size) i) := by
  have hsize := ha.wellFormed.size_pos
  refine ⟨fun x hx hnum => exists_nearest hsize hx hnum, fun c hstart hstop => ⟨?_, ?_⟩⟩
  · intro hpoint
    rw [closestCell_eq hstart hstop, hpoint]
    rfl
  · intro hcells distance hnum
    obtain ⟨i, hi, hleast⟩ := exists_firstLeast_indices hsize hnum
    refine ⟨i, ?_, hleast⟩
    rw [closestCell_eq hstart hstop, if_pos hcells]
    exact congrArg a.found hi

/-- Five cells that overlap. The second one and the last one descend, and the third one has no width. -/
def overlapping : Draft PartialRat :=
  { Draft.blank with
    name := "z"
    kind := some .geoZ
    spacing := some .discontiguousInterval
    values := some [0, 10, 12, 4, 4, 4, 20, 30, 10, 0] }

/-- Two cells contain 6 and are equally near, and none contains 16. -/
theorem search_exact_overlapping : ∃ a, overlapping.build = .ok a ∧
    (∃ i, a.closest 6 = .ok i ∧ a.Nearest 6 i) ∧ (∃ i, a.closest 16 = .ok i ∧ a.Nearest 16 i) ∧
    (∃ i, a.closestCell ⟨10, 0⟩ = .ok i ∧ IsFirstLeast (fun j =>
      Scalar.abs (a.edge1At j - 10) + Scalar.abs (a.edge2At j - 0)) (· < a.size) i) ∧
    a.closest 6 = .ok 0 ∧ a.closest 16 = .ok 1 ∧ a.closestCell ⟨10, 0⟩ = .ok 4 := by
  refine ⟨_, rfl, (search_exact ⟨overlapping, rfl⟩).1 6 rfl (by decide +kernel),
    (search_exact ⟨overlapping, rfl⟩).1 16 rfl (by decide +kernel),
    ((search_exact ⟨overlapping, rfl⟩).2 ⟨10, 0⟩ rfl rfl).2 rfl (by decide +kernel), ?_, ?_, ?_⟩
  · decide +kernel
  · decide +kernel
  · decide +kernel

end Axis

end Gridded
