import Gridded.Proofs.Axis.Searching
import Gridded.Proofs.Doubles

/-!
# Missing coordinates in a search

A search keeps its first candidate whatever the distance, and leaves it for nearer ones only. A coordinate
that is not a number is at no distance from anything: behind a number it is passed over, and at the front
of the axis nothing is nearer than it.

* `foldl_nearer_filter`, `foldl_nearer_of_isNaN`: a search that goes on from a number, and one that goes on
  from what is at no distance;
* `Axis.Known`: the coordinates that are numbers;
* `Axis.Padded`: an axis with missing coordinates put between those of another one;
* `Axis.closest_known_iff`: a missing coordinate captures a search exactly if it is the first one.
-/

namespace Gridded

section Search

variable {α : Type} [Scalar α] [Scalar.Ordered α] {distance : Nat → α} {b i : Nat} {l : List Nat}

open Scalar.Ordered

theorem nearer_of_isNaN (h : Scalar.isNaN (distance i) = true) :
    nearer distance (some b) i = some b :=
  if_neg (not_lt_of_isNaN h (distance b))

/-- A search passes over whatever is at no distance, once it has seen a candidate. -/
theorem foldl_nearer_filter : l.foldl (nearer distance) (some b) =
    (l.filter fun j => !Scalar.isNaN (distance j)).foldl (nearer distance) (some b) := by
  induction l generalizing b with
  | nil => rfl
  | cons i l ih =>
    rw [List.foldl_cons]
    by_cases hi : Scalar.isNaN (distance i) = true
    · rw [nearer_of_isNaN hi, List.filter_cons_of_neg (by simp [hi]), ih]
    · rw [List.filter_cons_of_pos (by simp [hi]), List.foldl_cons]
      -- The better of two candidates is a candidate again.
      obtain ⟨c, hc⟩ : ∃ c, nearer distance (some b) i = some c := by
        by_cases hlt : distance i < distance b
        · exact ⟨i, if_pos hlt⟩
        · exact ⟨b, if_neg hlt⟩
      rw [hc, ih]

/-- Nothing is nearer than a candidate at no distance. -/
theorem foldl_nearer_of_isNaN (h : Scalar.isNaN (distance b) = true) :
    l.foldl (nearer distance) (some b) = some b := by
  induction l with
  | nil => rfl
  | cons i l ih =>
    have hi : ¬distance i < distance b := fun hlt => by
      rw [(isNaN_of_le _ _ (le_of_lt hlt)).2] at h
      cases h
    rw [List.foldl_cons, nearer, if_neg hi, ih]

/-- A search that starts at a number finds the first of the nearest numbers. -/
theorem exists_firstLeast_of_first (hsorted : (i :: l).Pairwise (· < ·))
    (hi : Scalar.isNaN (distance i) = false) :
    ∃ c, firstLeast distance (i :: l) = some c ∧
      IsFirstLeast distance (fun j => j ∈ i :: l ∧ Scalar.isNaN (distance j) = false) c := by
  have hkept : (i :: l).filter (fun j => !Scalar.isNaN (distance j)) =
      i :: l.filter fun j => !Scalar.isNaN (distance j) :=
    List.filter_cons_of_pos (by simp [hi])
  have hnum : ∀ j ∈ (i :: l).filter (fun j => !Scalar.isNaN (distance j)),
      Scalar.isNaN (distance j) = false := fun j hj => by simpa using (List.mem_filter.1 hj).2
  obtain ⟨c, hc, hleast⟩ :=
    exists_firstLeast (hkept ▸ List.cons_ne_nil i _) (hsorted.filter _) hnum
  refine ⟨c, ?_, by simpa using hleast⟩
  rw [← hc, hkept]
  exact foldl_nearer_filter

/-- There is only one first least index. -/
theorem IsFirstLeast.unique {p : Nat → Prop} {i j : Nat} (hi : IsFirstLeast distance p i)
    (hj : IsFirstLeast distance p j) : i = j := by
  rcases Nat.lt_trichotomy i j with hlt | heq | hlt
  · exact absurd (hi.least j hj.holds) (not_le_of_lt (hj.first i hi.holds hlt))
  · exact heq
  · exact absurd (hj.least i hi.holds) (not_le_of_lt (hi.first j hj.holds hlt))

end Search

namespace Axis

/-! ### Coordinates that are numbers -/

/-- Whether there is a coordinate at an index and it is a number. -/
def Known {α : Type} [Scalar α] (a : Axis α) (j : Nat) : Prop :=
  j < a.size ∧ Scalar.isNaN (a.midpointAt j) = false

instance {α : Type} [Scalar α] (a : Axis α) (j : Nat) : Decidable (a.Known j) :=
  inferInstanceAs (Decidable (_ ∧ _))

/-- `b` has the coordinates of `a` at certain places, in their order, and at all other places coordinates
that are missing. -/
structure Padded {α : Type} [Scalar α] (a b : Axis α) (place : Nat → Nat) : Prop where
  place_lt : ∀ i < a.size, place i < b.size
  place_mono : ∀ j < a.size, ∀ i < j, place i < place j
  midpointAt : ∀ i < a.size, b.midpointAt (place i) = a.midpointAt i
  missing : ∀ k < b.size, (∀ i < a.size, place i ≠ k) → Scalar.isNaN (b.midpointAt k) = true

section Padding

variable {α : Type} [Scalar α] {a b : Axis α} {place : Nat → Nat} {i k : Nat}

theorem Padded.known_place (h : a.Padded b place) (hi : a.Known i) : b.Known (place i) :=
  ⟨h.place_lt i hi.1, by rw [h.midpointAt i hi.1]; exact hi.2⟩

/-- A number on the longer axis is one of those of the shorter axis. -/
theorem Padded.exists_place (h : a.Padded b place) (hk : b.Known k) :
    ∃ i, a.Known i ∧ place i = k := by
  by_contra hnone
  have hk' : ∀ i < a.size, place i ≠ k := by
    rintro i hi rfl
    exact hnone ⟨i, ⟨hi, h.midpointAt i hi ▸ hk.2⟩, rfl⟩
  have hknown := hk.2
  rw [h.missing k hk.1 hk'] at hknown
  cases hknown

theorem Padded.lt_of_place_lt (h : a.Padded b place) {j : Nat} (hi : i < a.size) (hj : j < a.size)
    (hlt : place j < place i) : j < i := by
  rcases Nat.lt_trichotomy j i with hji | rfl | hij
  · exact hji
  · exact absurd hlt (Nat.lt_irrefl _)
  · exact absurd hlt (Nat.lt_asymm (h.place_mono j hj i hij))

/-- The first of the nearest numbers keeps its place among the missing ones. -/
theorem Padded.isFirstLeast (h : a.Padded b place) {x : α}
    (hi : IsFirstLeast (fun j => Scalar.abs (a.midpointAt j - x)) a.Known i) :
    IsFirstLeast (fun j => Scalar.abs (b.midpointAt j - x)) b.Known (place i) := by
  have hmidpoint : b.midpointAt (place i) = a.midpointAt i := h.midpointAt i hi.holds.1
  refine ⟨h.known_place hi.holds, ?_, ?_⟩
  · intro k hk
    obtain ⟨j, hj, rfl⟩ := h.exists_place hk
    simp only [hmidpoint, h.midpointAt j hj.1]
    exact hi.least j hj
  · intro k hk hlt
    obtain ⟨j, hj, rfl⟩ := h.exists_place hk
    simp only [hmidpoint, h.midpointAt j hj.1]
    exact hi.first j hj (h.lt_of_place_lt hi.holds.1 hj.1 hlt)

end Padding

/-! ### Doubles -/

section Doubles

variable {a b : Axis Float} {x : Float}

theorem exists_indices_eq (hsize : 0 < a.size) : ∃ l, a.indices = 0 :: l := by
  obtain ⟨n, hn⟩ := Nat.exists_eq_succ_of_ne_zero hsize.ne'
  exact ⟨(List.range n).map Nat.succ, by rw [indices, hn, List.range_succ_eq_map]⟩

/-- On an axis of points that starts with a number, the first of the nearest numbers is found. -/
theorem exists_closest_known (hpoints : a.spacing = .irregularPoint) (hx : Scalar.isFinite x = true)
    (hfirst : a.Known 0) :
    ∃ i, a.closest x = .ok i ∧
      IsFirstLeast (fun j => Scalar.abs (a.midpointAt j - x)) a.Known i := by
  obtain ⟨l, hl⟩ := exists_indices_eq hfirst.1
  have hknown : (fun j => j ∈ 0 :: l ∧ Scalar.isNaN (a.distanceTo x j) = false) = a.Known := by
    funext j
    rw [← hl, indices, List.mem_range, distanceTo, Doubles.isNaN_distance _ hx, Known]
  have hsorted : (0 :: l).Pairwise (· < ·) := hl ▸ List.pairwise_lt_range
  have hnum : Scalar.isNaN (a.distanceTo x 0) = false :=
    (Doubles.isNaN_distance _ hx).trans hfirst.2
  obtain ⟨i, hi, hleast⟩ := exists_firstLeast_of_first hsorted hnum
  refine ⟨i, ?_, hknown ▸ hleast⟩
  rw [closest_eq (Doubles.isNaN_of_isFinite hx), containing_of_points (by rw [hpoints]; rfl), hl, hi]
  rfl

/-- On an axis of points whose first coordinate is missing, this one is found. -/
theorem closest_of_not_known (hsize : 0 < a.size) (hpoints : a.spacing = .irregularPoint)
    (hx : Scalar.isFinite x = true) (hfirst : ¬a.Known 0) : a.closest x = .ok 0 := by
  obtain ⟨l, hl⟩ := exists_indices_eq hsize
  have hnone : Scalar.isNaN (a.distanceTo x 0) = true := by
    rw [distanceTo, Doubles.isNaN_distance _ hx]
    simpa [Known, hsize] using hfirst
  rw [closest_eq (Doubles.isNaN_of_isFinite hx), containing_of_points (by rw [hpoints]; rfl), hl,
    firstLeast, firstLeast, List.foldl_cons]
  simp only [nearer, foldl_nearer_of_isNaN hnone]
  rfl

/-- **When a missing coordinate captures a search.** An irregular axis of points finds the first of the
nearest numbers exactly if its first coordinate is a number, and otherwise it finds this coordinate. So
missing coordinates that are put anywhere into an axis that starts with a number do not change which
coordinate is found, exactly if none is put in front. -/
theorem closest_known_iff (ha : a.Built) (hpoints : a.spacing = .irregularPoint)
    (hx : Scalar.isFinite x = true) :
    ((∃ i, a.closest x = .ok i ∧
      IsFirstLeast (fun j => Scalar.abs (a.midpointAt j - x)) a.Known i) ↔ a.Known 0) ∧
    (¬a.Known 0 → a.closest x = .ok 0) ∧
    ∀ (b : Axis Float) (place : Nat → Nat), b.Built → b.spacing = .irregularPoint → a.Known 0 →
      a.Padded b place →
      ((∃ i, a.closest x = .ok i ∧ b.closest x = .ok (place i)) ↔ b.Known 0) := by
  have hcaptured : ∀ {b : Axis Float}, b.Built → b.spacing = .irregularPoint → ¬b.Known 0 →
      b.closest x = .ok 0 := fun hb hspacing =>
    closest_of_not_known hb.wellFormed.size_pos hspacing hx
  refine ⟨⟨?_, exists_closest_known hpoints hx⟩, hcaptured ha hpoints, ?_⟩
  · rintro ⟨i, hi, hleast⟩
    by_contra hfirst
    rw [hcaptured ha hpoints hfirst] at hi
    cases hi
    exact hfirst hleast.holds
  · intro b place hb hspacing hfirst hpadded
    obtain ⟨i, hi, hleast⟩ := exists_closest_known hpoints hx hfirst
    constructor
    · rintro ⟨k, hk, hplace⟩
      obtain rfl : i = k := Except.ok.inj (hi.symm.trans hk)
      by_contra hmissing
      rw [hcaptured hb hspacing hmissing] at hplace
      -- The number that was found would stand in front.
      exact hmissing (Except.ok.inj hplace ▸ hpadded.known_place hleast.holds)
    · intro hknown
      obtain ⟨k, hk, hleast'⟩ := exists_closest_known hspacing hx hknown
      exact ⟨i, hi, by rw [hk, hleast'.unique (hpadded.isFirstLeast hleast)]⟩

/-- Some heights in order, of which some are missing. -/
def heights (values : List Float) : Draft Float :=
  { Draft.blank with
    name := "z"
    kind := some .geoZ
    spacing := some .irregularPoint
    values := some values }

/-- Three heights and the same with four missing ones among them, none of these in front. -/
theorem exists_gappyHeights :
    ∃ a b : Axis Float, (heights [1, 4, 9]).build = .ok a ∧
      (heights [1, Scalar.nan, 4, Scalar.nan, Scalar.nan, 9, Scalar.nan]).build = .ok b ∧
      a.spacing = .irregularPoint ∧ b.spacing = .irregularPoint ∧ a.Known 0 ∧ b.Known 0 ∧
      a.Padded b (fun i => [0, 2, 5].getD i 7) ∧ b.closest 3 = .ok 2 := by
  refine ⟨_, _, rfl, rfl, rfl, rfl, ?_, ?_, ⟨?_, ?_, ?_, ?_⟩, ?_⟩ <;> decide +kernel

/-- The height nearest to 3 is found on both axes, at index 1 and at index 2. -/
theorem closest_known_iff_gappyHeights :
    ∃ a b : Axis Float, a.Built ∧ b.Built ∧ a.spacing = .irregularPoint ∧
      b.spacing = .irregularPoint ∧ Scalar.isFinite (3 : Float) = true ∧ a.Known 0 ∧ b.Known 0 ∧
      a.Padded b (fun i => [0, 2, 5].getD i 7) ∧ b.closest 3 = .ok 2 ∧
      (∃ i, a.closest 3 = .ok i ∧
        IsFirstLeast (fun j => Scalar.abs (a.midpointAt j - 3)) a.Known i) ∧
      ∃ i, a.closest 3 = .ok i ∧ b.closest 3 = .ok ([0, 2, 5].getD i 7) := by
  obtain ⟨a, b, ha, hb, hpoints, hpoints', hfirst, hfirst', hpadded, hfound⟩ := exists_gappyHeights
  have hx : Scalar.isFinite (3 : Float) = true := by decide +kernel
  obtain ⟨hknown, -, hsame⟩ := closest_known_iff ⟨_, ha⟩ hpoints hx
  exact ⟨a, b, ⟨_, ha⟩, ⟨_, hb⟩, hpoints, hpoints', hx, hfirst, hfirst', hpadded, hfound,
    hknown.2 hfirst, (hsame b _ ⟨_, hb⟩ hpoints' hfirst hpadded).2 hfirst'⟩

/-- A missing height in front is found instead of the very number that was searched for. -/
theorem not_closest_known_leadingGap :
    ∃ a : Axis Float, (heights [Scalar.nan, 1, 2]).build = .ok a ∧ a.spacing = .irregularPoint ∧
      a.Known 2 ∧ a.midpointAt 2 = 2 ∧ Scalar.isFinite (2 : Float) = true ∧ a.closest 2 = .ok 0 ∧
      ¬a.Known 0 ∧ ¬∃ i, a.closest 2 = .ok i ∧
        IsFirstLeast (fun j => Scalar.abs (a.midpointAt j - 2)) a.Known i := by
  obtain ⟨a, ha, hpoints, hknown, hvalue, hx, hfound, hfirst⟩ :
      ∃ a : Axis Float, (heights [Scalar.nan, 1, 2]).build = .ok a ∧ a.spacing = .irregularPoint ∧
        a.Known 2 ∧ a.midpointAt 2 = 2 ∧ Scalar.isFinite (2 : Float) = true ∧
        a.closest 2 = .ok 0 ∧ ¬a.Known 0 := by
    refine ⟨_, rfl, rfl, ?_, ?_, ?_, ?_, ?_⟩ <;> decide +kernel
  refine ⟨a, ha, hpoints, hknown, hvalue, hx, hfound, hfirst, ?_⟩
  rintro ⟨i, hi, hleast⟩
  rw [hfound] at hi
  cases hi
  exact hfirst hleast.holds

end Doubles

end Axis

end Gridded
