import Gridded.Axis.Timed
import Gridded.Proofs.Axis.Locating
import Gridded.Proofs.Axis.Single
import Gridded.Proofs.Calendar.Milliseconds

/-!
# Dates pick their coordinates

On an axis whose coordinates are kept apart, a search for a midpoint ends at the index of this midpoint. A
midpoint of whole milliseconds is also the number of its date, so the date finds the coordinate that it was
read from.

* `Axis.Separated.closest_midpointAt`: the search for a midpoint;
* `TimeAxis.Holds`: a time axis that is left of another at one index;
* `TimeAxis.takeClosest_of_date?`, `TimeAxis.select_of_date?`: what a date leaves of a time axis;
* `TimeScale.date_offset_inverse`: numbers and dates turn into each other, and dates pick their coordinates.
-/

namespace Gridded

namespace Axis

variable {a b : Axis ℚ} {s : ℚ} {i j : ℕ}

/-! ### Searching for a midpoint -/

/-- No two points of an axis that goes one way are equal. -/
theorem Advances.midpointAt_inj (h : a.Advances s) (hpoint : a.spacing.isInterval = false) (hi : i < a.size)
    (hj : j < a.size) (heq : a.midpointAt i = a.midpointAt j) : i = j := by
  by_contra hne
  rcases lt_or_gt_of_ne hne with hij | hji
  · exact absurd (h.point hpoint i j hij hj) (by rw [heq, sub_self, mul_zero]; exact lt_irrefl 0)
  · exact absurd (h.point hpoint j i hji hi) (by rw [heq, sub_self, mul_zero]; exact lt_irrefl 0)

/-- A point is found where it is: any other point is at some distance from it. -/
theorem Advances.closest_midpointAt (h : a.Advances s) (hpoint : a.spacing.isInterval = false)
    (hi : i < a.size) : a.closest (a.midpointAt i) = .ok i := by
  obtain ⟨k, hk, hleast⟩ := exists_closest_of_nil (x := a.midpointAt i) (Nat.zero_lt_of_lt hi) rfl
    (fun _ _ => rfl) (containing_of_points hpoint _)
  have hdist : a.distanceTo (a.midpointAt i) k ≤ a.distanceTo (a.midpointAt i) i := hleast.least i hi
  rw [distanceTo, distanceTo, abs_rat, abs_rat, sub_self, abs_zero] at hdist
  have heq : a.midpointAt k = a.midpointAt i := sub_eq_zero.1 (abs_nonpos_iff.1 hdist)
  rw [hk, h.midpointAt_inj hpoint hleast.holds hi heq]

/-- An axis whose coordinates are kept apart finds each of its midpoints. -/
theorem Separated.closest_midpointAt (h : a.Separated) (ha : a.WellFormed) (hi : i < a.size) :
    a.closest (a.midpointAt i) = .ok i := by
  cases hcells : a.spacing.isInterval with
  | true =>
    have hapart := h.apart ha hcells
    rw [midpointAt_eq_center (precise_rat a) hcells]
    exact hapart.closest_interior hcells hi (center_mem_interior (width_pos_iff.1 (hapart.width_pos i hi)))
  | false =>
    by_cases hsingle : a.size = 1
    · obtain rfl : i = 0 := by omega
      exact closest_of_one hsingle _
    · obtain ⟨s, hs⟩ := h.exists_advances ha (ne_discontiguous_of_points hcells) fun _ => by omega
      exact hs.closest_midpointAt hcells hi

/-! ### Taking one coordinate -/

theorem exists_take_single (ha : a.WellFormed) (hi : i < a.size) : ∃ b, a.take (.single i) = .ok b := by
  refine exists_take (precise_rat a) ha Nat.one_pos (fun k hk => ?_) fun _ => rfl
  obtain rfl : k = 0 := Nat.lt_one_iff.1 hk
  rwa [Slice.index_single]

/-- What is taken at one index is the coordinate there. -/
theorem coordinates_of_take_single (h : a.take (.single i) = .ok b) :
    b.coordinates = [a.coordinateAt i] ∧ b.midpoints = [a.midpointAt i] := by
  have hsamples := samples_of_take (precise_rat a) h
  have hcoordinate := hsamples.coordinateAt Nat.one_pos
  have hmidpoint := hsamples.midpointAt 0 Nat.one_pos
  rw [Slice.index_single] at hcoordinate hmidpoint
  rw [coordinates, midpoints, indices_of_one hsamples.size]
  exact ⟨congrArg ([·]) hcoordinate, congrArg ([·]) hmidpoint⟩

end Axis

/-! ### Dates of coordinates -/

namespace TimeAxis

variable {t u : TimeAxis ℚ} {i : ℕ} {d : Instant}

/-- `u` is left of `t` at one index, where the date is `d`. -/
structure Holds (t : TimeAxis ℚ) (i : ℕ) (d : Instant) (u : TimeAxis ℚ) : Prop where
  taken : t.take (.single i) = .ok u
  scale : u.scale = t.scale
  coordinates : u.axis.coordinates = [t.axis.coordinateAt i]
  dates : u.dates? = some [d]

theorem exists_holds (ha : t.axis.WellFormed) (hi : i < t.axis.size)
    (hd : t.date? (t.axis.midpointAt i) = some d) : ∃ u, t.Holds i d u := by
  obtain ⟨b, hb⟩ := Axis.exists_take_single ha hi
  obtain ⟨hcoordinates, hmidpoints⟩ := Axis.coordinates_of_take_single hb
  refine ⟨⟨b, t.scale⟩, ?_, rfl, hcoordinates, ?_⟩
  · rw [take, onAxis, hb]
    rfl
  · have hd' : (⟨b, t.scale⟩ : TimeAxis ℚ).date? (t.axis.midpointAt i) = some d := hd
    simp only [dates?, hmidpoints, List.mapM_cons, List.mapM_nil, hd']
    rfl

section Found

variable (hfound : t.axis.closest (t.offset d) = .ok i)

include hfound

/-- A date leaves what its number finds. -/
theorem takeClosest_of_found : t.takeClosest d = t.take (.single i) := by
  rw [takeClosest, Axis.takeClosest, hfound]
  rfl

/-- A selection of a date leaves the same of an axis of time, whatever else it says. -/
theorem select_of_found (hkind : t.axis.kind = some .time ∨ t.axis.kind = none) {sel : Selection ℚ}
    (hsel : sel.time = some d) : t.select sel = t.take (.single i) := by
  have hpick : t.selectedRange sel = .ok (some (.single i)) := by
    have hdate : t.pick (some d) sel.latestTime = .ok (some (.single i)) := by
      rw [pick, hfound]
      rfl
    rcases hkind with hkind | hkind <;> rw [selectedRange, hkind, hsel] <;> exact hdate
  rw [select, hpick]
  rfl

end Found

end TimeAxis

/-- **Numbers and dates turn into each other.** From a number to its date and back is half a millisecond at
most, and the dates that come back from their numbers are just those at whole milliseconds from the base. On
an axis whose coordinates are kept apart, the date of a midpoint of whole milliseconds picks this coordinate,
by itself and as part of a selection. -/
theorem TimeScale.date_offset_inverse {s : TimeScale} (hrange : s.base.inRange = true)
    (hleap : s.base.isLeap = false) :
    (∀ (x : ℚ) d, s.date? x = some d → |s.offset d - x| ≤ 1 / 2000 / s.period.length) ∧
    (∀ d, s.date? (s.offset d : ℚ) = some d ↔ ∃ k : ℤ, s.base.plusMillis? k = some d) ∧
    ∀ t : TimeAxis ℚ, t.scale = s → t.axis.Built → t.axis.Separated → ∀ i < t.axis.size, ∀ d,
      (∃ k : ℤ, t.axis.midpointAt i * s.period.length * 1000 = k) →
      t.date? (t.axis.midpointAt i) = some d →
      ∃ u, t.Holds i d u ∧ t.takeClosest d = .ok u ∧
        (t.axis.kind = some .time ∨ t.axis.kind = none →
          ∀ sel : Selection ℚ, sel.time = some d → t.select sel = .ok u) := by
  refine ⟨fun x d h => abs_offset_sub_le hrange hleap h, fun d => date?_offset_iff hrange hleap, ?_⟩
  rintro t rfl hbuilt hsep i hi d ⟨k, hwhole⟩ hdate
  have hfound : t.axis.closest (t.offset d) = .ok i := by
    have hoffset : t.offset d = t.axis.midpointAt i := offset_of_whole hrange hleap hwhole hdate
    rw [hoffset, hsep.closest_midpointAt hbuilt.wellFormed hi]
  obtain ⟨u, hu⟩ := TimeAxis.exists_holds hbuilt.wellFormed hi hdate
  refine ⟨u, hu, ?_, fun hkind sel hsel => ?_⟩
  · rw [TimeAxis.takeClosest_of_found hfound, hu.taken]
  · rw [TimeAxis.select_of_found hfound hkind hsel, hu.taken]

/-- Hours since the first quarter of a second of 2024-01-15. -/
def sinceMidnight : TimeScale := ⟨.hours, ⟨1705276800, 250000000⟩⟩

/-- Three forecasts, each for a longer time than the one before. -/
def forecasts : Axis.Draft ℚ :=
  { Axis.Draft.blank with
    name := "time"
    kind := some .time
    spacing := some .contiguousInterval
    values := some [0, 3, 6, 12] }

/-- The second forecast is for half past four. A third of a millisecond has the date of the base. -/
theorem date_offset_inverse_forecasts : ∃ a, forecasts.build = .ok a ∧
    |sinceMidnight.offset ⟨1705276800, 250000000⟩ - 1 / 10800000| ≤ (1 : ℚ) / 2000 / 3600 ∧
    sinceMidnight.date? (sinceMidnight.offset ⟨1705293000, 250000000⟩ : ℚ) =
      some ⟨1705293000, 250000000⟩ ∧
    ∃ u, TimeAxis.takeClosest ⟨a, sinceMidnight⟩ ⟨1705293000, 250000000⟩ = .ok u ∧
      TimeAxis.select ⟨a, sinceMidnight⟩
        { time := some ⟨1705293000, 250000000⟩, latestTime := true } = .ok u ∧
      u.axis.coordinates = [.cell ⟨3, 6⟩] ∧ u.dates? = some [⟨1705293000, 250000000⟩] := by
  obtain ⟨hvalues, hdates, haxes⟩ :=
    TimeScale.date_offset_inverse (s := sinceMidnight) (by decide +kernel) (by decide +kernel)
  obtain ⟨a, ha, hsep, hsize, hmid, hkind, hcell⟩ : ∃ a, forecasts.build = .ok a ∧ a.Separated ∧
      1 < a.size ∧ a.midpointAt 1 = 9 / 2 ∧ a.kind = some .time ∧ a.coordinateAt 1 = .cell ⟨3, 6⟩ := by
    refine ⟨_, rfl, .inl ?_, ?_, ?_, rfl, rfl⟩ <;> decide +kernel
  have hdate : sinceMidnight.date? (a.midpointAt 1) = some ⟨1705293000, 250000000⟩ := by
    rw [hmid]
    decide +kernel
  obtain ⟨u, hu, hclosest, hselect⟩ := haxes ⟨a, sinceMidnight⟩ rfl ⟨_, ha⟩ hsep 1 hsize
    ⟨1705293000, 250000000⟩ ⟨16200000, by rw [hmid]; decide +kernel⟩ hdate
  refine ⟨a, ha, ?_, ?_, u, hclosest, hselect (.inl hkind) _ rfl, ?_, hu.dates⟩
  · exact hvalues (1 / 10800000) _ (by decide +kernel)
  · exact (hdates _).2 ⟨16200000, by decide +kernel⟩
  · rw [hu.coordinates, hcell]

end Gridded
