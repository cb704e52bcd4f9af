import Gridded.Proofs.Axis.Single
import Gridded.Proofs.System.Joining

/-!
# Selecting twice

Off the ground a selection leaves one coordinate of each axis that it restricts, and of each axis that
depends on one of these. Made again, it finds this coordinate again, so nothing changes any more.

* `Cut.again`, `Window.through_again`: the cut that picks the only indices of what a cut left, and the
  window that it opens;
* `CoordinateSystem.cutBy_again`, `CoordinateSystem.restriction_again`: what a selection picks again;
* `CoordinateSystem.select_again`: a selection made twice.
-/

namespace Gridded

theorem SystemAxis.take_again {a b : SystemAxis ℚ} {i : Nat} (h : a.take (.single i) = .ok b) :
    b.take (.single 0) = .ok b := by
  cases a with
  | plain a =>
    obtain ⟨b, hb, rfl⟩ := map_eq_ok.1 h
    exact map_eq_ok.2 ⟨b, Axis.take_again hb, rfl⟩
  | timed t =>
    obtain ⟨u, hu, rfl⟩ := map_eq_ok.1 h
    obtain ⟨b, hb, rfl⟩ := map_eq_ok.1 hu
    exact map_eq_ok.2 ⟨_, map_eq_ok.2 ⟨b, Axis.take_again hb, rfl⟩, rfl⟩

/-! ### Windows on what is left -/

/-- Every slice of a cut picks one index. -/
structure Cut.PicksOne (cut : Cut) : Prop where
  time : ∀ r, cut.time = some r → r.len = 1
  z : ∀ r, cut.z = some r → r.len = 1
  y : ∀ r, cut.y = some r → r.len = 1
  x : ∀ r, cut.x = some r → r.len = 1

/-- The cut that picks the only indices of what a cut left. -/
def Cut.again (cut : Cut) : Cut where
  time := Slice.again cut.time
  z := Slice.again cut.z
  y := Slice.again cut.y
  x := Slice.again cut.x

theorem Slice.again_eq_none {r : Option Slice} : again r = none ↔ r = none := Option.map_eq_none_iff

theorem Cut.again_eq_empty {cut : Cut} : cut.again = {} ↔ cut = {} := by
  obtain ⟨time, z, y, x⟩ := cut
  simp only [again, Cut.mk.injEq, Slice.again_eq_none]

/-- The only index of what is left is where it was. -/
theorem Slice.reads_again {r : Option Slice} (hr : ∀ s, r = some s → s.len = 1) (n : Nat) :
    (orWhole n r).Reads (orWhole n r) (orWhole (orWhole n r).len (again r)) := by
  rcases r with _ | s
  · exact ⟨below_whole none n, rfl, fun i _ => by simp [again]⟩
  · have hlen : s.len = 1 := hr s rfl
    refine ⟨?_, hlen, fun i hi => ?_⟩
    · rw [orWhole_some, hlen]
      exact below_whole none 1
    · obtain rfl : i = 0 := Nat.lt_one_iff.1 hi
      simp [again]

namespace Window

variable {shape : GridShape} {times : Option Nat} {cut : Cut}

/-- The window of a cut made again, on what the cut left. -/
def openedAgain (shape : GridShape) (times : Option Nat) (cut : Cut) : Window :=
  opened (opened shape times cut).shape ((opened shape times cut).seenTimes times) cut.again

/-- Time is left open both times, or it is cut down to one step, of which the first is picked again. -/
theorem time_again (hcut : cut.PicksOne) (shape : GridShape) (times : Option Nat) :
    ((opened shape times cut).time = none ∧ (openedAgain shape times cut).time = none) ∨
      ∃ s, (opened shape times cut).time = some s ∧ s.len = 1 ∧
        (openedAgain shape times cut).time = some (.single 0) := by
  rcases htime : cut.time with _ | s
  · left
    simp [opened, openedAgain, Cut.again, Slice.again, htime]
  · rcases times with _ | n
    · exact .inl ⟨rfl, rfl⟩
    · right
      have hopened : (opened shape (some n) cut).time = some s := htime
      refine ⟨s, hopened, hcut.time s htime, ?_⟩
      simp [openedAgain, opened, seenTimes, Cut.again, Slice.again, htime]

/-- Through the window of a cut, the window of the cut made again shows the same. -/
theorem through_again (hcut : cut.PicksOne) (shape : GridShape) (times : Option Nat) :
    (opened shape times cut).Through (opened shape times cut) (openedAgain shape times cut) where
  z := Slice.reads_again hcut.z shape.levels
  y := Slice.reads_again hcut.y shape.rows
  x := Slice.reads_again hcut.x shape.columns
  innerTime time := by
    rcases time_again hcut shape times with ⟨hopen, hagain⟩ | ⟨s, hopen, hlen, hagain⟩
    · rw [innerTime_open hopen, innerTime_open hagain, ok_bind, innerTime_open hopen]
    · rw [innerTime_slice hopen, innerTime_slice hagain, hlen]
      by_cases ht : time < 1
      · obtain rfl : time = 0 := Nat.lt_one_iff.1 ht
        rw [if_pos ht, if_pos (show 0 < (Slice.single 0).len from Nat.one_pos), ok_bind,
          Slice.index_single, innerTime_slice hopen, hlen, if_pos ht]
      · rw [if_neg ht, if_neg (show ¬time < (Slice.single 0).len from ht)]
        rfl
  seenTimes ts := by
    rcases time_again hcut shape times with ⟨hopen, hagain⟩ | ⟨s, hopen, hlen, hagain⟩
    · rw [seenTimes_open hagain]
    · simp only [seenTimes, hopen, hagain, hlen]
      rfl

theorem fits_again (hcut : cut.PicksOne) (shape : GridShape) (times : Option Nat) :
    (openedAgain shape times cut).Fits (opened shape times cut).shape
      ((opened shape times cut).seenTimes times) where
  z := (Slice.reads_again hcut.z shape.levels).below
  y := (Slice.reads_again hcut.y shape.rows).below
  x := (Slice.reads_again hcut.x shape.columns).below
  time r hr := by
    rcases time_again hcut shape times with ⟨hopen, hagain⟩ | ⟨s, hopen, hlen, hagain⟩
    · rw [hagain] at hr
      cases hr
    · rw [hagain] at hr
      cases hr
      exact ⟨1, by rw [seenTimes, hopen, ← hlen], Slice.below_whole none 1⟩

end Window

namespace CoordinateSystem

variable {v v₁ : VerticalTransform ℚ} {cut : Cut}

open VerticalTransform Window

/-- A cut of single indices can be made again, and the transform gives the same answers. -/
theorem exists_cutTransform_again (hv : v.Made) (hcut : cut.PicksOne) (h : cutTransform v cut = .ok v₁) :
    ∃ v₂, cutTransform v₁ cut.again = .ok v₂ ∧ v₂.Alike v₁ := by
  unfold cutTransform at h ⊢
  by_cases hempty : cut = {}
  · exact ⟨v₁, if_pos (Cut.again_eq_empty.2 hempty), Alike.refl v₁⟩
  rw [if_neg hempty] at h
  simp only [Cut.again_eq_empty, if_neg hempty]
  have hv₁ := alike_of_subset hv.fitted h
  have hfitted : v₁.Fitted := (hv.subset h).fitted
  obtain ⟨v₂, hv₂⟩ := (exists_subset_iff hfitted).2
    (by rw [hv₁.shape, hv₁.times]; exact fits_again hcut v.shape v.times)
  refine ⟨v₂, hv₂, ?_⟩
  have hseen := alike_of_subset hfitted hv₂
  rw [hv₁.shape, hv₁.times] at hseen
  -- Both windows together show what the first one shows.
  have hboth : (view v (opened v.shape v.times cut)).Alike _ :=
    alike_of_through (through_again hcut v.shape v.times)
  exact hseen.trans ((hv₁.view _).trans (hboth.symm.trans hv₁.symm))

theorem exists_transform_again {o o₁ : Option (VerticalTransform ℚ)}
    (ho : ∀ v, o = some v → v.Made) (hcut : cut.PicksOne)
    (h : o.mapM (cutTransform · cut) = .ok o₁) :
    ∃ o₂, o₁.mapM (cutTransform · cut.again) = .ok o₂ ∧ Option.Rel VerticalTransform.Alike o₂ o₁ := by
  cases o with
  | none =>
    cases h
    exact ⟨none, rfl, .none⟩
  | some v =>
    obtain ⟨v₁, hv₁, rfl⟩ := map_eq_ok.1 h
    obtain ⟨v₂, hv₂, halike⟩ := exists_cutTransform_again (ho v rfl) hcut hv₁
    exact ⟨some v₂, map_eq_ok.2 ⟨v₂, hv₂, rfl⟩, .some halike⟩

/-! ### What is picked again -/

variable {sys sys₁ : CoordinateSystem ℚ} {s : Selection ℚ} {a b : SystemAxis ℚ}

/-- Off the ground, every slice that is picked is a single index. -/
theorem exists_single (hground : s.horizontal = none) {r : Slice} (h : picked s a = some r) :
    ∃ i, r = .single i := by
  have hown := ownRange_of_picked h
  have hnot : ∀ role, (role = .x ∨ role = .y) → a.role? ≠ some role := by
    rintro role (rfl | rfl) hrole <;>
      simp [ownRange, isFree_of_picked h, hrole, hground] at hown
  exact exists_single_of_picked (hnot .x (.inl rfl)) (hnot .y (.inr rfl)) h

theorem exists_single_of_restriction (hground : s.horizontal = none) {r : Slice}
    (h : sys.restriction s a = some r) : ∃ i, r = .single i := by
  unfold restriction at h
  split_ifs at h
  · obtain ⟨name, -, hname⟩ := List.exists_of_findSome?_eq_some h
    obtain ⟨parent, -, hpicked⟩ := Option.bind_eq_some_iff.1 hname
    exact exists_single hground hpicked
  · exact exists_single hground h

/-- On what is left of an axis, a selection picks the only index again. -/
theorem ownRange_again (hground : s.horizontal = none) (hb : a.take? (sys.restriction s a) = .ok b)
    {r : Option Slice} (hr : ownRange s a = .ok r) : ownRange s b = .ok (Slice.again r) := by
  have hkept := SystemAxis.kept_of_take? hb
  by_cases hfree : isFree a = true
  · rw [restriction_of_free hfree, picked, hr] at hb hkept
    rcases r with _ | r
    · cases hb
      exact hr
    · obtain ⟨i, rfl⟩ : ∃ i, r = .single i := exists_single hground (by rw [picked, hr])
      have hsize : b.size = 1 := hkept.size
      unfold ownRange at hr ⊢
      rw [if_pos ((isFree_of_kept hkept).trans hfree), hkept.role_eq]
      rw [if_pos hfree] at hr
      split at hr
      · rw [hground] at hr
        cases hr
      · rw [hground] at hr
        cases hr
      · have hkind : b.axis.kind = a.axis.kind := congrArg Axis.Label.kind hkept.label
        have htimed : b.timed?.isSome = a.timed?.isSome := by
          simpa only [Option.isSome_map] using congrArg Option.isSome hkept.scale
        exact SystemAxis.selectedRange_again hsize hkind htimed hr
  · have hfree : isFree a = false := Bool.eq_false_iff.2 hfree
    rw [ownRange_of_not_free hfree] at hr
    cases hr
    exact ownRange_of_not_free ((isFree_of_kept hkept).trans hfree)

theorem picked_again (hground : s.horizontal = none) (h : Selected sys sys₁ s) :
    List.Forall₂ (fun a b => (∃ r, SystemAxis.Kept a b r) ∧ picked s b = Slice.again (picked s a))
      sys.axes sys₁.axes := by
  refine forall₂_imp_mem (fun a ha b _ hb => ?_) h.takes
  obtain ⟨r, hr⟩ := h.picks a ha
  refine ⟨⟨_, SystemAxis.kept_of_take? hb⟩, ?_⟩
  rw [picked, picked, ownRange_again hground hb hr, hr]

theorem bind_picked_again (hground : s.horizontal = none) (h : Selected sys sys₁ s)
    {f : SystemAxis ℚ → Bool} (hf : ∀ {a b r}, SystemAxis.Kept a b r → f a = f b) :
    (sys₁.axes.find? f).bind (picked s) = Slice.again ((sys.axes.find? f).bind (picked s)) := by
  have hrel := find?_forall₂ (fun a b hab => hf hab.1.choose_spec) (picked_again hground h)
  generalize sys.axes.find? f = found at hrel
  generalize sys₁.axes.find? f = found₁ at hrel
  cases hrel with
  | none => rfl
  | some hab => exact hab.2

theorem cutBy_again (hground : s.horizontal = none) (h : Selected sys sys₁ s) :
    sys₁.cutBy s = (sys.cutBy s).again := by
  have hpicked : ∀ role, sys₁.pickedOn s role = Slice.again (sys.pickedOn s role) := fun role =>
    bind_picked_again hground h fun hkept => by rw [hkept.role_eq]
  simp only [cutBy, hpicked, Cut.again, Slice.again, Option.map_or]

theorem restriction_again (hground : s.horizontal = none) (h : Selected sys sys₁ s) (ha : a ∈ sys.axes)
    (hb : a.take? (sys.restriction s a) = .ok b) :
    sys₁.restriction s b = Slice.again (sys.restriction s a) := by
  have hkept := SystemAxis.kept_of_take? hb
  have hfound : ∀ name, (sys₁.find? name).bind (picked s) =
      Slice.again ((sys.find? name).bind (picked s)) := fun name =>
    bind_picked_again hground h fun hkept => by rw [hkept.name_eq]
  obtain ⟨r, hr⟩ := h.picks a ha
  have hpicked : picked s b = Slice.again (picked s a) := by
    rw [picked, picked, ownRange_again hground hb hr, hr]
  unfold restriction
  rw [hkept.dependence_eq, hkept.parents_eq, hpicked]
  split_ifs
  · simp only [hfound, Slice.again, List.map_findSome?]
    rfl
  · rfl

/-- What is left of an axis is left of it again. -/
theorem take?_again (hground : s.horizontal = none) (hb : a.take? (sys.restriction s a) = .ok b) :
    b.take? (Slice.again (sys.restriction s a)) = .ok b := by
  rcases hr : sys.restriction s a with _ | r
  · rfl
  · obtain ⟨i, rfl⟩ := exists_single_of_restriction hground hr
    rw [hr] at hb
    exact SystemAxis.take_again hb

theorem picksOne_cutBy (hground : s.horizontal = none) (sys : CoordinateSystem ℚ) :
    (sys.cutBy s).PicksOne := by
  have hone : ∀ role r, sys.pickedOn s role = some r → r.len = 1 := by
    intro role r hr
    obtain ⟨a, -, ha⟩ := Option.bind_eq_some_iff.1 hr
    obtain ⟨i, rfl⟩ := exists_single hground ha
    rfl
  refine ⟨fun r hr => ?_, hone .vertical, hone .y, hone .x⟩
  rcases Option.or_eq_some_iff.1 hr with hr | ⟨-, hr⟩
  · exact hone .time r hr
  · exact hone .timeOffset r hr

/-- **Selecting is idempotent.** A selection without horizontal ranges that was made can be made again.
The system that it leaves then has the same name and axes that are the same in every field, and its
transform gives the same answers. -/
theorem select_again (hsys : sys.Built) (hmade : ∀ v, sys.transform = some v → v.Made)
    (hground : s.horizontal = none) (h : sys.select s = .ok sys₁) :
    ∃ sys₂, sys₁.select s = .ok sys₂ ∧ sys₂.Alike sys₁ := by
  have hfirst := selected_of_select hsys.consistent h
  obtain ⟨transform, htransform, halike⟩ :=
    exists_transform_again hmade (picksOne_cutBy hground sys) hfirst.transform
  rw [← cutBy_again hground hfirst] at htransform
  refine ⟨⟨sys₁.name, sys₁.axes, sys₁.horizontal, transform⟩,
    (select_eq_ok (hfirst.consistent hsys.consistent)).2 ⟨?_, ?_, htransform, hfirst.grid, rfl⟩,
    rfl, rfl, rfl, halike⟩
  · intro b hb
    obtain ⟨a, ha, htake⟩ := mem_forall₂ hfirst.takes.flip hb
    obtain ⟨r, hr⟩ := hfirst.picks a ha
    exact ⟨_, ownRange_again hground htake hr⟩
  · refine List.forall₂_same.2 fun b hb => ?_
    obtain ⟨a, ha, htake⟩ := mem_forall₂ hfirst.takes.flip hb
    rw [restriction_again hground hfirst ha htake]
    exact take?_again hground htake

/-- The latest time and the level nearest to 170. -/
def latestAt170 : Selection ℚ := { latestTime := true, verticalPoint := some 170 }

/-- The latest time and the level nearest to 170, twice. -/
theorem select_again_column : ∃ sys sys₁ sys₂, column .independent = .ok sys ∧
    sys.select latestAt170 = .ok sys₁ ∧
    sys₁.select latestAt170 = .ok sys₂ ∧ sys₂.Alike sys₁ ∧
    sys₁.axes.map (·.axis.values) = [[6], [200], [0], [0]] := by
  have hvalues : (column .independent >>= (·.select latestAt170)).toOption.map
      (·.axes.map (·.axis.values)) = some [[6], [200], [0], [0]] := by decide +kernel
  cases hrun : column .independent >>= (·.select latestAt170) with
  | error e =>
    rw [hrun] at hvalues
    cases hvalues
  | ok sys₁ =>
    rw [hrun] at hvalues
    obtain ⟨sys, hsys, h⟩ := bind_eq_ok.1 hrun
    have hmade : ∀ v, sys.transform = some v → v.Made := by
      intro v hv
      obtain rfl : _ = sys := Except.ok.inj hsys
      cases hv
      exact .source twoByTwo
    obtain ⟨sys₂, hsecond, halike⟩ := select_again (built_of_column hsys) hmade rfl h
    exact ⟨sys, sys₁, sys₂, hsys, h, hsecond, halike, Option.some.inj hvalues⟩

end CoordinateSystem

end Gridded
