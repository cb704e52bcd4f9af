import Gridded.Proofs.System.Joining

/-!
# What a selection leaves as it is

Each axis heeds some of the parameters, or none. A selection cuts the axes that heed a parameter it sets,
and the axes that depend on one of these; it changes nothing else.

* `Selection.Sets`, `SystemAxis.heeds`: the parameters that are set, and those that an axis heeds;
* `CoordinateSystem.Restricts`, `CoordinateSystem.Reaches`: the axes that a selection restricts by
  themselves, and those that it cuts;
* `CoordinateSystem.isSome_of_ownRange`: a slice is picked on an axis exactly if it is restricted;
* `CoordinateSystem.select_frame`: the axes of the selected system, one by one.
-/

namespace Gridded

/-- A parameter about this is set. -/
def Selection.Sets {α : Type} (s : Selection α) : Concern → Prop
  | .vertical => s.verticalPoint.isSome ∨ s.verticalCell.isSome
  | .ensemble => s.ensemble.isSome
  | .time => s.time.isSome ∨ s.latestTime
  | .runTime => s.runTime.isSome ∨ s.latestRunTime
  | .timeOffset => s.timeOffset.isSome ∨ s.timeOffsetCell.isSome ∨ s.firstTimeOffset
  | .ground => s.horizontal.isSome

/-- What the parameters for the numbers of an axis of a kind are about, if there are any. -/
def AxisKind.heeds : AxisKind → Option Concern
  | .geoZ | .height | .pressure => some .vertical
  | .ensemble => some .ensemble
  | .timeOffset => some .timeOffset
  | .geoX | .geoY | .lat | .lon => some .ground
  | _ => none

/-- What the parameters that an axis heeds are about, if it heeds any. Times and runs are asked for by
date, which only an axis with a time scale has. -/
def SystemAxis.heeds {α : Type} : SystemAxis α → Option Concern
  | .plain a => a.kind.bind AxisKind.heeds
  | .timed t =>
    match t.axis.kind with
    | some .time | none => some .time
    | some .runTime => some .runTime
    | some kind => kind.heeds

section Picking

variable {α : Type} [Scalar α] {s : Selection α}

theorem Axis.isSome_of_pick {a : Axis α} {point : Option α} {cell : Option (Interval α)}
    {o : Option Nat} (h : a.pick point cell = .ok o) : o.isSome ↔ point.isSome ∨ cell.isSome := by
  rcases point with _ | x <;> rcases cell with _ | c
  · cases h
    simp
  all_goals
    obtain ⟨i, -, rfl⟩ := map_eq_ok.1 h
    simp

theorem TimeAxis.isSome_of_pick {t : TimeAxis α} {date : Option Instant} {latest : Bool}
    {r : Option Slice} (h : t.pick date latest = .ok r) : r.isSome ↔ date.isSome ∨ latest := by
  cases date with
  | some date =>
    obtain ⟨i, -, rfl⟩ := map_eq_ok.1 h
    simp
  | none => cases latest <;> cases h <;> simp

/-- An index is picked on an axis of a kind if a parameter for this kind is set. -/
theorem Axis.isSome_of_selectedIndex {a : Axis α} {kind : AxisKind} {o : Option Nat}
    (hground : kind.isHorizontal = false) (h : a.selectedIndex s kind = .ok o) :
    o.isSome ↔ ∃ c, kind.heeds = some c ∧ s.Sets c := by
  cases kind with
  | geoX | geoY | lat | lon => cases hground
  | geoZ | height | pressure => simpa [AxisKind.heeds, Selection.Sets] using isSome_of_pick h
  | ensemble => simpa [AxisKind.heeds, Selection.Sets] using isSome_of_pick h
  | timeOffset =>
    obtain ⟨picked, hpicked, h⟩ := bind_eq_ok.1 h
    have hsome := isSome_of_pick hpicked
    simp only [AxisKind.heeds, Option.some.injEq, exists_eq_left', Selection.Sets, ← or_assoc, ← hsome]
    cases picked with
    | some i =>
      cases h
      simp
    | none =>
      cases h
      cases s.firstTimeOffset <;> simp
  | _ =>
    cases h
    simp [AxisKind.heeds]

theorem Axis.isSome_of_selectedRange {a : Axis α} {r : Option Slice}
    (h : a.selectedRange s = .ok r) : r.isSome ↔ ∃ c, a.kind.bind AxisKind.heeds = some c ∧ s.Sets c := by
  unfold Axis.selectedRange at h
  split at h
  · rename_i hkind
    cases h
    simp [hkind]
  · rename_i kind hkind
    split_ifs at h with hground
    obtain ⟨o, ho, rfl⟩ := map_eq_ok.1 h
    rw [hkind, Option.isSome_map]
    exact isSome_of_selectedIndex (Bool.eq_false_iff.2 hground) ho

theorem SystemAxis.isSome_of_selectedRange {a : SystemAxis α} {r : Option Slice}
    (h : a.selectedRange s = .ok r) : r.isSome ↔ ∃ c, a.heeds = some c ∧ s.Sets c := by
  cases a with
  | plain a => exact Axis.isSome_of_selectedRange h
  | timed t =>
    change t.selectedRange s = .ok r at h
    unfold TimeAxis.selectedRange at h
    unfold SystemAxis.heeds
    split at h
    · rename_i hkind
      simpa [hkind, Selection.Sets] using TimeAxis.isSome_of_pick h
    · rename_i hkind
      simpa [hkind, Selection.Sets] using TimeAxis.isSome_of_pick h
    · rename_i hkind
      simpa [hkind, Selection.Sets] using TimeAxis.isSome_of_pick h
    · rename_i kind htime hrun hkind
      have hsome := Axis.isSome_of_selectedRange h
      rw [hkind, Option.bind_some] at hsome
      simp only [hkind]
      cases kind <;> first | exact absurd rfl htime | exact absurd rfl hrun | exact hsome

end Picking

namespace CoordinateSystem

variable {α : Type}

/-- A selection restricts an axis by itself: the axis neither depends on others, nor is it a scalar or
two-dimensional, and it heeds a parameter that is set. -/
def Restricts (s : Selection α) (a : SystemAxis α) : Prop :=
  (a.axis.dependence ≠ .dependent ∧ a.axis.dependence ≠ .scalar ∧ a.axis.dependence ≠ .twoD) ∧
    ∃ c, a.heeds = some c ∧ s.Sets c

/-- A selection reaches an axis: it restricts the axis, or the axis depends on one that it restricts. -/
def Reaches (sys : CoordinateSystem α) (s : Selection α) (a : SystemAxis α) : Prop :=
  Restricts s a ∨ a.axis.dependence = .dependent ∧
    ∃ parent ∈ sys.axes, parent.name ∈ a.axis.parents ∧ Restricts s parent

variable [Scalar α] {sys sys' : CoordinateSystem α} {s : Selection α} {a : SystemAxis α}

omit [Scalar α] in
theorem isFree_iff : isFree a = true ↔ a.axis.dependence ≠ .dependent ∧
    a.axis.dependence ≠ .scalar ∧ a.axis.dependence ≠ .twoD := by
  unfold isFree
  cases a.axis.dependence <;> simp

omit [Scalar α] in
/-- What is picked on an axis along the ground by its role is set by a parameter that it heeds. -/
theorem isSome_of_horizontal (hkind : ∃ kind, a.axis.kind = some kind ∧ kind.isHorizontal = true)
    (f : HorizontalRanges → Slice) :
    (s.horizontal.map f).isSome ↔ ∃ c, a.heeds = some c ∧ s.Sets c := by
  obtain ⟨kind, hkind, hground⟩ := hkind
  have hheeds : a.heeds = some .ground := by
    cases a with
    | plain a =>
      simp only [SystemAxis.heeds, show a.kind = some kind from hkind]
      cases kind <;> first | rfl | cases hground
    | timed t =>
      simp only [SystemAxis.heeds, show t.axis.kind = some kind from hkind]
      cases kind <;> first | rfl | cases hground
  simp [hheeds, Selection.Sets]

omit [Scalar α] in
theorem horizontal_of_role (h : a.role? = some .x ∨ a.role? = some .y) :
    ∃ kind, a.axis.kind = some kind ∧ kind.isHorizontal = true := by
  have hrole : ∃ role, a.role? = some role ∧ (role = .x ∨ role = .y) := by
    rcases h with h | h
    · exact ⟨.x, h, .inl rfl⟩
    · exact ⟨.y, h, .inr rfl⟩
  obtain ⟨role, hrole, hxy⟩ := hrole
  obtain ⟨kind, hkind, hfills⟩ := Option.bind_eq_some_iff.1 hrole
  refine ⟨kind, hkind, ?_⟩
  cases kind <;> first | rfl | (cases hfills; simp at hxy) | cases hfills

/-- A slice is picked on an axis exactly if the selection restricts the axis. -/
theorem isSome_of_ownRange {r : Option Slice} (h : ownRange s a = .ok r) :
    r.isSome ↔ Restricts s a := by
  unfold ownRange at h
  rw [Restricts, ← isFree_iff]
  split_ifs at h with hfree
  · rw [and_iff_right hfree]
    split at h
    · rename_i hx
      cases h
      exact isSome_of_horizontal (horizontal_of_role (.inl hx)) _
    · rename_i hy
      cases h
      exact isSome_of_horizontal (horizontal_of_role (.inr hy)) _
    · exact SystemAxis.isSome_of_selectedRange h
  · cases h
    simp [hfree]

theorem isSome_picked (h : ∃ r, ownRange s a = .ok r) : (picked s a).isSome ↔ Restricts s a := by
  obtain ⟨r, hr⟩ := h
  rw [picked, hr]
  exact isSome_of_ownRange hr

/-- A selection cuts the axes that it reaches. -/
theorem isSome_restriction (hdistinct : sys.axes.Pairwise Distinct)
    (hpicks : ∀ a ∈ sys.axes, ∃ r, ownRange s a = .ok r) (ha : a ∈ sys.axes) :
    (sys.restriction s a).isSome ↔ sys.Reaches s a := by
  unfold restriction Reaches
  split_ifs with hdep
  · have hnot : ¬Restricts s a := fun h => h.1.1 hdep
    rw [or_iff_right hnot, and_iff_right hdep, List.findSome?_isSome_iff]
    constructor
    · rintro ⟨name, hname, hsome⟩
      obtain ⟨r, hr⟩ := Option.isSome_iff_exists.1 hsome
      obtain ⟨parent, hparent, hpicked⟩ := Option.bind_eq_some_iff.1 hr
      obtain ⟨hmem, rfl⟩ := name_of_find? hparent
      refine ⟨parent, hmem, hname, (isSome_picked (hpicks parent hmem)).1 ?_⟩
      rw [hpicked]
      rfl
    · rintro ⟨parent, hmem, hname, hrestricts⟩
      refine ⟨parent.name, hname, ?_⟩
      rw [(find?_eq_some hdistinct).2 ⟨hmem, rfl⟩, Option.bind_some]
      exact (isSome_picked (hpicks parent hmem)).2 hrestricts
  · rw [isSome_picked (hpicks a ha), or_iff_left fun h => hdep h.1]

/-- What becomes of an axis under a selection: what is known about it stays, an axis that the selection
does not reach stays in every field, and any other is a part of what it was. -/
structure Frames (sys : CoordinateSystem α) (s : Selection α) (a b : SystemAxis α) : Prop where
  label : b.axis.label = a.axis.label
  role : b.role? = a.role?
  scale : b.timed?.map TimeAxis.scale = a.timed?.map TimeAxis.scale
  untouched : ¬sys.Reaches s a → b = a
  taken : sys.Reaches s a → (∃ r, a.take r = .ok b) ∧ b.axis.isSubset = true

/-- **A selection changes nothing but the coordinates of the axes that it reaches.** The selected system
has the name of the first one and its axes in order. Those that heed no parameter that is set, and depend
on no axis that does, are the same in every field. -/
theorem select_frame (hsys : sys.Built) (h : sys.select s = .ok sys') :
    sys'.name = sys.name ∧ List.Forall₂ (sys.Frames s) sys.axes sys'.axes := by
  have hselected := selected_of_select hsys.consistent h
  refine ⟨hselected.name, forall₂_imp_mem ?_ hselected.takes⟩
  intro a ha b _ htake
  have hkept := SystemAxis.kept_of_take? htake
  have hsome := isSome_restriction hsys.consistent.distinct hselected.picks ha
  refine ⟨hkept.label, hkept.role_eq, hkept.scale, fun hnot => ?_, fun hreaches => ?_⟩
  · rw [← hsome, Option.not_isSome_iff_eq_none] at hnot
    rw [hnot] at htake
    exact (Except.ok.inj htake).symm
  · obtain ⟨r, hr⟩ := Option.isSome_iff_exists.1 (hsome.2 hreaches)
    rw [hr] at htake
    exact ⟨⟨r, htake⟩, (Axis.taken_of_take (SystemAxis.take_eq_ok htake).1).isSubset⟩

/-- The latest time cuts the levels that depend on it, which cannot be asked for by themselves then. The
grid stays as it is. -/
theorem select_frame_column : ∃ sys sys', column .dependent = .ok sys ∧ sys.Built ∧
    sys.select { latestTime := true, verticalPoint := some 100 } = .ok sys' ∧
    List.Forall₂ (sys.Frames { latestTime := true, verticalPoint := some 100 }) sys.axes sys'.axes ∧
    sys'.axes.map (·.axis.isSubset) = [true, true, false, false] := by
  have hframes : ∀ sys sys', column .dependent = .ok sys →
      sys.select { latestTime := true, verticalPoint := some 100 } = .ok sys' → sys.Built ∧
      List.Forall₂ (sys.Frames { latestTime := true, verticalPoint := some 100 })
        sys.axes sys'.axes := fun sys sys' hsys h =>
    ⟨built_of_column hsys, (select_frame (built_of_column hsys) h).2⟩
  obtain ⟨hbuilt, hall⟩ := hframes _ _ rfl rfl
  exact ⟨_, _, rfl, hbuilt, rfl, hall, rfl⟩

end CoordinateSystem

end Gridded
