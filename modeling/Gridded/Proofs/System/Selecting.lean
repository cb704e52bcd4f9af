import Gridded.Proofs.Axis.Taking
import Gridded.Proofs.System.Consistency
import Gridded.Proofs.Vertical.Windows
import Gridded.System.Subset

/-!
# What a selection does to a system

A selection cuts each axis by one slice, which depends only on the system and the selection, and cuts
the transform by the slices that it picks by role.

* `SystemAxis.Kept`: how what is kept of an axis relates to it;
* `CoordinateSystem.picked`, `CoordinateSystem.restriction`, `CoordinateSystem.cutBy`: the slice that
  is picked on an axis, the slice by which the axis is cut, and the cut of the transform;
* `CoordinateSystem.select_of_choices`: selecting in these terms;
* `CoordinateSystem.Selected`: how the selected system relates to the first one, which is exactly when a
  selection succeeds (`CoordinateSystem.select_eq_ok`); `CoordinateSystem.exists_error_of_select` lists
  why it fails;
* `CoordinateSystem.shows_of_cutTransform`: how the cut transform relates to the first one.
-/

namespace Gridded

/-! ### What is kept of an axis -/

namespace SystemAxis

variable {α : Type} [Scalar α] {a b : SystemAxis α} {r : Option Slice}

/-- How what is kept of an axis relates to it. -/
structure Kept (a b : SystemAxis α) (r : Option Slice) : Prop where
  label : b.axis.label = a.axis.label
  scale : b.timed?.map TimeAxis.scale = a.timed?.map TimeAxis.scale
  below : (Slice.orWhole a.size r).Below a.size
  size : b.size = (Slice.orWhole a.size r).len
  built : a.axis.Built → b.axis.Built
  range : a.axis.Built → b.axis.range.Reads a.axis.range (Slice.orWhole a.size r)

theorem take_eq_ok {s : Slice} (h : a.take s = .ok b) :
    a.axis.take s = .ok b.axis ∧ b.timed?.map TimeAxis.scale = a.timed?.map TimeAxis.scale := by
  cases a with
  | plain a =>
    obtain ⟨b, hb, rfl⟩ := map_eq_ok.1 h
    exact ⟨hb, rfl⟩
  | timed t =>
    obtain ⟨u, hu, rfl⟩ := map_eq_ok.1 h
    obtain ⟨b, hb, rfl⟩ := map_eq_ok.1 hu
    exact ⟨hb, rfl⟩

theorem kept_of_take? (h : a.take? r = .ok b) : Kept a b r := by
  cases r with
  | none =>
    cases h
    refine ⟨rfl, rfl, Slice.below_whole none _, rfl, id, fun hbuilt => ?_⟩
    have hlen : a.axis.range.len = a.size := hbuilt.wellFormed.len_range
    exact ⟨hlen ▸ Slice.below_whole none _, hlen, fun i _ => by simp⟩
  | some s =>
    obtain ⟨htake, hscale⟩ := take_eq_ok h
    have ht := Axis.taken_of_take htake
    exact ⟨ht.label, hscale, ht.below, ht.size, fun _ => ht.built, fun _ => ht.range⟩

theorem Kept.name_eq (h : Kept a b r) : b.name = a.name := congrArg Axis.Label.name h.label

theorem Kept.role_eq (h : Kept a b r) : b.role? = a.role? :=
  congrArg (fun l => l.kind.bind AxisKind.role?) h.label

theorem Kept.parents_eq (h : Kept a b r) : b.axis.parents = a.axis.parents :=
  congrArg Axis.Label.parents h.label

theorem Kept.dependence_eq (h : Kept a b r) : b.axis.dependence = a.axis.dependence :=
  congrArg Axis.Label.dependence h.label

end SystemAxis

namespace CoordinateSystem

variable {α : Type} [Scalar α]

/-! ### The slices of a selection -/

/-- The slice that a selection picks on an axis, if it can be found. -/
def picked (s : Selection α) (a : SystemAxis α) : Option Slice :=
  match ownRange s a with
  | .ok r => r
  | .error _ => none

/-- The slice that a selection picks on the axis of a role. -/
def pickedOn (sys : CoordinateSystem α) (s : Selection α) (role : Role) : Option Slice :=
  (sys.axisOf? role).bind (picked s)

/-- The slice by which a selection cuts an axis: on a dependent one, that of the first parent which
has one. -/
def restriction (sys : CoordinateSystem α) (s : Selection α) (a : SystemAxis α) : Option Slice :=
  if a.axis.dependence = .dependent then
    a.axis.parents.findSome? fun name => (sys.find? name).bind (picked s)
  else picked s a

/-- The cut of the transform. -/
def cutBy (sys : CoordinateSystem α) (s : Selection α) : Cut where
  time := (sys.pickedOn s .time).or (sys.pickedOn s .timeOffset)
  z := sys.pickedOn s .vertical
  y := sys.pickedOn s .y
  x := sys.pickedOn s .x

theorem ownRange_of_not_free {s : Selection α} {a : SystemAxis α} (h : isFree a = false) :
    ownRange s a = .ok none := by
  rw [ownRange, h]
  rfl

theorem picked_of_not_free {s : Selection α} {a : SystemAxis α} (h : isFree a = false) :
    picked s a = none := by
  rw [picked, ownRange_of_not_free h]

omit [Scalar α] in
theorem isFree_of_dependent {a : SystemAxis α} (h : a.axis.dependence = .dependent) :
    isFree a = false := by
  rw [isFree, h]

theorem restriction_of_free {sys : CoordinateSystem α} {s : Selection α} {a : SystemAxis α}
    (h : isFree a = true) :
    sys.restriction s a = picked s a := by
  have hdep : a.axis.dependence ≠ .dependent := fun hdep => by
    rw [isFree_of_dependent hdep] at h
    cases h
  rw [restriction, if_neg hdep]

/-- An axis that depends on one other is cut by the slice that is picked there. -/
theorem restriction_of_parent {sys : CoordinateSystem α} {a parent : SystemAxis α} {name : String}
    (hdep : a.axis.dependence = .dependent) (hparents : a.axis.parents = [name])
    (h : sys.find? name = some parent) (s : Selection α) :
    sys.restriction s a = picked s parent := by
  rw [restriction, if_pos hdep, hparents, List.findSome?_singleton, h]
  rfl

/-- Nothing is picked on a dependent axis, so one that depends on such axes only is not cut. -/
theorem restriction_eq_none {sys : CoordinateSystem α} {a : SystemAxis α}
    (hdep : a.axis.dependence = .dependent)
    (h : ∀ name ∈ a.axis.parents, ∀ parent, sys.find? name = some parent →
      parent.axis.dependence = .dependent) (s : Selection α) :
    sys.restriction s a = none := by
  rw [restriction, if_pos hdep, List.findSome?_eq_none_iff]
  intro name hname
  rcases hfind : sys.find? name with _ | parent
  · rfl
  · exact picked_of_not_free (isFree_of_dependent (h name hname parent hfind))

theorem isFree_of_kept {a b : SystemAxis α} {r : Option Slice} (h : SystemAxis.Kept a b r) :
    isFree b = isFree a := by
  rw [isFree, isFree, h.dependence_eq]

/-! ### Single indices -/

/-- Every slice that is searched for is a single index. -/
theorem exists_single_of_selectedRange {a : Axis α} {s : Selection α} {r : Slice}
    (h : a.selectedRange s = .ok (some r)) : ∃ i, r = Slice.single i := by
  unfold Axis.selectedRange at h
  split at h
  · cases h
  · split_ifs at h
    obtain ⟨i, -, hi⟩ := map_eq_ok.1 h
    obtain ⟨i, -, rfl⟩ := Option.map_eq_some_iff.1 hi
    exact ⟨i, rfl⟩

theorem exists_single_of_pick {t : TimeAxis α} {date : Option Instant} {latest : Bool} {r : Slice}
    (h : t.pick date latest = .ok (some r)) : ∃ i, r = Slice.single i := by
  unfold TimeAxis.pick at h
  split at h
  · obtain ⟨i, -, hi⟩ := map_eq_ok.1 h
    cases hi
    exact ⟨i, rfl⟩
  · split_ifs at h <;> cases h
    exact ⟨_, rfl⟩

theorem exists_single_of_timed {t : TimeAxis α} {s : Selection α} {r : Slice}
    (h : t.selectedRange s = .ok (some r)) : ∃ i, r = Slice.single i := by
  unfold TimeAxis.selectedRange at h
  split at h
  · exact exists_single_of_pick h
  · exact exists_single_of_pick h
  · exact exists_single_of_pick h
  · exact exists_single_of_selectedRange h

theorem ownRange_of_picked {s : Selection α} {a : SystemAxis α} {r : Slice}
    (h : picked s a = some r) : ownRange s a = .ok (some r) := by
  unfold picked at h
  split at h
  · rename_i hr
    rw [hr, h]
  · cases h

theorem isFree_of_picked {s : Selection α} {a : SystemAxis α} {r : Slice}
    (h : picked s a = some r) : isFree a = true := by
  by_contra hfree
  rw [picked_of_not_free (Bool.eq_false_iff.2 hfree)] at h
  cases h

/-- Off the ground, a selection picks a single index or nothing. -/
theorem exists_single_of_picked {s : Selection α} {a : SystemAxis α} {r : Slice}
    (hx : a.role? ≠ some .x) (hy : a.role? ≠ some .y) (h : picked s a = some r) :
    ∃ i, r = Slice.single i := by
  have hown := ownRange_of_picked h
  rw [ownRange, if_pos (isFree_of_picked h)] at hown
  split at hown
  · exact absurd (by assumption) hx
  · exact absurd (by assumption) hy
  · cases a with
    | plain a => exact exists_single_of_selectedRange hown
    | timed t => exact exists_single_of_timed hown

/-- Nothing is said about the axis of time offsets. -/
def LeavesOffsets (s : Selection α) : Prop :=
  s.timeOffset = none ∧ s.timeOffsetCell = none ∧ s.firstTimeOffset = false

omit [Scalar α] in
theorem kind_of_role_timeOffset {a : SystemAxis α} (h : a.role? = some .timeOffset) :
    a.axis.kind = some .timeOffset := by
  obtain ⟨kind, hkind, hrole⟩ := Option.bind_eq_some_iff.1 h
  cases kind <;> first | exact hkind | cases hrole

theorem selectedRange_of_leavesOffsets {s : Selection α} (hs : LeavesOffsets s)
    {a : SystemAxis α} (h : a.axis.kind = some .timeOffset) : a.selectedRange s = .ok none := by
  obtain ⟨hpoint, hcell, hfirst⟩ := hs
  have haxis : a.axis.selectedRange s = .ok none := by
    simp only [Axis.selectedRange, h, AxisKind.isHorizontal, Axis.selectedIndex, hpoint, hcell,
      hfirst, Axis.pick]
    rfl
  cases a with
  | plain a => exact haxis
  | timed t =>
    show t.selectedRange s = .ok none
    rw [TimeAxis.selectedRange, show t.axis.kind = some .timeOffset from h]
    exact haxis

theorem pickedOn_timeOffset {sys : CoordinateSystem α} {s : Selection α} (hs : LeavesOffsets s) :
    sys.pickedOn s .timeOffset = none := by
  rw [pickedOn, Option.bind_eq_none_iff]
  intro a ha
  have hrole := (role_of_filling ha).2
  have hrange := selectedRange_of_leavesOffsets hs (kind_of_role_timeOffset hrole)
  have hown : ownRange s a = .ok none := by
    rw [ownRange, hrole]
    split_ifs
    · exact hrange
    · rfl
  rw [picked, hown]

/-! ### Choices -/

theorem choose_eq_ok {s : Selection α} {a : SystemAxis α} {c : Choice α} :
    choose s a = .ok c ↔
      c.axis = a ∧ ownRange s a = .ok c.range ∧ a.take? c.range = .ok c.kept := by
  simp only [choose, bind_eq_ok, pure_eq_ok]
  constructor
  · rintro ⟨r, hr, b, hb, rfl⟩
    exact ⟨rfl, hr, hb⟩
  · rintro ⟨rfl, hr, hb⟩
    exact ⟨_, hr, _, hb, rfl⟩

theorem picked_of_choose {s : Selection α} {a : SystemAxis α} {c : Choice α}
    (h : choose s a = .ok c) : picked s a = c.range := by
  rw [picked, (choose_eq_ok.1 h).2.1]

section Choices

variable {s : Selection α} {axes : List (SystemAxis α)} {choices : List (Choice α)}

theorem rangeOfName_eq (h : List.Forall₂ (fun a c => choose s a = .ok c) axes choices)
    (name : String) :
    rangeOfName choices name = (axes.find? (·.name == name)).bind (picked s) := by
  have hrel := find?_forall₂ (p := fun a : SystemAxis α => a.name == name)
    (q := fun c : Choice α => c.axis.name == name)
    (fun a c hc => by rw [(choose_eq_ok.1 hc).1]) h
  unfold rangeOfName
  generalize axes.find? (fun a => a.name == name) = found at hrel ⊢
  generalize choices.find? (fun c => c.axis.name == name) = choice at hrel ⊢
  cases hrel with
  | none => rfl
  | some hc => exact (picked_of_choose hc).symm

theorem rangeOfRole_eq_none {role : Role}
    (h : List.Forall₂ (fun a c => choose s a = .ok c) axes choices)
    (hrole : ∀ a ∈ axes, a.role? ≠ some role) : rangeOfRole choices role = none := by
  induction h with
  | nil => rfl
  | cons hc _ ih =>
    rw [List.forall_mem_cons] at hrole
    rw [rangeOfRole, List.findSome?_cons, (choose_eq_ok.1 hc).1, if_neg hrole.1]
    exact ih hrole.2

theorem rangeOfRole_eq (h : List.Forall₂ (fun a c => choose s a = .ok c) axes choices)
    (hdistinct : axes.Pairwise Distinct) (role : Role) :
    rangeOfRole choices role = (filling axes role).bind (picked s) := by
  induction h with
  | nil => rfl
  | @cons a c axes choices hc hrest ih =>
    rw [List.pairwise_cons] at hdistinct
    rw [rangeOfRole, List.findSome?_cons, filling, List.find?_cons, (choose_eq_ok.1 hc).1]
    by_cases hrole : a.role? = some role
    · -- No other axis has this role, so nothing follows even if nothing is picked here.
      have hnone := rangeOfRole_eq_none hrest fun b hb => (hdistinct.1 b hb).2 role hrole
      rw [if_pos hrole, decide_eq_true hrole]
      rcases hr : c.range with _ | r
      · exact hnone.trans ((picked_of_choose hc).trans hr).symm
      · exact ((picked_of_choose hc).trans hr).symm
    · rw [if_neg hrole, decide_eq_false hrole]
      exact ih hdistinct.2

/-- What is settled for an axis is what its slice keeps of it. -/
theorem settle_eq {sys : CoordinateSystem α} {choices : List (Choice α)}
    (h : List.Forall₂ (fun a c => choose s a = .ok c) sys.axes choices) {a : SystemAxis α}
    {c : Choice α} (hc : choose s a = .ok c) :
    settle choices c = a.take? (sys.restriction s a) := by
  have hname : rangeOfName choices = fun name => (sys.find? name).bind (picked s) :=
    funext (rangeOfName_eq h)
  have haxis : c.axis = a := (choose_eq_ok.1 hc).1
  unfold settle restriction
  rw [haxis, hname]
  split_ifs with hdep
  · rfl
  · -- What is kept of any other axis is known since it was chosen.
    rw [picked_of_choose hc]
    exact (choose_eq_ok.1 hc).2.2.symm

theorem cutOf_eq {sys : CoordinateSystem α} {choices : List (Choice α)}
    (h : List.Forall₂ (fun a c => choose s a = .ok c) sys.axes choices)
    (hdistinct : sys.axes.Pairwise Distinct) : cutOf choices = sys.cutBy s := by
  unfold cutOf cutBy pickedOn axisOf?
  simp only [rangeOfRole_eq h hdistinct]

end Choices

/-! ### Axes that are kept -/

section Kept

variable {axes axes' : List (SystemAxis α)}

theorem distinct_of_kept (h : axes.Pairwise Distinct)
    (hkept : List.Forall₂ (fun a b => ∃ r, SystemAxis.Kept a b r) axes axes') :
    axes'.Pairwise Distinct := by
  induction hkept with
  | nil => exact .nil
  | @cons a b axes axes' hab hrest ih =>
    rw [List.pairwise_cons] at h ⊢
    refine ⟨fun b' hb' => ?_, ih h.2⟩
    obtain ⟨a', ha', r', hr'⟩ := mem_forall₂ hrest.flip hb'
    obtain ⟨r, hr⟩ := hab
    have hdistinct := h.1 a' ha'
    rw [Distinct, hr.name_eq, hr'.name_eq, hr.role_eq, hr'.role_eq]
    exact hdistinct

/-- What is kept of axes that fit together fits together. -/
theorem Consistent.of_kept (h : Consistent axes)
    (hkept : List.Forall₂ (fun a b => ∃ r, SystemAxis.Kept a b r) axes axes') :
    Consistent axes' := by
  have hback : ∀ b ∈ axes', ∃ a ∈ axes, ∃ r, SystemAxis.Kept a b r :=
    fun b hb => mem_forall₂ hkept.flip hb
  have hfilling : ∀ {role}, (∃ a, filling axes role = some a) →
      ∃ b, filling axes' role = some b := by
    rintro role ⟨a, ha⟩
    obtain ⟨b, hb, r, hr⟩ := mem_forall₂ hkept (role_of_filling ha).1
    rcases hnone : filling axes' role with _ | b'
    · exact absurd (hr.role_eq.trans (role_of_filling ha).2) (filling_eq_none.1 hnone b hb)
    · exact ⟨b', rfl⟩
  refine ⟨distinct_of_kept h.distinct hkept, fun b hb => ?_, fun b hb parent hparent => ?_,
    hfilling h.x, hfilling h.y⟩
  · obtain ⟨a, ha, r, hr⟩ := hback b hb
    have hdated := h.dated a ha
    have hsome : b.timed?.isSome = a.timed?.isSome := by
      simpa only [Option.isSome_map] using congrArg Option.isSome hr.scale
    rw [IsDated, hr.role_eq, hsome]
    exact hdated
  · obtain ⟨a, ha, r, hr⟩ := hback b hb
    obtain ⟨a', ha', rfl⟩ := h.parents a ha parent (hr.parents_eq ▸ hparent)
    obtain ⟨b', hb', r', hr'⟩ := mem_forall₂ hkept ha'
    exact ⟨b', hb', hr'.name_eq⟩

end Kept

/-! ### The selected system -/

section Selected

variable {sys sys' : CoordinateSystem α} {s : Selection α}

/-- What is settled for all axes is what their slices keep of them. -/
theorem mapM_restriction_eq {choices : List (Choice α)}
    (h : sys.axes.mapM (choose s) = .ok choices) :
    sys.axes.mapM (fun a => a.take? (sys.restriction s a)) = choices.mapM (settle choices) :=
  mapM_forall₂ (f := fun a : SystemAxis α => a.take? (sys.restriction s a)) (g := settle choices)
    (fun _ _ hc => (settle_eq (mapM_eq_ok.1 h) hc).symm) (mapM_eq_ok.1 h)

/-- Selecting, once it is known what is picked on each axis. -/
theorem select_of_choices {choices : List (Choice α)}
    (h : sys.axes.mapM (choose s) = .ok choices) (hdistinct : sys.axes.Pairwise Distinct) :
    sys.select s = (do
      let axes ← sys.axes.mapM fun a => a.take? (sys.restriction s a)
      let transform ← sys.transform.mapM fun t => cutTransform t (sys.cutBy s)
      build (some sys.name) axes transform) := by
  rw [select, h, ok_bind, ← mapM_restriction_eq h, cutOf_eq (mapM_eq_ok.1 h) hdistinct]

/-- An axis is chosen whole if it is dependent, and otherwise as it is cut in the end. -/
theorem take?_of_ownRange (sys : CoordinateSystem α) {a : SystemAxis α} {r : Option Slice}
    (hr : ownRange s a = .ok r) :
    a.take? r = .ok a ∨ a.take? r = a.take? (sys.restriction s a) := by
  by_cases hdep : a.axis.dependence = .dependent
  · rw [ownRange_of_not_free (isFree_of_dependent hdep)] at hr
    cases hr
    exact .inl rfl
  · right
    rw [restriction, if_neg hdep, picked, hr]

/-- How the selected system relates to the first one. -/
structure Selected (sys sys' : CoordinateSystem α) (s : Selection α) : Prop where
  picks : ∀ a ∈ sys.axes, ∃ r, ownRange s a = .ok r
  takes : List.Forall₂ (fun a b => a.take? (sys.restriction s a) = .ok b) sys.axes sys'.axes
  transform : sys.transform.mapM (fun t => cutTransform t (sys.cutBy s)) = .ok sys'.transform
  grid : ∃ x y, sys'.axisOf? .x = some x ∧ sys'.axisOf? .y = some y ∧
    sys'.horizontal = ⟨x.axis, y.axis⟩
  name : sys'.name = sys.name

theorem Selected.kept (h : Selected sys sys' s) :
    List.Forall₂ (fun a b => SystemAxis.Kept a b (sys.restriction s a)) sys.axes sys'.axes :=
  h.takes.imp fun _ _ hb => SystemAxis.kept_of_take? hb

theorem Selected.consistent (h : Selected sys sys' s) (hsys : Consistent sys.axes) :
    Consistent sys'.axes :=
  hsys.of_kept (h.kept.imp fun _ _ hb => ⟨_, hb⟩)

theorem selected_of_select (hsys : Consistent sys.axes) (h : sys.select s = .ok sys') :
    Selected sys sys' s := by
  have hselect := h
  unfold select at h
  obtain ⟨choices, hchoices, -⟩ := bind_eq_ok.1 h
  rw [select_of_choices hchoices hsys.distinct] at hselect
  obtain ⟨axes, haxes, hselect⟩ := bind_eq_ok.1 hselect
  obtain ⟨transform, htransform, hbuild⟩ := bind_eq_ok.1 hselect
  obtain ⟨-, x, y, hx, hy, rfl⟩ := build_eq_ok.1 hbuild
  refine ⟨fun a ha => ?_, mapM_eq_ok.1 haxes, htransform, ⟨x, y, hx, hy, rfl⟩, rfl⟩
  obtain ⟨c, -, hc⟩ := mem_forall₂ (mapM_eq_ok.1 hchoices) ha
  exact ⟨c.range, (choose_eq_ok.1 hc).2.1⟩

/-- A selection succeeds exactly if every slice can be found, every axis can be cut and the transform
can be cut: what is kept fits together. -/
theorem select_eq_ok (hsys : Consistent sys.axes) :
    sys.select s = .ok sys' ↔ Selected sys sys' s := by
  refine ⟨selected_of_select hsys, fun h => ?_⟩
  obtain ⟨choices, hchoices⟩ : ∃ choices, sys.axes.mapM (choose s) = .ok choices := by
    refine exists_mapM_iff.2 fun a ha => ?_
    obtain ⟨r, hr⟩ := h.picks a ha
    obtain ⟨b, -, hb⟩ := mem_forall₂ h.takes ha
    rcases take?_of_ownRange sys hr with hc | hc
    · exact ⟨⟨a, r, a⟩, choose_eq_ok.2 ⟨rfl, hr, hc⟩⟩
    · exact ⟨⟨a, r, b⟩, choose_eq_ok.2 ⟨rfl, hr, hc.trans hb⟩⟩
  rw [select_of_choices hchoices hsys.distinct, mapM_eq_ok.2 h.takes, ok_bind, h.transform,
    ok_bind]
  obtain ⟨x, y, hx, hy, hgrid⟩ := h.grid
  refine build_eq_ok.2 ⟨h.consistent hsys, x, y, hx, hy, ?_⟩
  obtain ⟨name, axes, horizontal, transform⟩ := sys'
  cases h.name
  cases hgrid
  rfl

/-- An axis cannot be chosen because its slice cannot be found, or the axis cannot be cut. -/
theorem error_of_choose (sys : CoordinateSystem α) {a : SystemAxis α} {e : Error}
    (h : choose s a = .error e) :
    ownRange s a = .error e ∨ a.take? (sys.restriction s a) = .error e := by
  rcases bind_eq_error.1 h with hr | ⟨r, hr, h⟩
  · exact .inl hr
  · right
    rcases bind_eq_error.1 h with hb | ⟨b, -, hpure⟩
    · rcases take?_of_ownRange sys hr with hwhole | hcut
      · rw [hwhole] at hb
        cases hb
      · exact hcut.symm.trans hb
    · cases hpure

/-- A selection fails because an axis cannot be chosen, or because a dependent axis cannot be cut once
every axis is chosen, or because the transform cannot be cut, and for no other reason. -/
theorem exists_error_of_select {e : Error} (hsys : Consistent sys.axes)
    (h : sys.select s = .error e) :
    (∃ a ∈ sys.axes, choose s a = .error e) ∨
      (∀ a ∈ sys.axes, ∃ c, choose s a = .ok c) ∧
        (∃ a ∈ sys.axes, a.take? (sys.restriction s a) = .error e) ∨
      ∃ v, sys.transform = some v ∧ cutTransform v (sys.cutBy s) = .error e := by
  rcases hchoices : sys.axes.mapM (choose s) with e' | choices
  · rw [select, hchoices] at h
    cases h
    exact .inl (exists_error_of_mapM hchoices)
  right
  rw [select_of_choices hchoices hsys.distinct] at h
  rcases bind_eq_error.1 h with haxes | ⟨axes, haxes, h⟩
  · exact .inl ⟨exists_mapM_iff.1 ⟨choices, hchoices⟩, exists_error_of_mapM haxes⟩
  rcases bind_eq_error.1 h with htransform | ⟨transform, -, hbuild⟩
  · right
    rcases hv : sys.transform with _ | v
    · rw [hv] at htransform
      cases htransform
    · rw [hv] at htransform
      exact ⟨v, rfl, map_eq_error.1 htransform⟩
  · -- What is kept fits together, so there is no error left.
    have hc : Consistent axes :=
      hsys.of_kept ((mapM_eq_ok.1 haxes).imp fun _ _ hb => ⟨_, SystemAxis.kept_of_take? hb⟩)
    obtain ⟨sys', hsys'⟩ := hc.exists_build (some sys.name) transform
    rw [hsys'] at hbuild
    cases hbuild

/-- An axis that is looked up by what a selection does not change is what is kept of the axis that was
there. -/
theorem Selected.exists_found (h : Selected sys sys' s) {f : SystemAxis α → Bool}
    (hf : ∀ {a b r}, SystemAxis.Kept a b r → f a = f b) {a : SystemAxis α}
    (ha : sys.axes.find? f = some a) :
    ∃ b, sys'.axes.find? f = some b ∧ a.take? (sys.restriction s a) = .ok b := by
  have hrel := find?_forall₂ (fun a b hb => hf (SystemAxis.kept_of_take? hb)) h.takes
  rw [ha] at hrel
  cases hb : sys'.axes.find? f with
  | none => rw [hb] at hrel; cases hrel
  | some b =>
    rw [hb] at hrel
    cases hrel with
    | some htake => exact ⟨b, rfl, htake⟩

theorem Selected.axisOf? (h : Selected sys sys' s) {role : Role} {a : SystemAxis α}
    (ha : sys.axisOf? role = some a) :
    ∃ b, sys'.axisOf? role = some b ∧ SystemAxis.Kept a b (sys.restriction s a) := by
  obtain ⟨b, hb, htake⟩ := h.exists_found (fun hkept => by rw [hkept.role_eq]) ha
  exact ⟨b, hb, SystemAxis.kept_of_take? htake⟩

end Selected

/-! ### The cut transform -/

section Transform

open VerticalTransform

variable {v v' : VerticalTransform α} {cut : Cut}

/-- The cut transform shows what is seen through the window of the cut. -/
theorem shows_of_cutTransform (hv : v.Made) (h : cutTransform v cut = .ok v') :
    v'.Shows v (Window.opened v.shape v.times cut) := by
  unfold cutTransform at h
  split_ifs at h with hcut
  · cases h
    subst hcut
    exact shows_self hv
  · exact shows_of_subset hv h

end Transform

end CoordinateSystem

end Gridded
