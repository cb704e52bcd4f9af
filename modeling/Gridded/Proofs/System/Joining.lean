import Gridded.Proofs.System.Alignment
import Gridded.Proofs.Vertical.Joining

/-!
# Selections of different concerns

The parameters of a selection are about the levels, the members of an ensemble, the times, the runs, the
time offsets or the ground. Selections without a common concern can be made one after the other, in
either order, or at once, as long as no axis depends on several others.

* `Concern`, `Selection.about`, `SystemAxis.concern`: what a parameter is about, and which parameters
  an axis heeds (`CoordinateSystem.ownRange_about`);
* `Selection.Apart`, `Selection.join`: selections without a common concern, and both in one;
* `CoordinateSystem.cutBy_joins`, `CoordinateSystem.restriction_joins`: what both pick at once;
* `CoordinateSystem.Alike`, `CoordinateSystem.Agree`: systems and runs that cannot be told apart;
* `CoordinateSystem.select_join`: the three ways agree.
-/

namespace Gridded

/-! ### Concerns -/

/-- What a parameter of a selection is about. -/
inductive Concern
  | vertical | ensemble | time | runTime | timeOffset | ground

namespace Selection

variable {α : Type} {p q s t : Selection α} {c : Concern}

/-- The parameters about one thing, and no others. -/
def about (s : Selection α) : Concern → Selection α
  | .vertical => { verticalPoint := s.verticalPoint, verticalCell := s.verticalCell }
  | .ensemble => { ensemble := s.ensemble }
  | .time => { time := s.time, latestTime := s.latestTime }
  | .runTime => { runTime := s.runTime, latestRunTime := s.latestRunTime }
  | .timeOffset =>
    { timeOffset := s.timeOffset
      timeOffsetCell := s.timeOffsetCell
      firstTimeOffset := s.firstTimeOffset }
  | .ground => { horizontal := s.horizontal }

/-- No parameter about this is set. -/
def Silent (s : Selection α) (c : Concern) : Prop := s.about c = {}

/-- There is nothing about which both selections set parameters. -/
def Apart (p q : Selection α) : Prop := ∀ c, p.Silent c ∨ q.Silent c

/-- All parameters that one of two selections sets. -/
def join (p q : Selection α) : Selection α where
  verticalPoint := p.verticalPoint.or q.verticalPoint
  verticalCell := p.verticalCell.or q.verticalCell
  ensemble := p.ensemble.or q.ensemble
  time := p.time.or q.time
  latestTime := p.latestTime || q.latestTime
  runTime := p.runTime.or q.runTime
  latestRunTime := p.latestRunTime || q.latestRunTime
  timeOffset := p.timeOffset.or q.timeOffset
  timeOffsetCell := p.timeOffsetCell.or q.timeOffsetCell
  firstTimeOffset := p.firstTimeOffset || q.firstTimeOffset
  horizontal := p.horizontal.or q.horizontal

theorem Apart.symm (h : p.Apart q) : q.Apart p := fun c => (h c).symm

theorem about_join_of_silent (h : p.Silent c) : (p.join q).about c = q.about c := by
  cases c <;> simp_all [Silent, about, join]

theorem join_about_of_silent (h : q.Silent c) : (p.join q).about c = p.about c := by
  cases c <;> simp_all [Silent, about, join]

/-- A selection is known by what it says about each concern. -/
theorem eq_of_about (h : ∀ c, s.about c = t.about c) : s = t := by
  have hvertical := h .vertical
  have hensemble := h .ensemble
  have htime := h .time
  have hrun := h .runTime
  have hoffset := h .timeOffset
  have hground := h .ground
  simp only [about, mk.injEq, and_true, true_and] at hvertical hensemble htime hrun hoffset hground
  cases s
  cases t
  simp_all

theorem join_comm (h : p.Apart q) : p.join q = q.join p := by
  refine eq_of_about fun c => ?_
  rcases h c with hp | hq
  · rw [about_join_of_silent hp, join_about_of_silent hp]
  · rw [about_join_of_silent hq, join_about_of_silent hq]

end Selection

/-- What the parameters for an axis of a kind are about. Dated axes without a kind are axes of time. -/
def AxisKind.concern : Option AxisKind → Concern
  | some .geoZ | some .height | some .pressure => .vertical
  | some .ensemble => .ensemble
  | some .runTime => .runTime
  | some .timeOffset => .timeOffset
  | some .geoX | some .geoY | some .lat | some .lon => .ground
  | _ => .time

/-- What the parameters for an axis are about. -/
def SystemAxis.concern {α : Type} (a : SystemAxis α) : Concern := AxisKind.concern a.axis.kind

namespace Axis

variable {α : Type} [Scalar α] (a : Axis α) (s : Selection α)

theorem selectedRange_about : a.selectedRange (s.about (AxisKind.concern a.kind)) =
    a.selectedRange s := by
  unfold selectedRange
  rcases a.kind with _ | kind
  · rfl
  · cases kind <;> rfl

theorem selectedRange_empty (h : ∀ kind, a.kind = some kind → kind.isHorizontal = false) :
    a.selectedRange {} = .ok none := by
  unfold selectedRange
  rcases hkind : a.kind with _ | kind
  · rfl
  · have hground := h kind hkind
    cases kind <;> first | rfl | cases hground

end Axis

namespace TimeAxis

variable {α : Type} [Scalar α] (a : TimeAxis α) (s : Selection α)

theorem selectedRange_about : a.selectedRange (s.about (AxisKind.concern a.axis.kind)) =
    a.selectedRange s := by
  have haxis := a.axis.selectedRange_about s
  unfold selectedRange
  rcases hkind : a.axis.kind with _ | kind
  · rfl
  · rw [hkind] at haxis
    cases kind <;> first | rfl | exact haxis

theorem selectedRange_empty (h : ∀ kind, a.axis.kind = some kind → kind.isHorizontal = false) :
    a.selectedRange {} = .ok none := by
  have haxis := a.axis.selectedRange_empty h
  unfold selectedRange
  rcases a.axis.kind with _ | kind
  · rfl
  · cases kind <;> first | rfl | exact haxis

end TimeAxis

namespace SystemAxis

variable {α : Type} [Scalar α] (a : SystemAxis α) (s : Selection α)

theorem selectedRange_about : a.selectedRange (s.about a.concern) = a.selectedRange s := by
  cases a with
  | plain a => exact a.selectedRange_about s
  | timed t => exact t.selectedRange_about s

theorem selectedRange_empty (h : ∀ kind, a.axis.kind = some kind → kind.isHorizontal = false) :
    a.selectedRange {} = .ok none := by
  cases a with
  | plain a => exact a.selectedRange_empty h
  | timed t => exact t.selectedRange_empty h

end SystemAxis

namespace CoordinateSystem

variable {α : Type} [Scalar α] {p q s : Selection α} {a b : SystemAxis α}

/-- An axis heeds no other parameters than those of its concern. -/
theorem ownRange_about (s : Selection α) (a : SystemAxis α) :
    ownRange (s.about a.concern) a = ownRange s a := by
  have hselected := a.selectedRange_about s
  have hconcern : a.concern = AxisKind.concern a.axis.kind := rfl
  have hrole : a.role? = a.axis.kind.bind AxisKind.role? := rfl
  unfold ownRange
  rw [hrole]
  split_ifs
  · -- The kind decides both the role, which comes first, and the concern.
    rcases hkind : a.axis.kind with _ | kind
    · exact hselected
    · rw [hkind] at hconcern
      cases kind <;> first | exact hselected | rw [hconcern]; rfl
  · rfl

/-- Without parameters nothing is picked. -/
theorem ownRange_empty (a : SystemAxis α) : ownRange {} a = .ok none := by
  have hrole : a.role? = a.axis.kind.bind AxisKind.role? := rfl
  have hselected := a.selectedRange_empty
  unfold ownRange
  rw [hrole]
  split_ifs
  · rcases hkind : a.axis.kind with _ | kind
    · exact hselected fun kind hsome => by rw [hkind] at hsome; cases hsome
    · rw [hkind] at hselected
      cases kind <;> first | rfl | exact hselected fun _ hsome => by cases hsome; rfl
  · rfl

theorem ownRange_of_silent (h : s.Silent a.concern) : ownRange s a = .ok none := by
  rw [← ownRange_about, h, ownRange_empty]

/-! ### What two selections pick at once -/

section Picked

variable {sys sys₁ : CoordinateSystem α}

/-- Of two selections apart, one leaves the axis alone. -/
theorem ownRange_join (h : p.Apart q) (a : SystemAxis α) :
    ownRange p a = .ok none ∧ ownRange (p.join q) a = ownRange q a ∨
      ownRange q a = .ok none ∧ ownRange (p.join q) a = ownRange p a := by
  rcases h a.concern with hp | hq
  · left
    refine ⟨ownRange_of_silent hp, ?_⟩
    rw [← ownRange_about, Selection.about_join_of_silent hp, ownRange_about]
  · right
    refine ⟨ownRange_of_silent hq, ?_⟩
    rw [← ownRange_about, Selection.join_about_of_silent hq, ownRange_about]

theorem exists_ownRange_join (h : p.Apart q) (a : SystemAxis α) :
    (∃ r, ownRange (p.join q) a = .ok r) ↔
      (∃ r, ownRange p a = .ok r) ∧ ∃ r, ownRange q a = .ok r := by
  rcases ownRange_join h a with ⟨hnone, hjoin⟩ | ⟨hnone, hjoin⟩
  · rw [hjoin, hnone]
    exact (and_iff_right ⟨none, rfl⟩).symm
  · rw [hjoin, hnone]
    exact (and_iff_left ⟨none, rfl⟩).symm

theorem picked_joins (h : p.Apart q) (a : SystemAxis α) :
    Slice.Joins (picked (p.join q) a) (picked p a) (picked q a) := by
  unfold picked
  rcases ownRange_join h a with ⟨hnone, hjoin⟩ | ⟨hnone, hjoin⟩
  · right
    rw [hjoin, hnone]
    exact ⟨rfl, rfl⟩
  · left
    rw [hjoin, hnone]
    exact ⟨rfl, rfl⟩

theorem bind_picked_joins (h : p.Apart q) (found : Option (SystemAxis α)) :
    Slice.Joins (found.bind (picked (p.join q))) (found.bind (picked p)) (found.bind (picked q)) := by
  cases found with
  | none => exact .inl ⟨rfl, rfl⟩
  | some a => exact picked_joins h a

/-- The cut of the transform at once, unless time offsets stand in for time. -/
theorem cutBy_joins (h : p.Apart q) (hp : LeavesOffsets p) (hq : LeavesOffsets q)
    (sys : CoordinateSystem α) : (sys.cutBy (p.join q)).Joins (sys.cutBy p) (sys.cutBy q) := by
  have hjoin : LeavesOffsets (p.join q) := by
    simp only [LeavesOffsets] at hp hq
    simp only [LeavesOffsets, Selection.join, hp, hq, Option.or_none, Bool.or_self, and_self]
  have hpicked : ∀ role, Slice.Joins (sys.pickedOn (p.join q) role) (sys.pickedOn p role)
      (sys.pickedOn q role) := fun role => bind_picked_joins h (sys.axisOf? role)
  refine ⟨?_, hpicked .vertical, hpicked .y, hpicked .x⟩
  simp only [cutBy, pickedOn_timeOffset hp, pickedOn_timeOffset hq, pickedOn_timeOffset hjoin,
    Option.or_none]
  exact hpicked .time

/-- The slice by which both selections at once cut an axis that depends on no more than one. -/
theorem restriction_joins (h : p.Apart q) (sys : CoordinateSystem α)
    (ha : a.axis.dependence = .dependent → ∃ name, a.axis.parents = [name]) :
    Slice.Joins (sys.restriction (p.join q) a) (sys.restriction p a) (sys.restriction q a) := by
  unfold restriction
  split_ifs with hdep
  · obtain ⟨name, hname⟩ := ha hdep
    simp only [hname, List.findSome?_singleton]
    exact bind_picked_joins h (sys.find? name)
  · exact picked_joins h a

/-! ### What is left to pick -/

/-- What one selection keeps of an axis, a selection apart from it restricts as the axis itself. -/
theorem ownRange_of_kept (h : p.Apart q) (hb : a.take? (sys.restriction p a) = .ok b) :
    ownRange q b = ownRange q a := by
  have hkept := SystemAxis.kept_of_take? hb
  have hconcern : b.concern = a.concern :=
    congrArg (fun l : Axis.Label α => AxisKind.concern l.kind) hkept.label
  by_cases hfree : isFree a = true
  · rcases h a.concern with hp | hq
    · -- The axis was kept whole.
      rw [restriction_of_free hfree, picked, ownRange_of_silent hp] at hb
      cases hb
      rfl
    · rw [ownRange_of_silent hq, ownRange_of_silent (hconcern ▸ hq)]
  · have hfree : isFree a = false := Bool.eq_false_iff.2 hfree
    rw [ownRange_of_not_free hfree, ownRange_of_not_free ((isFree_of_kept hkept).trans hfree)]

theorem bind_picked_of_kept (h : p.Apart q)
    (htakes : List.Forall₂ (fun a b => a.take? (sys.restriction p a) = .ok b) sys.axes sys₁.axes)
    {f : SystemAxis α → Bool} (hf : ∀ {a b r}, SystemAxis.Kept a b r → f a = f b) :
    (sys₁.axes.find? f).bind (picked q) = (sys.axes.find? f).bind (picked q) := by
  have hrel := find?_forall₂ (fun a b hb => hf (SystemAxis.kept_of_take? hb)) htakes
  generalize sys.axes.find? f = found at hrel
  generalize sys₁.axes.find? f = found₁ at hrel
  cases hrel with
  | none => rfl
  | some hb =>
    simp only [Option.bind_some, picked]
    rw [ownRange_of_kept h hb]

theorem cutBy_of_kept (h : p.Apart q)
    (htakes : List.Forall₂ (fun a b => a.take? (sys.restriction p a) = .ok b) sys.axes sys₁.axes) :
    sys₁.cutBy q = sys.cutBy q := by
  have hpicked : ∀ role, sys₁.pickedOn q role = sys.pickedOn q role := fun role =>
    bind_picked_of_kept h htakes fun hkept => by rw [hkept.role_eq]
  simp only [cutBy, hpicked]

theorem restriction_of_kept (h : p.Apart q)
    (htakes : List.Forall₂ (fun a b => a.take? (sys.restriction p a) = .ok b) sys.axes sys₁.axes)
    (hb : a.take? (sys.restriction p a) = .ok b) : sys₁.restriction q b = sys.restriction q a := by
  have hkept := SystemAxis.kept_of_take? hb
  have hfound : ∀ name, (sys₁.find? name).bind (picked q) = (sys.find? name).bind (picked q) :=
    fun name => bind_picked_of_kept h htakes fun hkept => by rw [hkept.name_eq]
  unfold restriction
  rw [hkept.dependence_eq, hkept.parents_eq]
  simp only [hfound, picked, ownRange_of_kept h hb]

end Picked

/-! ### The three ways -/

section Ways

open VerticalTransform

theorem take?_joins {r r₁ r₂ : Option Slice} (h : Slice.Joins r r₁ r₂) {c : SystemAxis α} :
    a.take? r = .ok c ↔ ∃ b, a.take? r₁ = .ok b ∧ b.take? r₂ = .ok c := by
  obtain ⟨rfl, rfl⟩ | ⟨rfl, rfl⟩ := h
  · simp only [SystemAxis.take?, Except.ok.injEq, exists_eq_right]
  · simp only [SystemAxis.take?, Except.ok.injEq, exists_eq_left']

variable {v v₁ v₂ v' : VerticalTransform α} {cut cut₁ cut₂ : Cut}

theorem exists_cutTransform_joins (hv : v.Made) (h : cut.Joins cut₁ cut₂) :
    (∃ v', cutTransform v cut = .ok v') ↔
      ∃ v₁, cutTransform v cut₁ = .ok v₁ ∧ ∃ v₂, cutTransform v₁ cut₂ = .ok v₂ := by
  unfold cutTransform
  rcases h.empty_or with ⟨h₁, h₂⟩ | ⟨h₁, h₂⟩ | ⟨h₁, h₂, hcut⟩
  · simp only [if_pos h₁, h₂, Except.ok.injEq, exists_eq_left']
  · simp only [if_pos h₁, h₂, Except.ok.injEq, exists_eq', and_true]
  · simp only [if_neg h₁, if_neg h₂, if_neg hcut]
    exact exists_subset_joins hv h

theorem alike_of_cutTransform_joins (hv : v.Made) (h : cut.Joins cut₁ cut₂)
    (h₁ : cutTransform v cut₁ = .ok v₁) (h₂ : cutTransform v₁ cut₂ = .ok v₂)
    (h' : cutTransform v cut = .ok v') : v₂.Alike v' := by
  unfold cutTransform at h₁ h₂ h'
  -- An empty cut leaves the transform itself, of which the other cut is the joined one.
  rcases h.empty_or with ⟨he, rfl⟩ | ⟨he, rfl⟩ | ⟨he₁, he₂, hcut⟩
  · rw [if_pos he] at h₁
    cases h₁
    cases h₂.symm.trans h'
    exact Alike.refl v₂
  · rw [if_pos he] at h₂
    cases h₂
    cases h₁.symm.trans h'
    exact Alike.refl v₁
  · rw [if_neg he₁] at h₁
    rw [if_neg he₂] at h₂
    rw [if_neg hcut] at h'
    exact alike_of_subset_joins hv h h₁ h₂ h'

section Optional

variable {o o₁ o₂ o' : Option (VerticalTransform α)}

theorem exists_transform_of_steps (ho : ∀ v, o = some v → v.Made) (h : cut.Joins cut₁ cut₂)
    (h₁ : o.mapM (cutTransform · cut₁) = .ok o₁) (h₂ : o₁.mapM (cutTransform · cut₂) = .ok o₂) :
    ∃ o', o.mapM (cutTransform · cut) = .ok o' ∧ Option.Rel VerticalTransform.Alike o₂ o' := by
  cases o with
  | none =>
    cases h₁
    cases h₂
    exact ⟨none, rfl, .none⟩
  | some v =>
    obtain ⟨v₁, hv₁, rfl⟩ := map_eq_ok.1 h₁
    obtain ⟨v₂, hv₂, rfl⟩ := map_eq_ok.1 h₂
    obtain ⟨v', hv'⟩ := (exists_cutTransform_joins (ho v rfl) h).2 ⟨v₁, hv₁, v₂, hv₂⟩
    exact ⟨some v', map_eq_ok.2 ⟨v', hv', rfl⟩,
      .some (alike_of_cutTransform_joins (ho v rfl) h hv₁ hv₂ hv')⟩

theorem exists_steps_of_transform (ho : ∀ v, o = some v → v.Made) (h : cut.Joins cut₁ cut₂)
    (h' : o.mapM (cutTransform · cut) = .ok o') :
    ∃ o₁ o₂, o.mapM (cutTransform · cut₁) = .ok o₁ ∧ o₁.mapM (cutTransform · cut₂) = .ok o₂ ∧
      Option.Rel VerticalTransform.Alike o₂ o' := by
  cases o with
  | none =>
    cases h'
    exact ⟨none, none, rfl, rfl, .none⟩
  | some v =>
    obtain ⟨v', hv', rfl⟩ := map_eq_ok.1 h'
    obtain ⟨v₁, hv₁, v₂, hv₂⟩ := (exists_cutTransform_joins (ho v rfl) h).1 ⟨v', hv'⟩
    exact ⟨some v₁, some v₂, map_eq_ok.2 ⟨v₁, hv₁, rfl⟩, map_eq_ok.2 ⟨v₂, hv₂, rfl⟩,
      .some (alike_of_cutTransform_joins (ho v rfl) h hv₁ hv₂ hv')⟩

end Optional

/-- Systems that cannot be told apart by their axes or by what their transforms answer. -/
structure Alike (a b : CoordinateSystem α) : Prop where
  name : a.name = b.name
  axes : a.axes = b.axes
  horizontal : a.horizontal = b.horizontal
  transform : Option.Rel VerticalTransform.Alike a.transform b.transform

/-- Runs that both fail, or both lead to systems that are alike. -/
structure Agree (x y : Except Error (CoordinateSystem α)) : Prop where
  left : ∀ a, x = .ok a → ∃ b, y = .ok b ∧ a.Alike b
  right : ∀ b, y = .ok b → ∃ a, x = .ok a ∧ a.Alike b

section Alike

variable {a b c : CoordinateSystem α} {x y z : Except Error (CoordinateSystem α)}

theorem Alike.symm (h : a.Alike b) : b.Alike a := by
  refine ⟨h.name.symm, h.axes.symm, h.horizontal.symm, ?_⟩
  have htransform := h.transform
  generalize a.transform = t at htransform
  generalize b.transform = u at htransform
  cases htransform with
  | none => exact .none
  | some hv => exact .some hv.symm

theorem Alike.trans (h : a.Alike b) (h' : b.Alike c) : a.Alike c := by
  refine ⟨h.name.trans h'.name, h.axes.trans h'.axes, h.horizontal.trans h'.horizontal, ?_⟩
  have hab := h.transform
  have hbc := h'.transform
  generalize a.transform = t at hab
  generalize b.transform = u at hab hbc
  generalize c.transform = w at hbc
  cases hab with
  | none => exact hbc
  | some hv =>
    cases hbc with
    | some hw => exact .some (hv.trans hw)

theorem Agree.symm (h : Agree x y) : Agree y x where
  left b hb := by
    obtain ⟨a, ha, hab⟩ := h.right b hb
    exact ⟨a, ha, hab.symm⟩
  right a ha := by
    obtain ⟨b, hb, hab⟩ := h.left a ha
    exact ⟨b, hb, hab.symm⟩

theorem Agree.trans (h : Agree x y) (h' : Agree y z) : Agree x z where
  left a ha := by
    obtain ⟨b, hb, hab⟩ := h.left a ha
    obtain ⟨c, hc, hbc⟩ := h'.left b hb
    exact ⟨c, hc, hab.trans hbc⟩
  right c hc := by
    obtain ⟨b, hb, hbc⟩ := h'.right c hc
    obtain ⟨a, ha, hab⟩ := h.right b hb
    exact ⟨a, ha, hab.trans hbc⟩

end Alike

variable {sys sys₁ sys₂ sys' : CoordinateSystem α}

/-- What two selections make of a system one after the other, both make of it at once. -/
theorem Selected.join (h : p.Apart q) (hp : LeavesOffsets p) (hq : LeavesOffsets q)
    (hmade : ∀ v, sys.transform = some v → v.Made)
    (hparents : ∀ a ∈ sys.axes, a.axis.dependence = .dependent → ∃ name, a.axis.parents = [name])
    (h₁ : Selected sys sys₁ p) (h₂ : Selected sys₁ sys₂ q) :
    ∃ sys', Selected sys sys' (p.join q) ∧ sys₂.Alike sys' := by
  -- All that the second selection picks is known from the first system.
  have hcut₂ := h₂.transform
  rw [cutBy_of_kept h h₁.takes] at hcut₂
  obtain ⟨transform, htransform, halike⟩ :=
    exists_transform_of_steps hmade (cutBy_joins h hp hq sys) h₁.transform hcut₂
  refine ⟨⟨sys₂.name, sys₂.axes, sys₂.horizontal, transform⟩,
    ⟨fun a ha => ?_, ?_, htransform, h₂.grid, h₂.name.trans h₁.name⟩, rfl, rfl, rfl, halike⟩
  · obtain ⟨b, hb, htake⟩ := mem_forall₂ h₁.takes ha
    have hpick := h₂.picks b hb
    rw [ownRange_of_kept h htake] at hpick
    exact (exists_ownRange_join h a).2 ⟨h₁.picks a ha, hpick⟩
  · refine forall₂_trans (fun a ha b _ c hb hc => ?_) h₁.takes h₂.takes
    rw [restriction_of_kept h h₁.takes hb] at hc
    exact (take?_joins (restriction_joins h sys (hparents a ha))).2 ⟨b, hb, hc⟩

/-- What two selections make of a system at once, they make of it one after the other. -/
theorem Selected.split (h : p.Apart q) (hp : LeavesOffsets p) (hq : LeavesOffsets q)
    (hsys : Consistent sys.axes) (hmade : ∀ v, sys.transform = some v → v.Made)
    (hparents : ∀ a ∈ sys.axes, a.axis.dependence = .dependent → ∃ name, a.axis.parents = [name])
    (h' : Selected sys sys' (p.join q)) :
    ∃ sys₁ sys₂, Selected sys sys₁ p ∧ Selected sys₁ sys₂ q ∧ sys₂.Alike sys' := by
  obtain ⟨transform₁, transform₂, ht₁, ht₂, halike⟩ :=
    exists_steps_of_transform hmade (cutBy_joins h hp hq sys) h'.transform
  have hjoins := fun a ha => restriction_joins h sys (hparents a ha)
  -- The axes after the first selection are those that the joined slices pass through.
  obtain ⟨axes₁, haxes₁⟩ : ∃ axes₁, sys.axes.mapM (fun a => a.take? (sys.restriction p a)) =
      .ok axes₁ := by
    refine exists_mapM_iff.2 fun a ha => ?_
    obtain ⟨c, -, hc⟩ := mem_forall₂ h'.takes ha
    obtain ⟨b, hb, -⟩ := (take?_joins (hjoins a ha)).1 hc
    exact ⟨b, hb⟩
  have htakes := mapM_eq_ok.1 haxes₁
  have hconsistent : Consistent axes₁ :=
    hsys.of_kept (htakes.imp fun _ _ hb => ⟨_, SystemAxis.kept_of_take? hb⟩)
  obtain ⟨x, hx⟩ := hconsistent.x
  obtain ⟨y, hy⟩ := hconsistent.y
  let sys₁ : CoordinateSystem α := ⟨sys.name, axes₁, ⟨x.axis, y.axis⟩, transform₁⟩
  have h₁ : Selected sys sys₁ p := ⟨fun a ha => ((exists_ownRange_join h a).1 (h'.picks a ha)).1,
    htakes, ht₁, ⟨x, y, hx, hy, rfl⟩, rfl⟩
  refine ⟨sys₁, ⟨sys'.name, sys'.axes, sys'.horizontal, transform₂⟩, h₁,
    ⟨fun b hb => ?_, ?_, ?_, h'.grid, h'.name⟩, rfl, rfl, rfl, halike⟩
  · obtain ⟨a, ha, htake⟩ := mem_forall₂ h₁.takes.flip hb
    rw [ownRange_of_kept h htake]
    exact ((exists_ownRange_join h a).1 (h'.picks a ha)).2
  · refine forall₂_trans (fun b _ a ha c hb hc => ?_) h₁.takes.flip h'.takes
    obtain ⟨b', hb', hc'⟩ := (take?_joins (hjoins a ha)).1 hc
    cases hb.symm.trans hb'
    rw [restriction_of_kept h h₁.takes hb]
    exact hc'
  · rw [cutBy_of_kept h h₁.takes]
    exact ht₂

/-- Selections apart, one after the other or at once. -/
theorem agree_join (hsys : Consistent sys.axes) (hmade : ∀ v, sys.transform = some v → v.Made)
    (hparents : ∀ a ∈ sys.axes, a.axis.dependence = .dependent → ∃ name, a.axis.parents = [name])
    (h : p.Apart q) (hp : LeavesOffsets p) (hq : LeavesOffsets q) :
    Agree (sys.select p >>= (·.select q)) (sys.select (p.join q)) where
  left sys₂ hrun := by
    obtain ⟨sys₁, h₁, h₂⟩ := bind_eq_ok.1 hrun
    rw [select_eq_ok hsys] at h₁
    rw [select_eq_ok (h₁.consistent hsys)] at h₂
    obtain ⟨sys', h', halike⟩ := h₁.join h hp hq hmade hparents h₂
    exact ⟨sys', (select_eq_ok hsys).2 h', halike⟩
  right sys' hselect := by
    rw [select_eq_ok hsys] at hselect
    obtain ⟨sys₁, sys₂, h₁, h₂, halike⟩ := hselect.split h hp hq hsys hmade hparents
    exact ⟨sys₂, bind_eq_ok.2 ⟨sys₁, (select_eq_ok hsys).2 h₁,
      (select_eq_ok (h₁.consistent hsys)).2 h₂⟩, halike⟩

/-- **Selections of different concerns commute and merge.** If no axis depends on several others, two
selections that set parameters about different things, none of them about time offsets, can be made in
either order or at once. All three ways fail, or all of them lead to systems with the same name, the
same axes and transforms that give the same answers. -/
theorem select_join (hsys : sys.Built) (hmade : ∀ v, sys.transform = some v → v.Made)
    (hparents : ∀ a ∈ sys.axes, a.axis.dependence = .dependent → ∃ name, a.axis.parents = [name])
    (h : p.Apart q) (hp : LeavesOffsets p) (hq : LeavesOffsets q) :
    Agree (sys.select p >>= (·.select q)) (sys.select (p.join q)) ∧
      Agree (sys.select q >>= (·.select p)) (sys.select (p.join q)) ∧
      Agree (sys.select p >>= (·.select q)) (sys.select q >>= (·.select p)) := by
  have hpq := agree_join hsys.consistent hmade hparents h hp hq
  have hqp := agree_join hsys.consistent hmade hparents h.symm hq hp
  rw [Selection.join_comm h.symm] at hqp
  exact ⟨hpq, hqp, hpq.trans hqp.symm⟩

end Ways

/-- The latest time of levels that depend on it, and the only point. -/
theorem select_join_column :
    ∃ sys a b, column .dependent = .ok sys ∧
      (sys.select { latestTime := true } >>=
        (·.select { horizontal := some ⟨.single 0, .single 0⟩ })) = .ok a ∧
      sys.select { latestTime := true, horizontal := some ⟨.single 0, .single 0⟩ } = .ok b ∧
      a.Alike b := by
  have hagree : ∀ sys, column .dependent = .ok sys → Agree
      (sys.select { latestTime := true } >>=
        (·.select { horizontal := some ⟨.single 0, .single 0⟩ }))
      (sys.select { latestTime := true, horizontal := some ⟨.single 0, .single 0⟩ }) := by
    intro sys hsys
    have hbuilt := built_of_column hsys
    obtain rfl : _ = sys := Except.ok.inj hsys
    refine (select_join hbuilt (fun v hv => ?_) (fun a ha hdep => ?_) (fun c => ?_)
      ⟨rfl, rfl, rfl⟩ ⟨rfl, rfl, rfl⟩).1
    · cases hv
      exact .source twoByTwo
    · simp only [List.mem_cons, List.not_mem_nil, or_false] at ha
      rcases ha with rfl | rfl | rfl | rfl <;> cases hdep
      exact ⟨"time", rfl⟩
    · cases c <;> first | exact .inl rfl | exact .inr rfl
  obtain ⟨b, hb, halike⟩ := (hagree _ rfl).left _ rfl
  exact ⟨_, _, b, rfl, rfl, hb, halike⟩

end CoordinateSystem

end Gridded
