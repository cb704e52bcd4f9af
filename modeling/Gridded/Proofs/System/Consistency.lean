import Mathlib.Data.List.Pairwise
import Gridded.Proofs.Checking
import Gridded.System.Basic

/-!
# Axes that fit together

What the checks of a coordinate system say about its list of axes.

* `CoordinateSystem.Distinct`, `CoordinateSystem.Consistent`: axes that differ in name and role, and
  lists of axes that make a system;
* `CoordinateSystem.build_eq_ok`: a system is made exactly from a consistent list;
* `CoordinateSystem.Built`: the systems that are made so;
* `CoordinateSystem.filling_eq_some`, `CoordinateSystem.find?_eq_some`: roles and names determine axes.
-/

namespace Gridded.CoordinateSystem

variable {α : Type}

/-- Axes that differ in name and do not share a role. -/
def Distinct (a b : SystemAxis α) : Prop :=
  a.name ≠ b.name ∧ ∀ role, a.role? = some role → b.role? ≠ some role

/-- An axis of times or of runs has dates. -/
def IsDated (a : SystemAxis α) : Prop :=
  a.role? = some .time ∨ a.role? = some .runTime → a.timed?.isSome

/-- The axes make a system. -/
structure Consistent (axes : List (SystemAxis α)) : Prop where
  distinct : axes.Pairwise Distinct
  dated : ∀ a ∈ axes, IsDated a
  parents : ∀ a ∈ axes, ∀ parent ∈ a.axis.parents, ∃ b ∈ axes, b.name = parent
  x : ∃ a, filling axes .x = some a
  y : ∃ a, filling axes .y = some a

/-! ### The single checks -/

theorem role_of_filling {axes : List (SystemAxis α)} {role : Role} {a : SystemAxis α}
    (h : filling axes role = some a) : a ∈ axes ∧ a.role? = some role := by
  obtain ⟨hrole, -⟩ := List.find?_eq_some_iff_append.1 h
  exact ⟨List.mem_of_find?_eq_some h, of_decide_eq_true hrole⟩

theorem filling_eq_none {axes : List (SystemAxis α)} {role : Role} :
    filling axes role = none ↔ ∀ a ∈ axes, a.role? ≠ some role := by
  simp [filling, List.find?_eq_none]

theorem checkNext_eq_ok {before : List (SystemAxis α)} {a : SystemAxis α} :
    checkNext before a = .ok () ↔ (∀ b ∈ before, Distinct b a) ∧ IsDated a := by
  unfold checkNext
  by_cases hname : before.any (·.name == a.name) = true
  · rw [if_pos hname]
    simp only [List.any_eq_true, beq_iff_eq] at hname
    obtain ⟨b, hb, hba⟩ := hname
    exact iff_of_false (fun h => by cases h) fun h => (h.1 b hb).1 hba
  · rw [if_neg hname]
    simp only [List.any_eq_true, beq_iff_eq, not_exists, not_and] at hname
    rcases hrole : a.role? with _ | role
    · -- An axis without a role shares none and needs no dates.
      refine iff_of_true rfl ⟨fun b hb => ⟨hname b hb, fun _ _ => ?_⟩, ?_⟩
      · rw [hrole]
        exact fun h => by cases h
      · rintro (h | h) <;> simp [hrole] at h
    · dsimp only
      rcases hother : filling before role with _ | other
      · have hnone := filling_eq_none.1 hother
        have hdistinct : ∀ b ∈ before, Distinct b a := fun b hb =>
          ⟨hname b hb, fun r hr h => hnone b hb (by rw [hr, ← h, hrole])⟩
        have hdated : IsDated a ↔ (role = .time ∨ role = .runTime → a.timed?.isSome) := by
          simp [IsDated, hrole]
        simp only [hdated]
        split_ifs with hdate
        · refine iff_of_false (fun h => by cases h) fun h => ?_
          have hsome := h.2 hdate.1
          have hnone := hdate.2
          cases ha : a.timed? <;> simp [ha] at hsome hnone
        · refine iff_of_true rfl ⟨hdistinct, fun h => ?_⟩
          cases ha : a.timed? with
          | some t => rfl
          | none => exact absurd ⟨h, by rw [ha]; rfl⟩ hdate
      · obtain ⟨hmem, hr⟩ := role_of_filling hother
        exact iff_of_false (fun h => by cases h) fun h => (h.1 other hmem).2 role hr hrole

theorem checkEach_eq_ok {before axes : List (SystemAxis α)} :
    checkEach before axes = .ok () ↔ axes.Pairwise Distinct ∧
      (∀ b ∈ before, ∀ a ∈ axes, Distinct b a) ∧ ∀ a ∈ axes, IsDated a := by
  induction axes generalizing before with
  | nil => simp [checkEach]
  | cons a axes ih =>
    -- The rest is checked against the axes before it and against `a`.
    simp only [checkEach, bind_eq_ok, ih, List.pairwise_cons, List.forall_mem_append,
      List.forall_mem_cons]
    constructor
    · rintro ⟨⟨⟩, hnext, hpair, ⟨hbefore, ha, -⟩, hdated⟩
      obtain ⟨hfirst, hdate⟩ := checkNext_eq_ok.1 hnext
      exact ⟨⟨ha, hpair⟩, fun b hb => ⟨hfirst b hb, hbefore b hb⟩, hdate, hdated⟩
    · rintro ⟨⟨ha, hpair⟩, hbefore, hdate, hdated⟩
      refine ⟨(), checkNext_eq_ok.2 ⟨fun b hb => (hbefore b hb).1, hdate⟩, hpair,
        ⟨fun b hb => (hbefore b hb).2, ha, ?_⟩, hdated⟩
      exact fun b hb => by cases hb

theorem checkParents_eq_ok {axes : List (SystemAxis α)} : checkParents axes = .ok () ↔
    ∀ a ∈ axes, ∀ parent ∈ a.axis.parents, ∃ b ∈ axes, b.name = parent := by
  rw [checkParents, forM_eq_ok]
  refine forall₂_congr fun a _ => ?_
  rcases h : a.axis.parents.find? fun parent => !axes.any (·.name == parent) with _ | parent
  · simp only [List.find?_eq_none, Bool.not_eq_true', Bool.not_eq_false, List.any_eq_true,
      beq_iff_eq] at h
    exact iff_of_true rfl h
  · refine iff_of_false (fun h => by cases h) fun hall => ?_
    have hmem := List.mem_of_find?_eq_some h
    have hmissing := List.find?_some h
    obtain ⟨b, hb, hname⟩ := hall parent hmem
    simp only [Bool.not_eq_true', List.any_eq_false, beq_iff_eq] at hmissing
    exact hmissing b hb hname

theorem required_eq_ok {axes : List (SystemAxis α)} {role : Role} {x : Axis α} :
    required axes role = .ok x ↔ ∃ a, filling axes role = some a ∧ a.axis = x := by
  unfold required
  cases filling axes role <;> simp

/-! ### Making a system -/

/-- A system is made exactly from axes that fit together, with the horizontal grid of its X axis and
its Y axis. -/
theorem build_eq_ok {name : Option String} {axes : List (SystemAxis α)}
    {transform : Option (VerticalTransform α)} {sys : CoordinateSystem α} :
    build name axes transform = .ok sys ↔ Consistent axes ∧ ∃ x y,
      filling axes .x = some x ∧ filling axes .y = some y ∧
        sys = ⟨name.getD (defaultName axes), axes, ⟨x.axis, y.axis⟩, transform⟩ := by
  simp only [build, bind_eq_ok, required_eq_ok, pure_eq_ok]
  constructor
  · rintro ⟨⟨⟩, heach, ⟨⟩, hparents, _, ⟨x, hx, rfl⟩, _, ⟨y, hy, rfl⟩, g, hg, rfl⟩
    obtain ⟨hdistinct, -, hdated⟩ := checkEach_eq_ok.1 heach
    refine ⟨⟨hdistinct, hdated, checkParents_eq_ok.1 hparents, ⟨x, hx⟩, ⟨y, hy⟩⟩, x, y, hx, hy, ?_⟩
    obtain ⟨⟨⟩, -, hg⟩ := bind_eq_ok.1 hg
    obtain ⟨⟨⟩, -, hg⟩ := bind_eq_ok.1 hg
    cases hg
    rfl
  · rintro ⟨h, x, y, hx, hy, rfl⟩
    have hxrole : HorizontalGrid.checkRole x.axis .x = .ok () := if_pos (role_of_filling hx).2
    have hyrole : HorizontalGrid.checkRole y.axis .y = .ok () := if_pos (role_of_filling hy).2
    refine ⟨(), checkEach_eq_ok.2 ⟨h.distinct, ?_, h.dated⟩, (), checkParents_eq_ok.2 h.parents,
      x.axis, ⟨x, hx, rfl⟩, y.axis, ⟨y, hy, rfl⟩, ⟨x.axis, y.axis⟩, ?_, rfl⟩
    · exact fun b hb => by cases hb
    · rw [HorizontalGrid.of, hxrole, ok_bind, hyrole, ok_bind]
      rfl

theorem Consistent.exists_build {axes : List (SystemAxis α)} (h : Consistent axes)
    (name : Option String) (transform : Option (VerticalTransform α)) :
    ∃ sys, build name axes transform = .ok sys := by
  obtain ⟨x, hx⟩ := h.x
  obtain ⟨y, hy⟩ := h.y
  exact ⟨_, build_eq_ok.2 ⟨h, x, y, hx, hy, rfl⟩⟩

/-- The system is made from axes and perhaps a transform. -/
def Built (sys : CoordinateSystem α) : Prop :=
  ∃ name axes transform, build name axes transform = .ok sys

theorem Built.consistent {sys : CoordinateSystem α} (h : sys.Built) : Consistent sys.axes := by
  obtain ⟨name, axes, transform, h⟩ := h
  obtain ⟨hconsistent, x, y, -, -, rfl⟩ := build_eq_ok.1 h
  exact hconsistent

instance : Std.Symm (Distinct (α := α)) where
  symm _ _ h := ⟨h.1.symm, fun role hb ha => h.2 role ha hb⟩

/-- Different axes of a system differ in name and role. -/
theorem distinct_of_ne {axes : List (SystemAxis α)} (h : axes.Pairwise Distinct)
    {a b : SystemAxis α} (ha : a ∈ axes) (hb : b ∈ axes) (hab : a ≠ b) : Distinct a b :=
  h.forall ha hb hab

theorem filling_eq_some {axes : List (SystemAxis α)} (h : axes.Pairwise Distinct) {role : Role}
    {a : SystemAxis α} : filling axes role = some a ↔ a ∈ axes ∧ a.role? = some role := by
  refine ⟨role_of_filling, ?_⟩
  rintro ⟨ha, hrole⟩
  rcases hb : filling axes role with _ | b
  · exact absurd hrole (filling_eq_none.1 hb a ha)
  · obtain ⟨hmem, hbrole⟩ := role_of_filling hb
    by_contra hne
    have hab : a ≠ b := fun hab => hne (hab ▸ rfl)
    exact (distinct_of_ne h ha hmem hab).2 role hrole hbrole

theorem name_of_find? {sys : CoordinateSystem α} {name : String} {a : SystemAxis α}
    (h : sys.find? name = some a) : a ∈ sys.axes ∧ a.name = name := by
  obtain ⟨hname, -⟩ := List.find?_eq_some_iff_append.1 h
  exact ⟨List.mem_of_find?_eq_some h, eq_of_beq hname⟩

theorem find?_eq_some {sys : CoordinateSystem α} (h : sys.axes.Pairwise Distinct) {name : String}
    {a : SystemAxis α} : sys.find? name = some a ↔ a ∈ sys.axes ∧ a.name = name := by
  refine ⟨name_of_find?, ?_⟩
  rintro ⟨ha, rfl⟩
  rcases hb : sys.find? a.name with _ | b
  · exact absurd (beq_self_eq_true a.name) (List.find?_eq_none.1 hb a ha)
  · obtain ⟨hmem, hname⟩ := name_of_find? hb
    by_contra hne
    have hab : a ≠ b := fun hab => hne (hab ▸ rfl)
    exact (distinct_of_ne h ha hmem hab).1 hname.symm

end Gridded.CoordinateSystem
