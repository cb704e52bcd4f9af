import Gridded.Axis.Draft
import Gridded.Proofs.Slice.Composition

/-!
# Built axes

What a draft makes, and what holds of every axis that some draft makes.

* `Axis.Label`: what is known about an axis apart from its coordinates;
* `Axis.Draft.Makes`: the relation of a draft to the axis it makes; `Axis.Draft.build_eq_ok` says that
  `build` finds this axis and no other;
* `Axis.Built`, `Axis.WellFormed`: the axes that drafts make, and the invariant of their fields
  (`Axis.Built.wellFormed`).
-/

namespace Gridded

/-- What is known about an axis apart from its coordinates. -/
structure Axis.Label (α : Type) where
  name : String
  description : Option String
  units : Option String
  kind : Option AxisKind
  attributes : Attributes α
  dependence : Dependence
  parents : List String

namespace Axis

variable {α : Type}

/-- What is known about an axis apart from its coordinates. -/
def label (a : Axis α) : Label α :=
  ⟨a.name, a.description, a.units, a.kind, a.attributes, a.dependence, a.parents⟩

/-- What a draft says about an axis apart from its coordinates. -/
def Draft.label (d : Draft α) : Label α :=
  ⟨d.name, d.description, d.units, d.kind, d.attributes, d.dependence, d.parents⟩

/-- A slice under the name of a kind of axis, if there is a kind. -/
def rangeNamed (kind : Option AxisKind) (s : Slice) : Slice :=
  match kind with
  | some kind => s.withName kind.name
  | none => s

@[simp] theorem index_rangeNamed (kind : Option AxisKind) (s : Slice) (i : Nat) :
    (rangeNamed kind s).index i = s.index i := by cases kind <;> rfl

@[simp] theorem stride_rangeNamed (kind : Option AxisKind) (s : Slice) :
    (rangeNamed kind s).stride = s.stride := by cases kind <;> rfl

@[simp] theorem len_rangeNamed (kind : Option AxisKind) (s : Slice) :
    (rangeNamed kind s).len = s.len := by cases kind <;> rfl

variable [Scalar α]

namespace Draft

/-- The axis that a draft makes. -/
structure Makes (d : Draft α) (a : Axis α) : Prop where
  label : a.label = d.label
  spacing : d.spacing = some a.spacing
  size : a.size = d.count a.spacing
  resolution : a.resolution = d.resolution
  isSubset : a.isSubset = d.isSubset
  checkDependence : d.checkDependence = .ok ()
  checkCount : d.checkCount a.size = .ok ()
  stored : d.stored a.spacing a.size = .ok (a.start, a.stop, a.values)
  range : d.rangeFor a.size = .ok a.range

/-- Building finds the axis that the draft makes, and succeeds if there is one. -/
theorem build_eq_ok {d : Draft α} {a : Axis α} : d.build = .ok a ↔ d.Makes a := by
  constructor
  · intro h
    unfold build at h
    cases hs : d.spacing with
    | none => simp [hs] at h
    | some spacing =>
      simp only [hs, bind_eq_ok, pure_eq_ok] at h
      obtain ⟨⟨⟩, hdep, ⟨⟩, hcount, ⟨start, stop, values⟩, hstored, range, hrange, rfl⟩ := h
      exact ⟨rfl, hs, rfl, rfl, rfl, hdep, hcount, hstored, hrange⟩
  · rintro ⟨hlabel, hs, hsize, hres, hsub, hdep, hcount, hstored, hrange⟩
    obtain ⟨name, description, units, kind, attributes, spacing, dependence, parents, resolution,
      isSubset, size, start, stop, values, range⟩ := a
    simp only [label, Axis.label, Label.mk.injEq] at hlabel
    obtain ⟨rfl, rfl, rfl, rfl, rfl, rfl, rfl⟩ := hlabel
    dsimp only at hs hsize hres hsub hcount hstored hrange
    subst hsize hres hsub
    simp only [build, hs, hdep, hcount, hstored, hrange, ok_bind]
    rfl

/-- A draft that passes every check makes an axis. -/
theorem exists_build {d : Draft α} {spacing : Spacing} (hs : d.spacing = some spacing)
    (hdep : d.checkDependence = .ok ()) (hcount : d.checkCount (d.count spacing) = .ok ())
    (hstored : ∃ t, d.stored spacing (d.count spacing) = .ok t)
    (hrange : ∃ r, d.rangeFor (d.count spacing) = .ok r) : ∃ a, d.build = .ok a := by
  obtain ⟨⟨start, stop, values⟩, hstored⟩ := hstored
  obtain ⟨r, hrange⟩ := hrange
  simp only [build, hs, hdep, hcount, hstored, hrange, ok_bind]
  exact ⟨_, rfl⟩

/-! ### The single checks -/

omit [Scalar α] in
theorem checkDependence_eq_ok {d : Draft α} :
    d.checkDependence = .ok () ↔
      (d.dependence = .independent → d.kind ≠ none) ∧
        (d.dependence = .dependent → d.parents ≠ []) := by
  unfold checkDependence
  split_ifs with h₁ h₂
  · simp [h₁]
  · simp [h₂]
  · simp only [true_iff]
    exact ⟨fun h hk => h₁ ⟨h, hk⟩, fun h hp => h₂ ⟨h, hp⟩⟩

omit [Scalar α] in
theorem checkCount_eq_ok {d : Draft α} {n : Nat} :
    d.checkCount n = .ok () ↔ 0 < n ∧ (d.dependence = .scalar → n = 1) := by
  unfold checkCount
  split_ifs with h₁ h₂
  · simp [h₁]
  · simp [h₂]
  · simp only [true_iff]
    exact ⟨Nat.pos_of_ne_zero h₁, fun h => by_contra fun hn => h₂ ⟨h, hn⟩⟩

/-- A regular draft gives a finite start and resolution, and no values. -/
theorem stored_regular {d : Draft α} {spacing : Spacing} (h : spacing.isRegular = true) {n : Nat}
    {t : α × α × List α} :
    d.stored spacing n = .ok t ↔
      d.values = none ∧ Scalar.isFinite d.resolution = true ∧ Scalar.isFinite d.start = true ∧
        t = (d.start, d.stop, []) := by
  unfold stored
  rw [if_pos h]
  cases hv : d.values <;> cases hr : Scalar.isFinite d.resolution <;>
    cases hs : Scalar.isFinite d.start <;> simp [eq_comm]

/-- Any other draft gives as many values as its spacing needs. -/
theorem stored_irregular {d : Draft α} {spacing : Spacing} (h : spacing.isRegular = false)
    {n : Nat} {t : α × α × List α} :
    d.stored spacing n = .ok t ↔
      ∃ values, d.values = some values ∧ values.length = spacing.valuesLen n ∧
        t = (values.getD 0 Scalar.nan, values.getD (spacing.valuesLen n - 1) Scalar.nan, values) := by
  unfold stored
  rw [if_neg (by simp [h])]
  cases hv : d.values with
  | none => simp
  | some values =>
    by_cases hl : values.length = spacing.valuesLen n
    · simp [hl, eq_comm]
    · simp [hl]

omit [Scalar α] in
/-- The range of an axis has an index for each coordinate and the name of the kind of axis. -/
theorem rangeFor_eq_ok {d : Draft α} {n : Nat} {r : Slice} :
    d.rangeFor n = .ok r ↔
      (d.range.getD (Slice.whole none n)).len = n ∧
        r = rangeNamed d.kind (d.range.getD (Slice.whole none n)) := by
  unfold rangeFor
  cases hr : d.range with
  | none => cases d.kind <;> simp [rangeNamed, Slice.whole, eq_comm]
  | some s =>
    by_cases hl : s.len = n
    · cases d.kind <;> simp [rangeNamed, hl, eq_comm]
    · simp [hl]

theorem Makes.isIdentity_range {d : Draft α} {a : Axis α} (h : d.Makes a) (hr : d.range = none) :
    a.range.IsIdentity := by
  obtain ⟨-, hrange⟩ := rangeFor_eq_ok.1 h.range
  rw [hrange, hr]
  cases d.kind <;> exact ⟨rfl, rfl⟩

theorem Makes.start_eq {d : Draft α} {a : Axis α} (h : d.Makes a)
    (hreg : a.spacing.isRegular = true) : a.start = d.start := by
  obtain ⟨-, -, -, ht⟩ := (stored_regular hreg).1 h.stored
  exact congrArg Prod.fst ht

theorem Makes.values_eq {d : Draft α} {a : Axis α} (h : d.Makes a)
    (hreg : a.spacing.isRegular = false) : d.values = some a.values := by
  obtain ⟨values, hv, -, ht⟩ := (stored_irregular hreg).1 h.stored
  have hvalues : a.values = values := congrArg (fun t => t.2.2) ht
  rw [hv, hvalues]

end Draft

/-! ### The invariant of built axes -/

/-- Some draft makes the axis. -/
def Built (a : Axis α) : Prop := ∃ d : Draft α, d.build = .ok a

/-- The fields of an axis fit together. -/
structure WellFormed (a : Axis α) : Prop where
  size_pos : 0 < a.size
  size_scalar : a.dependence = .scalar → a.size = 1
  kind_ne_none : a.dependence = .independent → a.kind ≠ none
  parents_ne_nil : a.dependence = .dependent → a.parents ≠ []
  length_values : a.values.length = a.spacing.valuesLen a.size
  len_range : a.range.len = a.size

theorem Built.wellFormed {a : Axis α} (h : a.Built) : a.WellFormed := by
  obtain ⟨d, hd⟩ := h
  have hm := Draft.build_eq_ok.1 hd
  have hdep : a.dependence = d.dependence := congrArg Label.dependence hm.label
  have hkind : a.kind = d.kind := congrArg Label.kind hm.label
  have hparents : a.parents = d.parents := congrArg Label.parents hm.label
  obtain ⟨hind, hpar⟩ := Draft.checkDependence_eq_ok.1 hm.checkDependence
  obtain ⟨hpos, hscalar⟩ := Draft.checkCount_eq_ok.1 hm.checkCount
  refine ⟨hpos, hdep ▸ hscalar, ?_, ?_, ?_, ?_⟩
  · rw [hdep, hkind]; exact hind
  · rw [hdep, hparents]; exact hpar
  · cases hreg : a.spacing.isRegular with
    | true =>
      obtain ⟨-, -, -, ht⟩ := (Draft.stored_regular hreg).1 hm.stored
      simp only [Prod.mk.injEq] at ht
      rw [ht.2.2]
      cases hsp : a.spacing <;> simp_all [Spacing.isRegular, Spacing.valuesLen]
    | false =>
      obtain ⟨values, -, hl, ht⟩ := (Draft.stored_irregular hreg).1 hm.stored
      simp only [Prod.mk.injEq] at ht
      rw [ht.2.2, hl]
  · obtain ⟨hlen, hr⟩ := Draft.rangeFor_eq_ok.1 hm.range
    rw [hr, len_rangeNamed, hlen]

end Axis

end Gridded
