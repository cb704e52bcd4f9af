import Gridded.Proofs.System.Alignment

/-!
# Axes that depend on another

An axis that depends on an independent axis of the same size is cut by the slice that is picked on this
parent, not by the indices that the parent remembers. So it stays in step with its parent along any run
of selections.

* `CoordinateSystem.InStep`: the invariant of a run, with `CoordinateSystem.InStep.select` for one step
  and `CoordinateSystem.InStep.foldlM` for a whole run;
* `CoordinateSystem.InStep.exists_take?`: the dependent axis accepts what its parent accepts;
* `CoordinateSystem.InStep.blames_other`: when a step fails, the reason is not the dependent axis;
* `CoordinateSystem.dependent_in_step`: all together.
-/

namespace Gridded

namespace SystemAxis

variable {α : Type} [Scalar α] {a b : SystemAxis α} {r : Option Slice}

/-- What is kept of an axis has the coordinates at the indices of the slice. -/
theorem samples_of_take? (hprecise : a.axis.Precise) (h : a.take? r = .ok b) :
    b.axis.Samples a.axis (Slice.orWhole a.size r) := by
  cases r with
  | none =>
    cases h
    exact Axis.samples_self rfl ⟨rfl, rfl⟩
  | some s => exact Axis.samples_of_take hprecise (take_eq_ok h).1

/-- An axis that is not scalar can be cut by every slice of the indices that it has. -/
theorem exists_take (hprecise : a.axis.Precise) (ha : a.axis.WellFormed) (hdep : a.axis.dependence ≠ .scalar) {s : Slice}
    (hpos : 0 < s.len) (hbelow : s.Below a.size) : ∃ b, a.take s = .ok b := by
  obtain ⟨b, hb⟩ := Axis.exists_take hprecise ha hpos hbelow fun h => absurd h hdep
  cases a with
  | plain a => exact ⟨plain b, map_eq_ok.2 ⟨b, hb, rfl⟩⟩
  | timed t => exact ⟨timed ⟨b, t.scale⟩, map_eq_ok.2 ⟨_, map_eq_ok.2 ⟨b, hb, rfl⟩, rfl⟩⟩

end SystemAxis

namespace CoordinateSystem

variable {sys sys' : CoordinateSystem ℚ} {p d p' d' : SystemAxis ℚ} {s : Selection ℚ}

/-- The axis `d'` of a system is what is left of `d` at the indices that its parent `p'` remembers, where
`p'` is what is left of `p`. -/
structure InStep (p d : SystemAxis ℚ) (sys : CoordinateSystem ℚ) (p' d' : SystemAxis ℚ) : Prop where
  consistent : Consistent sys.axes
  parent : sys.find? p.name = some p'
  axis : sys.find? d.name = some d'
  independent : p'.axis.dependence = .independent
  dependent : d'.axis.dependence = .dependent
  parents : d'.axis.parents = [p.name]
  parentBuilt : p'.axis.Built
  built : d'.axis.Built
  samples : d'.axis.Samples d.axis p'.axis.range

theorem inStep_self (hsys : sys.Built) (hp : p ∈ sys.axes) (hd : d ∈ sys.axes)
    (hindependent : p.axis.dependence = .independent) (hdependent : d.axis.dependence = .dependent)
    (hparents : d.axis.parents = [p.name]) (hpb : p.axis.Built) (hdb : d.axis.Built)
    (hsize : d.size = p.size) (hrange : p.axis.range.IsIdentity) : InStep p d sys p d where
  consistent := hsys.consistent
  parent := (find?_eq_some hsys.consistent.distinct).2 ⟨hp, rfl⟩
  axis := (find?_eq_some hsys.consistent.distinct).2 ⟨hd, rfl⟩
  independent := hindependent
  dependent := hdependent
  parents := hparents
  parentBuilt := hpb
  built := hdb
  samples := Axis.samples_self (hpb.wellFormed.len_range.trans hsize.symm) hrange

/-- A dependent axis has as many coordinates as its parent. -/
theorem InStep.size_eq (h : InStep p d sys p' d') : d'.size = p'.size :=
  h.samples.size.trans h.parentBuilt.wellFormed.len_range

/-- Both axes are cut by the slice that is picked on the parent. -/
theorem InStep.restriction_eq (h : InStep p d sys p' d') (s : Selection ℚ) :
    sys.restriction s p' = picked s p' ∧ sys.restriction s d' = picked s p' := by
  have hp : p'.axis.dependence ≠ .dependent := by
    rw [h.independent]
    decide
  exact ⟨if_neg hp, restriction_of_parent h.dependent h.parents h.parent s⟩

/-- **What the parent accepts, the dependent axis accepts.** -/
theorem InStep.exists_take? (h : InStep p d sys p' d')
    (hp : ∃ b, p'.take? (sys.restriction s p') = .ok b) :
    ∃ b, d'.take? (sys.restriction s d') = .ok b := by
  obtain ⟨hparent, hdependent⟩ := h.restriction_eq s
  obtain ⟨b, hb⟩ := hp
  rw [hparent] at hb
  rw [hdependent]
  rcases hpicked : picked s p' with _ | r
  · exact ⟨d', rfl⟩
  · rw [hpicked] at hb
    have ht := Axis.taken_of_take (SystemAxis.take_eq_ok hb).1
    have hscalar : d'.axis.dependence ≠ .scalar := by
      rw [h.dependent]
      decide
    exact SystemAxis.exists_take (Axis.precise_rat _) h.built.wellFormed hscalar ht.len_pos (h.size_eq ▸ ht.below)

theorem InStep.ownRange_eq (h : InStep p d sys p' d') (s : Selection ℚ) :
    ownRange s d' = .ok none :=
  ownRange_of_not_free (isFree_of_dependent h.dependent)

/-- A dependent axis can always be chosen, since it is not cut when it is chosen. -/
theorem InStep.choose_eq (h : InStep p d sys p' d') (s : Selection ℚ) :
    choose s d' = .ok ⟨d', none, d'⟩ :=
  choose_eq_ok.2 ⟨rfl, h.ownRange_eq s, rfl⟩

/-- **A dependent axis is never why a selection fails.** The reason is another axis, for which no slice
is found or which cannot be cut, or the transform. -/
theorem InStep.blames_other (h : InStep p d sys p' d') {e : Error}
    (hselect : sys.select s = .error e) :
    (∃ a ∈ sys.axes, a.name ≠ d.name ∧
        (ownRange s a = .error e ∨ a.take? (sys.restriction s a) = .error e)) ∨
      ∃ v, sys.transform = some v ∧ cutTransform v (sys.cutBy s) = .error e := by
  have hfind : ∀ {name a}, sys.find? name = some a ↔ a ∈ sys.axes ∧ a.name = name :=
    find?_eq_some h.consistent.distinct
  have hsame : ∀ a ∈ sys.axes, a.name = d.name → a = d' := fun a ha hname =>
    Option.some.inj ((hfind.2 ⟨ha, hname⟩).symm.trans h.axis)
  rcases exists_error_of_select h.consistent hselect with
    ⟨a, ha, hchoose⟩ | ⟨hchosen, a, ha, htake⟩ | htransform
  · refine .inl ⟨a, ha, fun hname => ?_, error_of_choose sys hchoose⟩
    rw [hsame a ha hname, h.choose_eq] at hchoose
    cases hchoose
  · refine .inl ⟨a, ha, fun hname => ?_, .inr htake⟩
    -- The parent was chosen, which means that it was cut.
    obtain ⟨c, hc⟩ := hchosen p' (hfind.1 h.parent).1
    obtain ⟨-, -, hcut⟩ := choose_eq_ok.1 hc
    rw [← picked_of_choose hc, ← (h.restriction_eq s).1] at hcut
    obtain ⟨b, hb⟩ := h.exists_take? ⟨_, hcut⟩
    rw [hsame a ha hname, hb] at htake
    cases htake
  · exact .inr htransform

/-- A step leads from one system in step to another. -/
theorem InStep.select (h : InStep p d sys p' d') (hselect : sys.select s = .ok sys') :
    ∃ p'' d'', InStep p d sys' p'' d'' := by
  have hselected := selected_of_select h.consistent hselect
  obtain ⟨hparent, hdependent⟩ := h.restriction_eq s
  obtain ⟨p'', hp, htakep⟩ := hselected.exists_found (fun hkept => by rw [hkept.name_eq]) h.parent
  obtain ⟨d'', hd, htaked⟩ := hselected.exists_found (fun hkept => by rw [hkept.name_eq]) h.axis
  have hkp := SystemAxis.kept_of_take? htakep
  have hkd := SystemAxis.kept_of_take? htaked
  have hsamples := SystemAxis.samples_of_take? (Axis.precise_rat _) htaked
  -- Both are cut by one slice, so what the parent remembers is where the coordinates are from.
  rw [hparent] at hkp
  rw [hdependent, h.size_eq] at hsamples
  exact ⟨p'', d'', hselected.consistent h.consistent, hp, hd, hkp.dependence_eq.trans h.independent,
    hkd.dependence_eq.trans h.dependent, hkd.parents_eq.trans h.parents,
    hkp.built h.parentBuilt, hkd.built h.built, hsamples.trans h.samples (hkp.range h.parentBuilt)⟩

/-- A run leads from one system in step to another. -/
theorem InStep.foldlM {l : List (Selection ℚ)} (h : InStep p d sys p' d')
    (hrun : l.foldlM CoordinateSystem.select sys = .ok sys') :
    ∃ p'' d'', InStep p d sys' p'' d'' := by
  have hstep : ∀ sys, ∀ s ∈ l, ∀ sys', (∃ p' d', InStep p d sys p' d') →
      CoordinateSystem.select sys s = .ok sys' → ∃ p' d', InStep p d sys' p' d' :=
    fun sys s _ sys' ⟨p', d', h⟩ hselect => h.select hselect
  exact foldlM_eq_ok_induction hstep ⟨p', d', h⟩ hrun

/-- **A dependent axis stays in step with its parent.** Start from a system in which an axis depends on
an independent one that has as many coordinates and holds all indices. However it was restricted so
far, no selection fails because of the dependent axis: it can be cut whenever its parent can, and if
there is an error, it is that of another axis or of the transform. Both axes still have the same size,
and the coordinates of the dependent one are those of the first axis at the indices that the parent
remembers. -/
theorem dependent_in_step {l : List (Selection ℚ)} (hsys : sys.Built) (hp : p ∈ sys.axes)
    (hd : d ∈ sys.axes) (hindependent : p.axis.dependence = .independent)
    (hdependent : d.axis.dependence = .dependent) (hparents : d.axis.parents = [p.name])
    (hpb : p.axis.Built) (hdb : d.axis.Built) (hsize : d.size = p.size)
    (hrange : p.axis.range.IsIdentity) (hrun : l.foldlM CoordinateSystem.select sys = .ok sys') :
    (∀ s e, sys'.select s = .error e →
      (∃ a ∈ sys'.axes, a.name ≠ d.name ∧
          (ownRange s a = .error e ∨ a.take? (sys'.restriction s a) = .error e)) ∨
        ∃ v, sys'.transform = some v ∧ cutTransform v (sys'.cutBy s) = .error e) ∧
    ∃ p' d', sys'.find? p.name = some p' ∧ sys'.find? d.name = some d' ∧ d'.size = p'.size ∧
      (∀ s, ownRange s d' = .ok none ∧ ((∃ b, p'.take? (sys'.restriction s p') = .ok b) →
        ∃ b, d'.take? (sys'.restriction s d') = .ok b)) ∧
      (∀ k, d'.axis.midpoint k = p'.axis.range.element k >>= d.axis.midpoint) ∧
      (d.axis.spacing.isInterval = true →
        ∀ k, d'.axis.edge1 k = p'.axis.range.element k >>= d.axis.edge1 ∧
          d'.axis.edge2 k = p'.axis.range.element k >>= d.axis.edge2) := by
  have hself := inStep_self hsys hp hd hindependent hdependent hparents hpb hdb hsize hrange
  obtain ⟨p', d', h⟩ := hself.foldlM hrun
  have hsamples := h.samples
  refine ⟨fun s e hselect => h.blames_other hselect, p', d', h.parent, h.axis, h.size_eq,
    fun s => ⟨h.ownRange_eq s, h.exists_take?⟩, hsamples.checked hsamples.midpointAt,
    fun hint k => ?_⟩
  exact ⟨hsamples.checked (hsamples.edge1At hint) k, hsamples.checked (hsamples.edge2At hint) k⟩

/-- Six rows, and the height of the ground along them. -/
def slope : Except Error (CoordinateSystem ℚ) := do
  let y ← (points "y" .geoY .independent [] [0, 1, 2, 3, 4, 5]).build
  let z ← (points "ground" .height .dependent ["y"] [10, 11, 12, 13, 14, 15]).build
  let x ← (onePoint "x" .geoX).build
  build (some "slope") [.plain z, .plain y, .plain x] none

theorem built_of_slope {sys : CoordinateSystem ℚ} (h : slope = .ok sys) : sys.Built := by
  obtain ⟨y, -, h⟩ := bind_eq_ok.1 h
  obtain ⟨z, -, h⟩ := bind_eq_ok.1 h
  obtain ⟨x, -, h⟩ := bind_eq_ok.1 h
  exact ⟨_, _, _, h⟩

/-- Every other row from the second one, and then the last two of these. -/
theorem dependent_in_step_slope :
    ∃ sys sys' z', slope = .ok sys ∧
      [{ horizontal := some ⟨⟨none, 1, 3, 2⟩, .single 0⟩ },
        { horizontal := some ⟨⟨none, 1, 2, 1⟩, .single 0⟩ }].foldlM CoordinateSystem.select sys =
          .ok sys' ∧
      sys'.find? "ground" = some z' ∧ z'.size = 2 ∧ z'.axis.midpoint 0 = .ok 13 ∧
      z'.axis.midpoint 1 = .ok 15 := by
  have hfollows : ∀ sys sys', slope = .ok sys →
      [{ horizontal := some ⟨⟨none, 1, 3, 2⟩, .single 0⟩ },
        { horizontal := some ⟨⟨none, 1, 2, 1⟩, .single 0⟩ }].foldlM CoordinateSystem.select sys =
          .ok sys' →
      ∃ z', sys'.find? "ground" = some z' ∧ z'.size = 2 ∧ z'.axis.midpoint 0 = .ok 13 ∧
        z'.axis.midpoint 1 = .ok 15 := by
    intro sys sys' hsys hrun
    have hbuilt := built_of_slope hsys
    obtain rfl : _ = sys := Except.ok.inj hsys
    obtain ⟨-, y', z', hy, hz, hsize, -, hmidpoint, -⟩ := dependent_in_step hbuilt
      (List.mem_cons_of_mem _ List.mem_cons_self) List.mem_cons_self rfl rfl rfl
      ⟨points "y" .geoY .independent [] [0, 1, 2, 3, 4, 5], rfl⟩
      ⟨points "ground" .height .dependent ["y"] [10, 11, 12, 13, 14, 15], rfl⟩ rfl ⟨rfl, rfl⟩ hrun
    obtain rfl : _ = sys' := Except.ok.inj hrun
    obtain rfl : _ = y' := Option.some.inj hy
    exact ⟨z', hz, hsize, hmidpoint 0, hmidpoint 1⟩
  obtain ⟨z', hz⟩ := hfollows _ _ rfl rfl
  exact ⟨_, _, z', rfl, rfl, hz⟩

end CoordinateSystem

end Gridded
