import Gridded.Proofs.System.Dependents

/-!
# Axes that depend on dependent axes

The slices that dependent axes follow are picked on free axes only. So an axis whose parents are
dependent themselves is never cut, also when its parents are, and falls behind them unless nothing is
cut away.

* `CoordinateSystem.Selected.find?_of_dependent`: an axis that depends on dependent axes only stays as
  it is;
* `CoordinateSystem.Lineage`: an independent axis, an axis that depends on it, and one that depends on
  that one;
* `CoordinateSystem.Together`: what is left of some axes is what they have at the same indices;
* `CoordinateSystem.together_iff`: exactly when a selection keeps the three axes together.
-/

namespace Gridded.CoordinateSystem

variable {α : Type} [Scalar α] {sys sys' : CoordinateSystem α} {s : Selection α}

/-- **An axis that depends on dependent axes only stays as it is.** -/
theorem Selected.find?_of_dependent (h : Selected sys sys' s) {a : SystemAxis α}
    (ha : sys.find? a.name = some a)
    (hdep : a.axis.dependence = .dependent)
    (hparents : ∀ name ∈ a.axis.parents, ∀ parent, sys.find? name = some parent →
      parent.axis.dependence = .dependent) : sys'.find? a.name = some a := by
  obtain ⟨b, hb, htake⟩ := h.exists_found (fun hkept => by rw [hkept.name_eq]) ha
  rw [restriction_eq_none hdep hparents s] at htake
  cases htake
  exact hb

/-- An independent axis `a`, an axis `b` that depends on it and an axis `c` that depends on `b`, all of
the same size. -/
structure Lineage (sys : CoordinateSystem α) (a b c : SystemAxis α) : Prop where
  first : a ∈ sys.axes
  second : b ∈ sys.axes
  third : c ∈ sys.axes
  independent : a.axis.dependence = .independent
  dependent_second : b.axis.dependence = .dependent
  dependent_third : c.axis.dependence = .dependent
  parents_second : b.axis.parents = [a.name]
  parents_third : c.axis.parents = [b.name]
  size_second : b.size = a.size
  size_third : c.size = a.size

variable {a b c a' b' : SystemAxis α}

/-- The first two axes are cut by the slice that is picked on the first one. -/
theorem Lineage.restriction_eq (h : Lineage sys a b c) (hsys : Consistent sys.axes)
    (s : Selection α) : sys.restriction s a = picked s a ∧ sys.restriction s b = picked s a := by
  have ha : a.axis.dependence ≠ .dependent := by
    rw [h.independent]
    decide
  have hfind := (find?_eq_some hsys.distinct).2 ⟨h.first, rfl⟩
  exact ⟨if_neg ha, restriction_of_parent h.dependent_second h.parents_second hfind s⟩

/-- The third axis stays as it is. -/
theorem Lineage.find?_third (h : Lineage sys a b c) (hsys : Consistent sys.axes)
    (hselected : Selected sys sys' s) : sys'.find? c.name = some c := by
  have hfind := (find?_eq_some hsys.distinct).2 ⟨h.third, rfl⟩
  refine hselected.find?_of_dependent hfind h.dependent_third ?_
  intro name hname parent hparent
  rw [h.parents_third, List.mem_singleton] at hname
  rw [hname, (find?_eq_some hsys.distinct).2 ⟨h.second, rfl⟩] at hparent
  exact Option.some.inj hparent ▸ h.dependent_second

/-! ### Staying together -/

/-- What is left of some axes has their coordinates at the same indices. -/
def Together (before after : List (SystemAxis α)) : Prop :=
  ∃ r : Slice, List.Forall₂ (fun a b => b.axis.Samples a.axis r) before after

/-- Axes that stay together and had one size have one size. -/
theorem Together.size_eq {before after : List (SystemAxis α)} (h : Together before after) :
    ∃ n, ∀ b ∈ after, b.size = n := by
  obtain ⟨r, hr⟩ := h
  refine ⟨r.len, fun b hb => ?_⟩
  obtain ⟨a, -, hab⟩ := mem_forall₂ hr.flip hb
  exact hab.size

/-- The first two axes are cut at the same indices. -/
theorem Lineage.samples (h : Lineage sys a b c) (hsys : Consistent sys.axes)
    (hprecise : a.axis.Precise ∧ b.axis.Precise) (htakea : a.take? (sys.restriction s a) = .ok a')
    (htakeb : b.take? (sys.restriction s b) = .ok b') :
    a'.axis.Samples a.axis (Slice.orWhole a.size (picked s a)) ∧
      b'.axis.Samples b.axis (Slice.orWhole a.size (picked s a)) := by
  obtain ⟨hrestrict, hrestrict'⟩ := h.restriction_eq hsys s
  have ha := SystemAxis.samples_of_take? hprecise.1 htakea
  have hb := SystemAxis.samples_of_take? hprecise.2 htakeb
  rw [hrestrict] at ha
  rw [hrestrict', h.size_second] at hb
  exact ⟨ha, hb⟩

/-- **A third generation stays behind.** Whatever is selected, the axis that depends on a dependent
axis is left as it is, while its parent and the independent axis above are cut by one slice. So the
three axes stay together exactly if nothing is cut away of the independent one. Coordinates that are
stored may be any numbers here; regular ones are computed exactly. -/
theorem together_iff (hsys : sys.Built) (h : Lineage sys a b c)
    (hprecise : a.axis.Precise ∧ b.axis.Precise)
    (hstride : ∀ r, picked s a = some r → 0 < r.stride) (hselect : sys.select s = .ok sys') :
    ∃ a' b', sys'.find? a.name = some a' ∧ sys'.find? b.name = some b' ∧
      sys'.find? c.name = some c ∧ Together [a, b] [a', b'] ∧
      (Together [a, b, c] [a', b', c] ↔ a'.size = a.size) := by
  have hconsistent := hsys.consistent
  have hselected := selected_of_select hconsistent hselect
  obtain ⟨a', ha', htakea⟩ := hselected.exists_found (fun hkept => by rw [hkept.name_eq])
    ((find?_eq_some hconsistent.distinct).2 ⟨h.first, rfl⟩)
  obtain ⟨b', hb', htakeb⟩ := hselected.exists_found (fun hkept => by rw [hkept.name_eq])
    ((find?_eq_some hconsistent.distinct).2 ⟨h.second, rfl⟩)
  obtain ⟨hsa, hsb⟩ := h.samples hconsistent hprecise htakea htakeb
  refine ⟨a', b', ha', hb', h.find?_third hconsistent hselected,
    ⟨_, .cons hsa (.cons hsb .nil)⟩, ?_, ?_⟩
  · intro htogether
    obtain ⟨n, hn⟩ := htogether.size_eq
    rw [hn a' (by simp), ← hn c (by simp), h.size_third]
  · intro hsize
    -- A slice of all indices leaves each where it is, which is what happens to the third axis.
    have hlen : (Slice.orWhole a.size (picked s a)).len = a.size := hsa.size.symm.trans hsize
    have hpos : 0 < (Slice.orWhole a.size (picked s a)).stride := by
      rcases hr : picked s a with _ | r
      · exact Nat.one_pos
      · exact hstride r hr
    have hfixed := fun i hi => Slice.index_eq_self_of_below hpos (hlen.symm ▸ hsa.below) (i := i) hi
    have hsc : c.axis.Samples c.axis (Slice.orWhole a.size (picked s a)) :=
      Axis.samples_of_fixed (hlen.trans h.size_third.symm) hfixed
    exact ⟨_, .cons hsa (.cons hsb (.cons hsc .nil))⟩

/-- Two times, the age of a balloon at these times and its height at these ages. -/
def ascent : Except Error (CoordinateSystem ℚ) := do
  let t ← twoTimes.build
  let age ← (points "age" .timeOffset .dependent ["time"] [1, 7]).build
  let z ← (points "height" .height .dependent ["age"] [100, 200]).build
  let y ← (onePoint "y" .geoY).build
  let x ← (onePoint "x" .geoX).build
  build (some "ascent")
    [.plain z, .plain age, .timed ⟨t, ⟨.hours, ⟨0, 0⟩⟩⟩, .plain y, .plain x] none

theorem built_of_ascent {sys : CoordinateSystem ℚ} (h : ascent = .ok sys) : sys.Built := by
  obtain ⟨t, -, h⟩ := bind_eq_ok.1 h
  obtain ⟨age, -, h⟩ := bind_eq_ok.1 h
  obtain ⟨z, -, h⟩ := bind_eq_ok.1 h
  obtain ⟨y, -, h⟩ := bind_eq_ok.1 h
  obtain ⟨x, -, h⟩ := bind_eq_ok.1 h
  exact ⟨_, _, _, h⟩

theorem exists_lineage_of_ascent {sys : CoordinateSystem ℚ} (h : ascent = .ok sys) :
    ∃ a b c, Lineage sys a b c ∧ a.name = "time" ∧ c.name = "height" ∧ a.size = 2 ∧
      a.role? = some .time := by
  obtain rfl : _ = sys := Except.ok.inj h
  refine ⟨_, _, _, ⟨.tail _ (.tail _ (.head _)), .tail _ (.head _), .head _, ?_, ?_, ?_, ?_, ?_, ?_,
    ?_⟩, ?_⟩ <;> trivial

/-- A selection along the ground keeps times, ages and heights together. -/
theorem together_ascent_ground :
    ∃ sys sys' a b c a' b' c', ascent = .ok sys ∧ Lineage sys a b c ∧
      sys.select { horizontal := some ⟨.single 0, .single 0⟩ } = .ok sys' ∧
      sys'.find? a.name = some a' ∧ sys'.find? b.name = some b' ∧ sys'.find? c.name = some c' ∧
      Together [a, b, c] [a', b', c'] := by
  have hground : ∀ sys sys', ascent = .ok sys →
      sys.select { horizontal := some ⟨.single 0, .single 0⟩ } = .ok sys' →
      ∃ a b c a' b' c', Lineage sys a b c ∧ sys'.find? a.name = some a' ∧
        sys'.find? b.name = some b' ∧ sys'.find? c.name = some c' ∧
        Together [a, b, c] [a', b', c'] := by
    intro sys sys' hsys hselect
    obtain ⟨a, b, c, h, hname, -, hsize, hrole⟩ := exists_lineage_of_ascent hsys
    have hstride : ∀ r, picked { horizontal := some ⟨.single 0, .single 0⟩ } a = some r →
        0 < r.stride := by
      intro r hr
      obtain ⟨i, rfl⟩ := exists_single_of_picked (by simp [hrole]) (by simp [hrole]) hr
      exact Nat.one_pos
    obtain ⟨a', b', ha, hb, hc, -, htogether⟩ :=
      together_iff (built_of_ascent hsys) h ⟨Axis.precise_rat _, Axis.precise_rat _⟩ hstride hselect
    refine ⟨a, b, c, a', b', c, h, ha, hb, hc, htogether.2 ?_⟩
    have htime : (sys'.find? "time").map SystemAxis.size = some 2 := by
      obtain rfl : _ = sys := Except.ok.inj hsys
      obtain rfl : _ = sys' := Except.ok.inj hselect
      rfl
    rw [hname] at ha
    rw [ha] at htime
    exact (Option.some.inj htime).trans hsize.symm
  obtain ⟨a, b, c, a', b', c', h, hrest⟩ := hground _ _ rfl rfl
  exact ⟨_, _, a, b, c, a', b', c', rfl, h, rfl, hrest⟩

/-- The latest time leaves one time and one age, but both heights. -/
theorem not_together_ascent_latest :
    ∃ sys sys' a b c, ascent = .ok sys ∧ Lineage sys a b c ∧
      sys.select { latestTime := true } = .ok sys' ∧
      ¬ ∃ a' b' c', sys'.find? a.name = some a' ∧ sys'.find? b.name = some b' ∧
        sys'.find? c.name = some c' ∧ Together [a, b, c] [a', b', c'] := by
  have hlatest : ∀ sys sys', ascent = .ok sys → sys.select { latestTime := true } = .ok sys' →
      ∃ a b c, Lineage sys a b c ∧ ¬ ∃ a' b' c', sys'.find? a.name = some a' ∧
        sys'.find? b.name = some b' ∧ sys'.find? c.name = some c' ∧
        Together [a, b, c] [a', b', c'] := by
    intro sys sys' hsys hselect
    obtain ⟨a, b, c, h, ha, hc, -⟩ := exists_lineage_of_ascent hsys
    refine ⟨a, b, c, h, ?_⟩
    rintro ⟨a', b', c', ha', -, hc', htogether⟩
    obtain ⟨n, hn⟩ := htogether.size_eq
    have hsizes : (sys'.find? "time").map SystemAxis.size = some 1 ∧
        (sys'.find? "height").map SystemAxis.size = some 2 := by
      obtain rfl : _ = sys := Except.ok.inj hsys
      obtain rfl : _ = sys' := Except.ok.inj hselect
      exact ⟨rfl, rfl⟩
    rw [← ha, ← hc, ha', hc'] at hsizes
    have htime : a'.size = 1 := Option.some.inj hsizes.1
    have hheight : c'.size = 2 := Option.some.inj hsizes.2
    have hsame : a'.size = c'.size := (hn a' (by simp)).trans (hn c' (by simp)).symm
    rw [htime, hheight] at hsame
    cases hsame
  obtain ⟨a, b, c, h, hrest⟩ := hlatest _ _ rfl rfl
  exact ⟨_, _, a, b, c, rfl, h, rfl, hrest⟩

end Gridded.CoordinateSystem
