import Gridded.Proofs.System.Selecting

/-!
# Sizes of axes and transform

A system is aligned if its transform has as many times, levels, rows and columns as the axes of these
roles have coordinates. A selection keeps it so unless an axis is restricted in another way than the
transform: the transform does not see which slices dependent axes follow, and it takes the slice of the
time offsets for one of time.

* `CoordinateSystem.GridAxes`, `CoordinateSystem.Has`: the axes along which a transform varies;
* `CoordinateSystem.Aligned`: the sizes agree;
* `CoordinateSystem.aligned_select_iff`: exactly when a selection keeps a system aligned.
-/

namespace Gridded.CoordinateSystem

variable {α : Type}

/-! ### The axes of a transform -/

/-- The axes along which a transform varies. -/
structure GridAxes (α : Type) where
  t : SystemAxis α
  z : SystemAxis α
  y : SystemAxis α
  x : SystemAxis α

/-- The levels, rows and columns of the axes. -/
def GridAxes.shape (g : GridAxes α) : GridShape := ⟨g.z.size, g.y.size, g.x.size⟩

/-- The axes are those of the system, by role. -/
structure Has (sys : CoordinateSystem α) (g : GridAxes α) : Prop where
  t : sys.axisOf? .time = some g.t
  z : sys.axisOf? .vertical = some g.z
  y : sys.axisOf? .y = some g.y
  x : sys.axisOf? .x = some g.x

theorem Has.unique {sys : CoordinateSystem α} {g g' : GridAxes α} (h : sys.Has g)
    (h' : sys.Has g') : g = g' := by
  obtain ⟨t, z, y, x⟩ := g
  obtain ⟨t', z', y', x'⟩ := g'
  cases Option.some.inj (h.t.symm.trans h'.t)
  cases Option.some.inj (h.z.symm.trans h'.z)
  cases Option.some.inj (h.y.symm.trans h'.y)
  cases Option.some.inj (h.x.symm.trans h'.x)
  rfl

/-- The axes and the transform agree in size. -/
def Aligned (sys : CoordinateSystem α) : Prop :=
  ∃ g v, sys.Has g ∧ sys.transform = some v ∧ v.isTimeDependent = true ∧ v.shape = g.shape ∧
    v.times = some g.t.size

variable [Scalar α] {sys sys' : CoordinateSystem α} {s : Selection α} {g g' : GridAxes α}
  {v v' : VerticalTransform α}

/-- What a selection keeps of the axes of a transform. -/
structure GridAxes.Kept (sys : CoordinateSystem α) (s : Selection α) (g g' : GridAxes α) :
    Prop where
  t : SystemAxis.Kept g.t g'.t (sys.restriction s g.t)
  z : SystemAxis.Kept g.z g'.z (sys.restriction s g.z)
  y : SystemAxis.Kept g.y g'.y (sys.restriction s g.y)
  x : SystemAxis.Kept g.x g'.x (sys.restriction s g.x)

theorem Selected.exists_kept (h : Selected sys sys' s) (hg : sys.Has g) :
    ∃ g', sys'.Has g' ∧ GridAxes.Kept sys s g g' := by
  obtain ⟨t, ht, hkt⟩ := h.axisOf? hg.t
  obtain ⟨z, hz, hkz⟩ := h.axisOf? hg.z
  obtain ⟨y, hy, hky⟩ := h.axisOf? hg.y
  obtain ⟨x, hx, hkx⟩ := h.axisOf? hg.x
  exact ⟨⟨t, z, y, x⟩, ⟨ht, hz, hy, hx⟩, ⟨hkt, hkz, hky, hkx⟩⟩

/-- The transform of the selected system shows what is seen through the window of its cut. -/
theorem Selected.exists_shows (h : Selected sys sys' s) (hv : sys.transform = some v)
    (hmade : v.Made) : ∃ v', sys'.transform = some v' ∧
      v'.Shows v (Window.opened v.shape v.times (sys.cutBy s)) := by
  have htransform := h.transform
  rw [hv] at htransform
  obtain ⟨v', hv', hsome⟩ := map_eq_ok.1 htransform
  exact ⟨v', hsome.symm, shows_of_cutTransform hmade hv'⟩

/-- The cut of the transform in terms of the axes. -/
theorem cutBy_eq (hg : sys.Has g) (s : Selection α) : sys.cutBy s =
    ⟨(picked s g.t).or (sys.pickedOn s .timeOffset), picked s g.z, picked s g.y, picked s g.x⟩ := by
  simp only [cutBy, pickedOn, hg.t, hg.z, hg.y, hg.x, Option.bind_some]

/-! ### Sizes after a selection -/

/-- The number of coordinates that a selection leaves on an axis. -/
def sizeAfter (sys : CoordinateSystem α) (s : Selection α) (a : SystemAxis α) : Nat :=
  (Slice.orWhole a.size (sys.restriction s a)).len

/-- A dependent axis is cut by a slice that is picked elsewhere, any other by its own. -/
theorem len_picked_eq_iff (sys : CoordinateSystem α) (s : Selection α) (a : SystemAxis α) :
    (Slice.orWhole a.size (picked s a)).len = sys.sizeAfter s a ↔
      (a.axis.dependence = .dependent → sys.sizeAfter s a = a.size) := by
  by_cases hdep : a.axis.dependence = .dependent
  · rw [picked_of_not_free (isFree_of_dependent hdep)]
    exact ⟨fun h _ => h.symm, fun h => (h hdep).symm⟩
  · refine iff_of_true ?_ fun h => absurd h hdep
    rw [sizeAfter, restriction, if_neg hdep]

theorem sizeAfter_of_picked {a : SystemAxis α} {r : Slice} (h : picked s a = some r) :
    sys.sizeAfter s a = r.len := by
  have hdep : a.axis.dependence ≠ .dependent := fun hdep => by
    rw [picked_of_not_free (isFree_of_dependent hdep)] at h
    cases h
  rw [sizeAfter, restriction, if_neg hdep, h, Slice.orWhole_some]

/-- The number of times that a selection leaves of the transform. -/
theorem times_of_shows {n : Nat} (hg : sys.Has g) (htimes : v.times = some n)
    (h : v'.Shows v (Window.opened v.shape v.times (sys.cutBy s))) :
    v'.times = some (match picked s g.t with
      | some r => r.len
      | none => if (sys.pickedOn s .timeOffset).isSome then 1 else n) := by
  rw [h.times, Window.seenTimes, Window.opened, htimes, cutBy_eq hg, Option.bind_some]
  rcases picked s g.t with _ | r
  · rw [Option.none_or]
    rcases hoffset : sys.pickedOn s .timeOffset with _ | r
    · rfl
    · -- An axis of time offsets is cut down to one index.
      obtain ⟨a, ha, hpicked⟩ := Option.bind_eq_some_iff.1 hoffset
      have hrole := (role_of_filling ha).2
      obtain ⟨i, rfl⟩ := exists_single_of_picked (by simp [hrole]) (by simp [hrole]) hpicked
      rfl
  · rfl

/-- The sides of the transform are those of the axes unless a dependent axis changes its size. -/
theorem shape_eq_iff_of_shows (hg : sys.Has g) (hshape : v.shape = g.shape)
    (hkept : GridAxes.Kept sys s g g')
    (h : v'.Shows v (Window.opened v.shape v.times (sys.cutBy s))) :
    v'.shape = g'.shape ↔ ∀ a ∈ [g.z, g.y, g.x],
      a.axis.dependence = .dependent → sys.sizeAfter s a = a.size := by
  simp only [List.forall_mem_cons, List.not_mem_nil, false_imp_iff, implies_true, and_true,
    ← len_picked_eq_iff]
  -- Side by side: the transform has what is picked, and the axis has what is left.
  rw [h.shape, hshape, cutBy_eq hg]
  simp only [Window.shape, Window.opened, GridAxes.shape, hkept.z.size, hkept.y.size,
    hkept.x.size, GridShape.mk.injEq, sizeAfter]

/-- The times of the transform are those of the axis if that is cut by itself, and otherwise it
depends on the time offsets. -/
theorem times_eq_iff_of_shows (hg : sys.Has g) (htimes : v.times = some g.t.size)
    (hkept : GridAxes.Kept sys s g g')
    (h : v'.Shows v (Window.opened v.shape v.times (sys.cutBy s))) :
    v'.times = some g'.t.size ↔ (picked s g.t).isSome ∨
      sys.sizeAfter s g.t = if (sys.pickedOn s .timeOffset).isSome then 1 else g.t.size := by
  rw [times_of_shows hg htimes h, Option.some.injEq, hkept.t.size, ← sizeAfter]
  rcases hpicked : picked s g.t with _ | r
  · simp only [Option.isSome_none, Bool.false_eq_true, false_or]
    exact eq_comm
  · rw [sizeAfter_of_picked hpicked]
    simp

omit [Scalar α] in
/-- A system with these axes and this transform is aligned if their sizes agree. -/
theorem aligned_iff (hg : sys.Has g) (hv : sys.transform = some v) (hmade : v.Made) :
    sys.Aligned ↔ v.shape = g.shape ∧ v.times = some g.t.size := by
  constructor
  · rintro ⟨g', v', hg', hv', -, hshape, htimes⟩
    cases hg.unique hg'
    cases Option.some.inj (hv.symm.trans hv')
    exact ⟨hshape, htimes⟩
  · rintro ⟨hshape, htimes⟩
    have hdynamic : v.isTimeDependent = true := by
      rw [hmade.isTimeDependent_eq, htimes]
      rfl
    exact ⟨g, v, hg, hv, hdynamic, hshape, htimes⟩

/-- **Exactly when a selection keeps a system aligned.** Every dependent axis of levels, rows or
columns has to keep its size. The axis of time has to be restricted by itself, or else to end with as
many times as the slice of the time offsets leaves of the transform. -/
theorem aligned_select_iff (hsys : sys.Built) (hmade : ∀ v, sys.transform = some v → v.Made)
    (h : sys.Aligned) (hselect : sys.select s = .ok sys') :
    sys'.Aligned ↔
      (∀ role ∈ [Role.vertical, .y, .x], ∀ a, sys.axisOf? role = some a →
        a.axis.dependence = .dependent → sys.sizeAfter s a = a.size) ∧
      ∀ a, sys.axisOf? .time = some a → (picked s a).isSome ∨
        sys.sizeAfter s a = if (sys.pickedOn s .timeOffset).isSome then 1 else a.size := by
  obtain ⟨g, v, hg, hv, -, hshape, htimes⟩ := h
  have hselected := selected_of_select hsys.consistent hselect
  obtain ⟨g', hg', hkept⟩ := hselected.exists_kept hg
  obtain ⟨v', hv', hshows⟩ := hselected.exists_shows hv (hmade v hv)
  rw [aligned_iff hg' hv' hshows.made, shape_eq_iff_of_shows hg hshape hkept hshows,
    times_eq_iff_of_shows hg htimes hkept hshows]
  refine and_congr ?_ ?_
  · simp only [List.forall_mem_cons, List.not_mem_nil, false_imp_iff, implies_true, and_true,
      hg.z, hg.y, hg.x, Option.some.injEq, forall_eq']
  · simp only [hg.t, Option.some.injEq, forall_eq']

/-! ### A small system -/

/-- Points of a kind. -/
def points (name : String) (kind : AxisKind) (dependence : Dependence) (parents : List String)
    (values : List ℚ) : Axis.Draft ℚ :=
  { Axis.Draft.blank with
    name := name
    kind := some kind
    spacing := some .irregularPoint
    dependence := dependence
    parents := parents
    values := some values }

/-- Two times. -/
def twoTimes : Axis.Draft ℚ := points "time" .time .independent [] [0, 6]

/-- Two levels, which may depend on the times. -/
def twoLevels (levels : Dependence) : Axis.Draft ℚ :=
  points "level" .geoZ levels ["time"] [100, 200]

/-- A single point along the ground. -/
def onePoint (name : String) (kind : AxisKind) : Axis.Draft ℚ :=
  points name kind .independent [] [0]

/-- Two levels at two times, numbered by time and level. -/
def twoByTwo : VerticalSource ℚ where
  name := "sigma"
  formula := .oceanSigma
  unit := none
  shape := ⟨2, 1, 1⟩
  times := some 2
  array time := .ok (Tensor.generate3 2 1 1 fun k _ _ => 10 * time + k)
  profile time _ _ := .ok ((List.range 2).map fun k => 10 * time + k)
  listing := "sigma"

/-- Two times and two levels above one point, where the levels may depend on the times. -/
def column (levels : Dependence) : Except Error (CoordinateSystem ℚ) := do
  let t ← twoTimes.build
  let z ← (twoLevels levels).build
  let y ← (onePoint "y" .geoY).build
  let x ← (onePoint "x" .geoX).build
  build (some "column") [.timed ⟨t, ⟨.hours, ⟨0, 0⟩⟩⟩, .plain z, .plain y, .plain x]
    (some (.source twoByTwo))

theorem built_of_column {levels : Dependence} {sys : CoordinateSystem ℚ}
    (h : column levels = .ok sys) : sys.Built := by
  obtain ⟨t, -, h⟩ := bind_eq_ok.1 h
  obtain ⟨z, -, h⟩ := bind_eq_ok.1 h
  obtain ⟨y, -, h⟩ := bind_eq_ok.1 h
  obtain ⟨x, -, h⟩ := bind_eq_ok.1 h
  exact ⟨_, _, _, h⟩

/-- The latest time of independent levels leaves the system aligned. -/
theorem aligned_column_latest :
    ∃ sys sys', column .independent = .ok sys ∧ sys.Aligned ∧
      sys.select { latestTime := true } = .ok sys' ∧ sys'.Aligned := by
  have hkeeps : ∀ sys sys', column .independent = .ok sys →
      sys.select { latestTime := true } = .ok sys' → sys.Aligned ∧ sys'.Aligned := by
    intro sys sys' hsys hselect
    have haligned : sys.Aligned := by
      obtain rfl : _ = sys := Except.ok.inj hsys
      exact ⟨⟨_, _, _, _⟩, _, ⟨rfl, rfl, rfl, rfl⟩, rfl, rfl, rfl, rfl⟩
    have hbuilt := built_of_column hsys
    obtain rfl : _ = sys := Except.ok.inj hsys
    refine ⟨haligned, (aligned_select_iff hbuilt ?_ haligned hselect).2 ⟨?_, ?_⟩⟩
    · intro v hv
      cases hv
      exact .source twoByTwo
    · intro role _ a ha hdep
      have hmem := (role_of_filling ha).1
      simp only [List.mem_cons, List.not_mem_nil, or_false] at hmem
      rcases hmem with rfl | rfl | rfl | rfl <;> cases hdep
    · intro a ha
      cases ha
      exact .inl rfl
  obtain ⟨haligned, haligned'⟩ := hkeeps _ _ rfl rfl
  exact ⟨_, _, rfl, haligned, rfl, haligned'⟩

/-- The latest time leaves one of the levels that depend on it, but both levels of the transform. -/
theorem not_aligned_column_latest :
    ∃ sys sys', column .dependent = .ok sys ∧ sys.Aligned ∧
      sys.select { latestTime := true } = .ok sys' ∧ ¬ sys'.Aligned := by
  refine ⟨_, _, rfl, ⟨⟨_, _, _, _⟩, _, ⟨rfl, rfl, rfl, rfl⟩, rfl, rfl, rfl, rfl⟩, rfl, ?_⟩
  rintro ⟨g, v, hg, hv, -, hshape, -⟩
  cases hg.unique (⟨rfl, rfl, rfl, rfl⟩ : Has _ ⟨_, _, _, _⟩)
  cases hv
  cases hshape

end Gridded.CoordinateSystem
