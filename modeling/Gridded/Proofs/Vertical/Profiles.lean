import Gridded.Proofs.Text.Lowercase
import Gridded.Proofs.Vertical.Making
import Gridded.Proofs.Vertical.Windows
import Gridded.Vertical.Catalog

/-!
# Columns and arrays

A transform answers for all points at once, or for the column above one point. Every transform that
the catalog makes, and every window on it, gives the same coordinates in both ways and fails in both
ways for the same reason, except that only a column can lie beside the grid.

* `VerticalTransform.Coherent`: the column above a point is that of the array;
* `FormulaSource.coherent`, `StoredSource.coherent`, `Coordinates.coherent`: sources are coherent;
* `VerticalTransform.coherent_of_made`: windows on coherent sources are;
* `Catalog.IsBuiltIn`: catalogs that make nothing else, such as the standard one;
* `VerticalTransform.profile_agrees_with_array`: all together.
-/

namespace Gridded

/-- The entries of an array of three dimensions along the first of them. -/
def Tensor.columnAt {α : Type} [Scalar α] (t : Tensor α) (levels j i : Nat) : List α :=
  (List.range levels).map fun k => t.get3 Scalar.nan k j i

/-- A column of what is seen is what is seen of a column. -/
theorem Window.pickLevels_columnAt {α : Type} [Scalar α] (w : Window) (t : Tensor α) {levels j i : Nat}
    (hz : w.z.Below levels) (hj : j < w.y.len) (hi : i < w.x.len) :
    w.pickLevels (t.columnAt levels (w.y.index j) (w.x.index i)) =
      (w.pick t).columnAt w.z.len j i := by
  unfold pickLevels Slice.indices Tensor.columnAt
  rw [List.map_map]
  refine List.map_congr_left fun k hk => ?_
  have hk : k < w.z.len := List.mem_range.1 hk
  have hlevel : w.z.index k < levels := hz k hk
  rw [get3_pick w t hk hj hi]
  simp [List.getD, hlevel]

namespace VerticalTransform

variable {α : Type} [Scalar α]

/-- Arrays have the extent of the grid, and the column above a point of the grid is that of the array.
Beside the grid there is no column, at whatever time. -/
structure Coherent (t : VerticalTransform α) : Prop where
  shape : ∀ {time a}, t.array time = .ok a → a.shape = t.shape.toList
  inside : ∀ time x y, x < t.shape.columns → y < t.shape.rows →
    t.profile time x y = (fun a => a.columnAt t.shape.levels y x) <$> t.array time
  beyondColumns : ∀ time x y, t.shape.columns ≤ x →
    t.profile time x y = .error (.indexOutOfRange x t.shape.columns)
  beyondRows : ∀ time x y, x < t.shape.columns → t.shape.rows ≤ y →
    t.profile time x y = .error (.indexOutOfRange y t.shape.rows)

end VerticalTransform

/-! ### Sources -/

namespace VerticalBase

variable {α : Type} {b : VerticalBase α} {x y : Nat}

theorem checkPoint_inside (hx : x < b.shape.columns) (hy : y < b.shape.rows) :
    b.checkPoint x y = .ok () := by
  rw [checkPoint, if_neg (Nat.not_le.2 hx), if_neg (Nat.not_le.2 hy)]

theorem checkPoint_beyondColumns (hx : b.shape.columns ≤ x) :
    b.checkPoint x y = .error (.indexOutOfRange x b.shape.columns) := if_pos hx

theorem checkPoint_beyondRows (hx : x < b.shape.columns) (hy : b.shape.rows ≤ y) :
    b.checkPoint x y = .error (.indexOutOfRange y b.shape.rows) := by
  rw [checkPoint, if_neg (Nat.not_le.2 hx), if_pos hy]

theorem checkPoint_eq_ok : b.checkPoint x y = .ok () ↔ x < b.shape.columns ∧ y < b.shape.rows := by
  unfold checkPoint
  split_ifs with hx hy
  · exact iff_of_false (fun h => by cases h) fun h => Nat.not_le.2 h.1 hx
  · exact iff_of_false (fun h => by cases h) fun h => Nat.not_le.2 h.2 hy
  · exact iff_of_true rfl ⟨Nat.lt_of_not_le hx, Nat.lt_of_not_le hy⟩

end VerticalBase

section Sources

open VerticalTransform

variable {α : Type} [Scalar α]

/-- A formula is the same for all points as for one. -/
theorem FormulaSource.coherent (f : FormulaSource α) :
    (VerticalTransform.source f.source).Coherent where
  shape {time a} h := by
    obtain ⟨step, -, h⟩ := bind_eq_ok.1 h
    obtain ⟨⟨surface, depth⟩, -, h⟩ := bind_eq_ok.1 h
    cases h
    rfl
  inside time x y hx hy := by
    change x < f.base.shape.columns at hx
    change y < f.base.shape.rows at hy
    show f.profile time x y = _ <$> f.array time
    unfold FormulaSource.profile FormulaSource.array
    rw [VerticalBase.checkPoint_inside hx hy, ok_bind, map_bind]
    refine bind_congr fun step => ?_
    rw [map_bind]
    refine bind_congr fun planes => ?_
    rw [map_pure]
    refine congrArg pure (List.map_congr_left fun k hk => ?_)
    rw [Tensor.get3_generate3 (List.mem_range.1 hk) hy hx]
  beyondColumns time x y hx := by
    show f.profile time x y = _
    rw [FormulaSource.profile, VerticalBase.checkPoint_beyondColumns hx]
    rfl
  beyondRows time x y hx hy := by
    show f.profile time x y = _
    rw [FormulaSource.profile, VerticalBase.checkPoint_beyondRows hx hy]
    rfl

namespace StoredSource

variable {f : StoredSource α}

theorem shape_of_clean {data cleaned : Tensor α} (h : f.clean data = .ok cleaned) :
    cleaned.shape = f.base.shape.toList := by
  unfold clean at h
  split at h
  · rename_i hshape
    dsimp only at h
    split_ifs at h <;> cases h <;> exact hshape
  · cases h

/-- A stored coordinate is coherent if what was read in advance has the extent of the grid. -/
theorem coherent (hdata : ∀ data, f.data = some data → data.shape = f.base.shape.toList) :
    (VerticalTransform.source f.source).Coherent where
  shape {time a} h := by
    obtain ⟨step, -, h⟩ := bind_eq_ok.1 h
    split at h
    · rename_i hsome
      cases h
      exact hdata _ hsome
    · obtain ⟨data, -, h⟩ := bind_eq_ok.1 h
      exact shape_of_clean h
  inside time x y hx hy := by
    show f.profile time x y = _ <$> f.array time
    rw [profile, VerticalBase.checkPoint_inside hx hy, ok_bind]
    exact bind_pure_comp _ _
  beyondColumns time x y hx := by
    show f.profile time x y = _
    rw [profile, VerticalBase.checkPoint_beyondColumns hx]
    rfl
  beyondRows time x y hx hy := by
    show f.profile time x y = _
    rw [profile, VerticalBase.checkPoint_beyondRows hx hy]
    rfl

end StoredSource

/-- A sound source is coherent. -/
theorem Coordinates.coherent {c : Coordinates α} {d : Dataset α} (h : c.Sound d) :
    (VerticalTransform.source c.source).Coherent := by
  cases c with
  | formula f => exact f.coherent
  | stored f =>
    refine StoredSource.coherent fun data hdata => ?_
    cases h with
    | static _ _ hclean =>
      cases hdata
      exact StoredSource.shape_of_clean hclean
    | timed _ _ _ => cases hdata

/-- Whatever a recipe makes is a coherent source. -/
theorem Recipe.coherent_of_make [Hyperbolic α] {r : Recipe α} {formula : Formula}
    {t : VerticalTransform α} (h : r.make formula = .ok t) :
    ∃ s, t = .source s ∧ (VerticalTransform.source s).Coherent := by
  obtain ⟨c, rfl, hsound, -⟩ := exists_coordinates h
  exact ⟨c.source, rfl, c.coherent hsound⟩

end Sources

/-! ### Windows -/

namespace VerticalTransform

variable {α : Type} [Scalar α] {t t' inner : VerticalTransform α} {w : Window} {cut : Cut}

/-- A window on a coherent transform is coherent. -/
theorem Coherent.view (h : inner.Coherent) (hfits : w.Fits inner.shape inner.times) :
    (view inner w).Coherent where
  shape {time a} ha := by
    obtain ⟨n, -, ha⟩ := bind_eq_ok.1 ha
    obtain ⟨full, -, rfl⟩ := map_eq_ok.1 ha
    rfl
  inside time x y hx hy := by
    have hcolumn : ∀ n, inner.profile n (w.x.index x) (w.y.index y) =
        (fun a => a.columnAt inner.shape.levels (w.y.index y) (w.x.index x)) <$> inner.array n :=
      fun n => h.inside n _ _ (hfits.x x hx) (hfits.y y hy)
    have hpick : ∀ a : Tensor α,
        w.pickLevels (a.columnAt inner.shape.levels (w.y.index y) (w.x.index x)) =
          (w.pick a).columnAt w.z.len y x := fun a => w.pickLevels_columnAt a hfits.z hy hx
    simp only [profile, array, Slice.element_of_lt hx, Slice.element_of_lt hy, ok_bind, hcolumn,
      map_bind, Functor.map_map, hpick]
    rfl
  beyondColumns time x y hx := by
    rw [profile, Slice.element_of_le hx]
    rfl
  beyondRows time x y hx hy := by
    rw [profile, Slice.element_of_lt hx, ok_bind, Slice.element_of_le hy]
    rfl

/-- A transform is coherent if its source is. -/
theorem coherent_of_made (ht : t.Made) (h : (source t.origin).Coherent) : t.Coherent := by
  induction t with
  | source s => exact h
  | view inner w ih => exact (ih ht.fits.1 h).view ht.fits.2

omit [Scalar α] in
theorem origin_of_subset (h : t.subset cut = .ok t') : t'.origin = t.origin := by
  cases t with
  | source s =>
    obtain ⟨rfl, -⟩ := window_eq_ok.1 h
    rfl
  | view inner w =>
    obtain ⟨c, -, h⟩ := bind_eq_ok.1 h
    obtain ⟨rfl, -⟩ := window_eq_ok.1 h
    rfl

omit [Scalar α] in
/-- Cutting a source any number of times leaves it behind all windows. -/
theorem made_of_foldlM {s : VerticalSource α} {cuts : List Cut}
    (hrun : cuts.foldlM subset (source s) = .ok t) : t.Made ∧ t.origin = s := by
  have hstep : ∀ u : VerticalTransform α, ∀ cut ∈ cuts, ∀ u', u.Made ∧ u.origin = s →
      u.subset cut = .ok u' → u'.Made ∧ u'.origin = s :=
    fun u cut _ u' ⟨hu, hs⟩ hcut => ⟨hu.subset hcut, (origin_of_subset hcut).trans hs⟩
  exact foldlM_eq_ok_induction hstep ⟨.source s, rfl⟩ hrun

/-- Cutting a coherent source any number of times leaves it coherent. -/
theorem coherent_of_foldlM {s : VerticalSource α} {cuts : List Cut} (h : (source s).Coherent)
    (hrun : cuts.foldlM subset (source s) = .ok t) : t.Coherent := by
  obtain ⟨hmade, rfl⟩ := made_of_foldlM hrun
  exact coherent_of_made hmade h

end VerticalTransform

/-! ### The standard catalog -/

namespace Catalog

variable {α : Type} [Scalar α] [Hyperbolic α]

/-- Every maker is that of a formula. -/
def IsBuiltIn (c : Catalog α) : Prop :=
  ∀ name maker, c.maker? name = some maker → ∃ formula, maker = builtIn formula

omit [Scalar α] [Hyperbolic α] in
theorem maker?_register (c : Catalog α) (name other : String) (maker : Maker α) :
    (c.register name maker).maker? other =
      if Text.foldedName other = Text.foldedName name then some maker else c.maker? other :=
  Dictionary.find?_insert c _ _ maker

theorem IsBuiltIn.register {c : Catalog α} (h : c.IsBuiltIn) (name : String) (formula : Formula) :
    (c.register name (builtIn formula)).IsBuiltIn := by
  intro other maker hmaker
  rw [maker?_register] at hmaker
  split_ifs at hmaker with hname
  · cases hmaker
    exact ⟨formula, rfl⟩
  · exact h other maker hmaker

theorem isBuiltIn_empty : IsBuiltIn (Dictionary.empty : Catalog α) := by
  intro name maker h
  rw [maker?, Dictionary.find?_empty] at h
  cases h

/-- Registering formulas under both of their names adds nothing else. -/
theorem IsBuiltIn.foldl (formulas : List Formula) {c : Catalog α} (h : c.IsBuiltIn) :
    (formulas.foldl (fun c formula => Catalog.register (Catalog.register c formula.standardName
      (builtIn formula)) formula.name (builtIn formula)) c).IsBuiltIn := by
  induction formulas generalizing c with
  | nil => exact h
  | cons formula formulas ih =>
    rw [List.foldl_cons]
    exact ih ((h.register _ formula).register _ formula)

theorem isBuiltIn_standard : (standard : Catalog α).IsBuiltIn :=
  isBuiltIn_empty.foldl Formula.all

/-- The names consist of ASCII characters, without white space at their ends. -/
theorem names_ascii : (Formula.all.flatMap fun formula => [formula.standardName, formula.name]).all
    (fun name => Text.trim name == name && name.toList.all (·.toNat < 128)) = true := by
  decide +kernel

theorem foldedName_of_formula {formula : Formula} {name : String}
    (h : name ∈ [formula.standardName, formula.name]) :
    Text.foldedName name = String.ofList (name.toList.map Char.toLower) := by
  have hname := List.all_eq_true.1 names_ascii name
    (List.mem_flatMap.2 ⟨formula, formula.mem_all, h⟩)
  rw [Bool.and_eq_true, beq_iff_eq, List.all_eq_true] at hname
  exact Text.foldedName_ascii hname.1 fun c hc => of_decide_eq_true (hname.2 c hc)

/-- The names of different formulas differ, whatever their case. -/
theorem eq_of_foldedName {formula other : Formula} {name name' : String}
    (hname : name ∈ [formula.standardName, formula.name])
    (hname' : name' ∈ [other.standardName, other.name])
    (h : Text.foldedName name = Text.foldedName name') : other = formula := by
  have hdistinct : ∀ formula ∈ Formula.all, ∀ other ∈ Formula.all,
      ∀ name ∈ [formula.standardName, formula.name], ∀ name' ∈ [other.standardName, other.name],
        name.toList.map Char.toLower = name'.toList.map Char.toLower → other = formula := by
    decide +kernel
  rw [foldedName_of_formula hname, foldedName_of_formula hname', String.ofList_inj] at h
  exact hdistinct formula formula.mem_all other other.mem_all name hname name' hname' h

/-- The maker of a formula is there once the formula is registered, if no other has its name. -/
theorem maker?_foldl {name : String} {formula : Formula} (formulas : List Formula) {c : Catalog α}
    (hother : ∀ other ∈ formulas, Text.foldedName name = Text.foldedName other.standardName ∨
      Text.foldedName name = Text.foldedName other.name → other = formula)
    (h : c.maker? name = some (builtIn formula) ∨
      ∃ other ∈ formulas, Text.foldedName name = Text.foldedName other.standardName ∨
        Text.foldedName name = Text.foldedName other.name) :
    (formulas.foldl (fun c formula => Catalog.register (Catalog.register c formula.standardName
      (builtIn formula)) formula.name (builtIn formula)) c).maker? name =
        some (builtIn formula) := by
  induction formulas generalizing c with
  | nil =>
    rcases h with h | ⟨other, hmem, -⟩
    · exact h
    · cases hmem
  | cons first formulas ih =>
    rw [List.forall_mem_cons] at hother
    rw [List.foldl_cons]
    refine ih hother.2 ?_
    simp only [maker?_register]
    by_cases hname : Text.foldedName name = Text.foldedName first.name
    · rw [if_pos hname, hother.1 (.inr hname)]
      exact .inl rfl
    by_cases hstandard : Text.foldedName name = Text.foldedName first.standardName
    · rw [if_neg hname, if_pos hstandard, hother.1 (.inl hstandard)]
      exact .inl rfl
    rw [if_neg hname, if_neg hstandard]
    rcases h with h | ⟨other, hmem, hmatch⟩
    · exact .inl h
    · rcases List.mem_cons.1 hmem with rfl | hmem
      · exact absurd hmatch (not_or.2 ⟨hstandard, hname⟩)
      · exact .inr ⟨other, hmem, hmatch⟩

/-- The standard catalog has every formula under both of its names, whatever their case. -/
theorem maker?_standard_of_foldedName {formula : Formula} {name name' : String}
    (hname' : name' ∈ [formula.standardName, formula.name])
    (h : Text.foldedName name = Text.foldedName name') :
    (standard : Catalog α).maker? name = some (builtIn formula) := by
  refine maker?_foldl Formula.all (fun other _ hother => ?_) (.inr ⟨formula, formula.mem_all, ?_⟩)
  · rcases hother with hother | hother
    · exact eq_of_foldedName hname' (List.mem_cons_self) (h.symm.trans hother)
    · exact eq_of_foldedName hname' (by simp) (h.symm.trans hother)
  · rcases List.mem_pair.1 hname' with rfl | rfl
    · exact .inl h
    · exact .inr h

/-- The standard catalog has every formula under its short name. -/
theorem maker?_standard (formula : Formula) :
    (standard : Catalog α).maker? formula.name = some (builtIn formula) :=
  maker?_standard_of_foldedName (List.mem_cons_of_mem _ (List.mem_singleton_self _)) rfl

omit [Scalar α] [Hyperbolic α] in
theorem make_of_maker? {c : Catalog α} {r : Recipe α} {key : String} {maker : Maker α}
    (hkey : r.key? = some key) (hmaker : c.maker? key = some maker) : c.make r = maker r := by
  simp only [make, hkey, hmaker]

/-- A recipe that names a formula is made by this formula. -/
theorem make_standard {r : Recipe α} {formula : Formula} {t : VerticalTransform α}
    (hkey : r.key? = some formula.name) (h : r.make formula = .ok t) :
    (standard : Catalog α).make r = .ok t :=
  (make_of_maker? hkey (maker?_standard formula)).trans h

/-- A catalog of formulas makes transforms by formulas only. -/
theorem IsBuiltIn.exists_make {c : Catalog α} (hc : c.IsBuiltIn) {r : Recipe α}
    {t : VerticalTransform α} (h : c.make r = .ok t) : ∃ formula, r.make formula = .ok t := by
  unfold make at h
  split at h
  · cases h
  · split at h
    · rename_i maker hmaker
      obtain ⟨formula, rfl⟩ := hc _ _ hmaker
      exact ⟨formula, h⟩
    · cases h

end Catalog

namespace VerticalTransform

variable {α : Type} [Scalar α] [Hyperbolic α]

/-- However the transform of a recipe is cut, what is behind all windows is a sound source. -/
theorem exists_coordinates_of_foldlM {r : Recipe α} {t₀ t : VerticalTransform α} {cuts : List Cut}
    (hmake : Catalog.standard.make r = .ok t₀) (hrun : cuts.foldlM subset t₀ = .ok t) :
    ∃ c : Coordinates α, t.Made ∧ t.origin = c.source ∧ c.Sound r.dataset ∧
      c.base.dataset = r.dataset ∧ c.base.strictTimeIndex = r.settings.strictTimeIndex := by
  obtain ⟨formula, hformula⟩ := Catalog.isBuiltIn_standard.exists_make hmake
  obtain ⟨c, rfl, hsound⟩ := Recipe.exists_coordinates hformula
  obtain ⟨hmade, horigin⟩ := made_of_foldlM hrun
  exact ⟨c, hmade, horigin, hsound⟩

/-- **The column above a point is that of the array.** For every transform that the standard catalog
makes, cut in any way: above a point of the grid, a column fails exactly as the array does, and else it
has the entries of the array at that point. Beside the grid there is no column, at whatever time. -/
theorem profile_agrees_with_array {r : Recipe α} {t₀ t : VerticalTransform α} {cuts : List Cut}
    (hmake : Catalog.standard.make r = .ok t₀) (hrun : cuts.foldlM subset t₀ = .ok t)
    (time x y : Nat) :
    (x < t.shape.columns → y < t.shape.rows →
      (∀ e, t.profile time x y = .error e ↔ t.array time = .error e) ∧
      ∀ a, t.array time = .ok a → a.shape = t.shape.toList ∧
        ∃ column, t.profile time x y = .ok column ∧ column.length = t.shape.levels ∧
          ∀ k < t.shape.levels, column[k]? = some (a.get3 Scalar.nan k y x)) ∧
    (t.shape.columns ≤ x →
      t.profile time x y = .error (.indexOutOfRange x t.shape.columns)) ∧
    (x < t.shape.columns → t.shape.rows ≤ y →
      t.profile time x y = .error (.indexOutOfRange y t.shape.rows)) := by
  obtain ⟨formula, hformula⟩ := Catalog.isBuiltIn_standard.exists_make hmake
  obtain ⟨s, rfl, hs⟩ := Recipe.coherent_of_make hformula
  have h : t.Coherent := coherent_of_foldlM hs hrun
  refine ⟨fun hx hy => ?_, h.beyondColumns time x y, h.beyondRows time x y⟩
  rw [h.inside time x y hx hy]
  refine ⟨fun e => ?_, fun a ha => ⟨h.shape ha, ?_⟩⟩
  · cases t.array time <;> simp
  · rw [ha, map_ok]
    refine ⟨_, rfl, by simp [Tensor.columnAt], fun k hk => ?_⟩
    simp [Tensor.columnAt, hk]

/-- Two levels of a sea at two times, above a row of two columns of depths 10 and 20. -/
def twoColumns : Except Error (Recipe ℚ) := do
  let lib ← Library.addNamed Dictionary.empty "s" ["z"] none (.ofList [-1, 0])
  let lib ← lib.addNamed "Cs" ["z"] none (.ofList [-1, 0])
  let lib ← lib.addNamed "hc" [] none (.scalar 5)
  let lib ← lib.addNamed "h" ["y", "x"] none ⟨[1, 2], #[10, 20]⟩
  let lib ← lib.addNamed "zeta" ["t", "y", "x"] none ⟨[2, 1, 2], #[0, 1, 2, 3]⟩
  Recipe.of "sea" lib.toDataset
    ((Dictionary.empty.insert "transform_type" (.text "OceanSG2")).insert
      "formula_terms" (.text "s: s C: Cs eta: zeta depth: h depth_c: hc")) {}

/-- The hyperbolic functions near zero, which this formula does not call. -/
@[reducible]
def nearZero : Hyperbolic ℚ := ⟨id, id⟩

theorem twoColumns_second : ∃ r f, twoColumns = .ok r ∧
    r.key? = some Formula.oceanSG2.name ∧ r.oceanSG2 = .ok f ∧
    ∃ t a, subset (.source f.source) { time := some (.single 1), x := some (.single 1) } = .ok t ∧
      t.shape = ⟨2, 1, 1⟩ ∧ t.array 0 = .ok a :=
  ⟨_, _, rfl, rfl, rfl, _, _, rfl, rfl, rfl⟩

/-- The second column at the second time. -/
theorem profile_agrees_with_array_twoColumns :
    ∃ r t₀ t a column, twoColumns = .ok r ∧ (@Catalog.standard ℚ _ nearZero).make r = .ok t₀ ∧
      [{ time := some (.single 1), x := some (.single 1) }].foldlM subset t₀ = .ok t ∧
      t.shape = ⟨2, 1, 1⟩ ∧ t.array 0 = .ok a ∧ t.profile 0 0 0 = .ok column ∧
      (∀ k < 2, column[k]? = some (a.get3 Scalar.nan k 0 0)) ∧
      t.profile 0 1 0 = .error (.indexOutOfRange 1 1) := by
  obtain ⟨r, f, hr, hkey, hf, t, a, hcut, hshape, ha⟩ := twoColumns_second
  have hmake : (@Catalog.standard ℚ _ nearZero).make r = .ok (.source f.source) :=
    (Catalog.make_of_maker? hkey (@Catalog.maker?_standard ℚ _ nearZero .oceanSG2)).trans
      (map_eq_ok.2 ⟨f, hf, rfl⟩)
  have hrun : [{ time := some (.single 1), x := some (.single 1) }].foldlM subset
      (.source f.source) = .ok t := by
    rw [List.foldlM_cons, hcut]
    rfl
  obtain ⟨hinside, -, -⟩ := @profile_agrees_with_array ℚ _ nearZero _ _ _ _ hmake hrun 0 0 0
  obtain ⟨-, hbeyond, -⟩ := @profile_agrees_with_array ℚ _ nearZero _ _ _ _ hmake hrun 0 1 0
  rw [hshape] at hinside hbeyond
  obtain ⟨-, column, hcolumn, -, hentry⟩ := (hinside (by decide) (by decide)).2 a ha
  exact ⟨r, _, t, a, column, hr, hmake, hrun, hshape, ha, hcolumn, hentry, hbeyond (by decide)⟩

end VerticalTransform

end Gridded
