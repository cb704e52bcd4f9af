import Gridded.Proofs.Doubles
import Gridded.Proofs.Vertical.Revaluing

/-!
# Curves that are stored

The curve that stretches the levels of the ocean is computed from two numbers, or it is read from a
variable. If the variable holds the computed curve, it makes no difference which of the two is done.

* `Recipe.clean_of_unmarked`: where nothing marks what is missing, numbers are read as they are stored;
* `Recipe.Shares`: a term that stands for the same arrays in two recipes, with what is read of it;
* `Recipe.Tabulates`: a recipe that has the computed curve of another one in a variable;
* `FormulaSource.Replicates`: a formula that computes the same from the same horizontal terms;
* `Recipe.exists_make_of_tabulates`: the transforms of both recipes have the same grid and time steps,
  and the same answers.
-/

namespace Gridded

variable {α : Type} [Scalar α]

/-! ### Numbers that are read as they are stored -/

/-- Without marks only what is not a number is missing, and it is what stands for a missing number. -/
theorem Recipe.clean_of_unmarked [Scalar.Unital α] [Scalar.Canonical α] {missing : Missing α}
    (h : missing.isSome = false) (x : α) : clean missing 1 x = x := by
  obtain ⟨fill, mark⟩ := missing
  obtain ⟨rfl, rfl⟩ : fill = none ∧ mark = none := by simpa [Missing.isSome] using h
  rcases hx : Scalar.isNaN x with _ | _
  · have hcovers : (Missing.mk none none).covers x = false := by
      simp [Missing.covers, Missing.matchesMark, hx]
    rw [clean, hcovers, if_neg Bool.false_ne_true, Scalar.Unital.mul_one x hx]
  · have hcovers : (Missing.mk none none).covers x = true := by
      simp [Missing.covers, hx]
    rw [clean, if_pos hcovers, Scalar.Canonical.eq_nan x hx]

/-! ### Terms that two recipes share -/

namespace Recipe

variable {r r' : Recipe α} {formula formula' : Formula} {term : String} {target : Option String}

/-- A variable that stands for the term does so in both recipes, and both have the same arrays of it. -/
structure Shares (r r' : Recipe α) (term : String) : Prop where
  binds : ∀ v, r.Binds term v → r'.Binds term v
  read : ∀ v, r.Binds term v → r'.dataset.read v.name = r.dataset.read v.name
  readAt : ∀ v, r.Binds term v → r'.dataset.readAt v.name = r.dataset.readAt v.name

/-! What is read of a shared term is read again, by any formula. -/

omit [Scalar α] in
theorem Shares.leads_variableOf (h : r.Shares r' term) :
    Leads Eq (r.variableOf formula term) (r'.variableOf formula' term) := by
  intro v hv
  exact ⟨v, variableOf_eq_ok.2 (h.binds v (variableOf_eq_ok.1 hv)), rfl⟩

theorem Shares.leads_levels (h : r.Shares r' term) (hsettings : r'.settings = r.settings) :
    Leads Eq (r.levels formula term target) (r'.levels formula' term target) := by
  intro xs hxs
  obtain ⟨v, data, hbinds, hrank, hread, rfl⟩ := levels_eq_ok.1 hxs
  have hread' : r'.dataset.read v.name = .ok data := (h.read v hbinds).trans hread
  refine ⟨_, levels_eq_ok.2 ⟨v, data, h.binds v hbinds, hrank, hread', rfl⟩, ?_⟩
  rw [hsettings]

theorem Shares.leads_number (h : r.Shares r' term) (hsettings : r'.settings = r.settings) :
    Leads Eq (r.number formula term target) (r'.number formula' term target) := by
  intro x hx
  have hlevels : Leads Eq (r.levels formula term target) (r'.levels formula' term target) :=
    h.leads_levels hsettings
  obtain ⟨_, hxs, rfl⟩ := hlevels _ (number_eq_ok.1 hx)
  exact ⟨x, number_eq_ok.2 hxs, rfl⟩

/-- A horizontal term is read again, and both datasets load the same of it at every time step. -/
theorem Shares.leads_horizontal (h : r.Shares r' term) (hsettings : r'.settings = r.settings) :
    Leads (fun g g' => g' = g ∧ ∀ step, g.load r'.dataset step = g.load r.dataset step)
      (r.horizontal formula term target) (r'.horizontal formula' term target) := by
  intro g hg
  obtain ⟨v, hbinds, hloaded⟩ := horizontal_eq_ok.1 hg
  rw [← hsettings] at hloaded
  cases hloaded with
  | static hshape hread hdata =>
    have hread' := (h.read v hbinds).trans hread
    refine ⟨_, horizontal_eq_ok.2 ⟨v, h.binds v hbinds, .static hshape hread' hdata⟩, rfl, ?_⟩
    intro step
    rw [HorizontalTerm.load_static rfl, HorizontalTerm.load_static rfl]
  | timed hshape =>
    refine ⟨_, horizontal_eq_ok.2 ⟨v, h.binds v hbinds, .timed hshape⟩, rfl, ?_⟩
    intro step
    rw [HorizontalTerm.load_timed rfl, HorizontalTerm.load_timed rfl]
    exact congrArg (· step >>= _) (h.readAt v hbinds)

end Recipe

/-! ### Formulas that compute the same -/

/-- The second formula has the grid, the time steps, the unit and the numbers of the first one, and loads
the same horizontal numbers. It may have another name. -/
structure FormulaSource.Replicates (f f' : FormulaSource α) : Prop where
  unit : f'.base.unit = f.base.unit
  shape : f'.base.shape = f.base.shape
  times : f'.base.times = f.base.times
  strict : f'.base.strictTimeIndex = f.base.strictTimeIndex
  column : f'.column = f.column
  planes : ∀ step, f'.planes step = f.planes step

namespace FormulaSource.Replicates

variable {f f' : FormulaSource α}

theorem timeStep_eq (h : f.Replicates f') (time : Nat) :
    f'.base.timeStep time = f.base.timeStep time := by
  unfold VerticalBase.timeStep
  rw [h.times, h.strict]

theorem array_eq (h : f.Replicates f') (time : Nat) : f'.array time = f.array time := by
  simp only [FormulaSource.array, h.timeStep_eq, h.planes, h.shape, h.column]

theorem profile_eq (h : f.Replicates f') (time x y : Nat) :
    f'.profile time x y = f.profile time x y := by
  have hpoint : f'.base.checkPoint x y = f.base.checkPoint x y := by
    unfold VerticalBase.checkPoint
    rw [h.shape]
  simp only [FormulaSource.profile, hpoint, h.timeStep_eq, h.planes, h.shape, h.column]

end FormulaSource.Replicates

omit [Scalar α] in
/-- The formula only occurs in the text of an error. -/
theorem HorizontalTerm.leads_commonTimes (formula formula' : Formula) (terms : List (HorizontalTerm α)) :
    Leads Eq (commonTimes formula terms) (commonTimes formula' terms) := by
  unfold commonTimes
  generalize (none : Option Nat) = found
  induction terms generalizing found with
  | nil => exact Leads.refl _
  | cons g terms ih =>
    rw [List.foldlM_cons, List.foldlM_cons]
    refine Leads.bind (R := Eq) ?_ ?_
    · rcases found with _ | n <;> rcases g.times with _ | times
      case some.some =>
        dsimp only
        split_ifs
        · exact Leads.refl _
        · rintro _ ⟨⟩
      all_goals exact Leads.refl _
    · rintro next _ rfl
      exact ih next

/-! ### Curves -/

namespace Recipe

variable {r r' : Recipe α}

/-- A formula of the ocean is made again from the same surface and depth, if its column is. -/
theorem leads_overDepth_of_shares {formula formula' : Formula} (hsettings : r'.settings = r.settings)
    (hsurface : r.Shares r' "eta") (hdepth : r.Shares r' "depth")
    {column column' : Option String → Except Error (Column α)}
    (hcolumn : ∀ unit, Leads Eq (column unit) (column' unit)) :
    Leads FormulaSource.Replicates (r.overDepth formula column) (r'.overDepth formula' column') := by
  refine hdepth.leads_variableOf.bind ?_
  rintro v _ rfl
  refine (hdepth.leads_horizontal hsettings).bind ?_
  rintro depth _ ⟨rfl, hdepthLoad⟩
  refine (hsurface.leads_horizontal hsettings).bind ?_
  rintro surface _ ⟨rfl, hsurfaceLoad⟩
  refine (hcolumn v.units?).bind ?_
  rintro c _ rfl
  refine (Leads.refl _).bind fun _ _ _ => ?_
  refine (HorizontalTerm.leads_commonTimes _ _ _).bind ?_
  rintro times _ rfl
  refine .ok ⟨rfl, rfl, rfl, congrArg Settings.strictTimeIndex hsettings, rfl, fun step => ?_⟩
  simp only [FormulaSource.planes, base, hsurfaceLoad, hdepthLoad]

variable [Hyperbolic α]

/-- The second recipe has the terms of the first one, but instead of the two controls it has the curve
that is computed from them, in a variable of one dimension that has no marks for what is missing. The
units of the variable do not matter. -/
structure Tabulates (r r' : Recipe α) : Prop where
  settings : r'.settings = r.settings
  shares : ∀ term ∈ ["s", "eta", "depth", "depth_c"], r.Shares r' term
  curve : ∀ s a b, r.levels .oceanS "s" none = .ok s → r.number .oceanS "a" none = .ok a →
    r.number .oceanS "b" none = .ok b → ∃ v data, r'.Binds "C" v ∧ v.rank ≤ 1 ∧
      v.missing.isSome = false ∧ r'.dataset.read v.name = .ok data ∧
        data.entries.toList = s.map fun x => stretching x a b

variable [Scalar.Unital α] [Scalar.Canonical α]

/-- The curve is read as it is computed. -/
theorem Tabulates.levels_eq (h : r.Tabulates r') {s : List α} {a b : α}
    (hs : r.levels .oceanS "s" none = .ok s) (ha : r.number .oceanS "a" none = .ok a)
    (hb : r.number .oceanS "b" none = .ok b) :
    r'.levels .oceanSG1 "C" none = .ok (s.map fun x => stretching x a b) := by
  obtain ⟨v, data, hbinds, hrank, hmissing, hread, hdata⟩ := h.curve s a b hs ha hb
  refine levels_eq_ok.2 ⟨v, data, hbinds, hrank, hread, ?_⟩
  have hclean : clean v.missing (1 : α) = id := funext (clean_of_unmarked hmissing)
  rw [unitFactor_none, hclean, List.map_id, hdata]

theorem Tabulates.leads_oceanSG1 (h : r.Tabulates r') :
    Leads FormulaSource.Replicates r.oceanS r'.oceanSG1 := by
  have hshares : ∀ {term}, term ∈ ["s", "eta", "depth", "depth_c"] → r.Shares r' term :=
    fun hterm => h.shares _ hterm
  refine leads_overDepth_of_shares h.settings (hshares (by simp)) (hshares (by simp)) fun unit => ?_
  intro c hc
  obtain ⟨s, hs, hc⟩ := bind_eq_ok.1 hc
  obtain ⟨a, ha, hc⟩ := bind_eq_ok.1 hc
  obtain ⟨b, hb, hc⟩ := bind_eq_ok.1 hc
  obtain ⟨critical, hcritical, hc⟩ := bind_eq_ok.1 hc
  cases hc
  obtain ⟨_, hs', rfl⟩ := (hshares (by simp)).leads_levels h.settings _ hs
  obtain ⟨_, hcritical', rfl⟩ := (hshares (by simp)).leads_number h.settings _ hcritical
  have hread := readCurve_eq_ok.2 ⟨hs', h.levels_eq hs ha hb, (List.length_map _).symm, hcritical'⟩
  exact ⟨_, bind_eq_ok.2 ⟨_, hread, rfl⟩, rfl⟩

/-- **A stored curve is as good as a computed one.** Where the transform of a recipe computes its curve,
a recipe that has this curve in a variable instead of the two controls also has a transform. Both have
the same extent, unit and time steps, and give the same arrays and columns, or fail for the same reason,
at every time and point. -/
theorem exists_make_of_tabulates (h : r.Tabulates r') {t : VerticalTransform α}
    (hmake : r.make .oceanS = .ok t) : ∃ t', r'.make .oceanSG1 = .ok t' ∧ t'.shape = t.shape ∧
      t'.unit = t.unit ∧ t'.isTimeDependent = t.isTimeDependent ∧ t'.times = t.times ∧
      (∀ time, t'.array time = t.array time) ∧
        ∀ time x y, t'.profile time x y = t.profile time x y := by
  obtain ⟨f, hf, rfl⟩ := map_eq_ok.1 hmake
  obtain ⟨f', hf', hsame⟩ := h.leads_oceanSG1 f hf
  exact ⟨_, map_eq_ok.2 ⟨f', hf', rfl⟩, hsame.shape, hsame.unit, congrArg Option.isSome hsame.times,
    hsame.times, hsame.array_eq, hsame.profile_eq⟩

end Recipe

/-! ### Storing a curve -/

/-- The source that has another variable as well. -/
def Dataset.adding (d : Dataset α) (v : Variable α) (data : Tensor α) : Dataset α where
  find? name := if name = v.name then some v else d.find? name
  read name := if name = v.name then .ok data else d.read name
  readAt name time := if name = v.name then timeSlice name data time else d.readAt name time

/-- The bindings with a variable of the curve in place of the two controls. -/
def FormulaTerms.withCurve (f : FormulaTerms) (name : String) : FormulaTerms :=
  ⟨("C", name) :: f.bindings.filter fun binding => binding.1 ∉ ["a", "b"]⟩

/-- Other terms keep their variables. -/
theorem FormulaTerms.find?_withCurve (f : FormulaTerms) (name : String) {term : String}
    (h : term ∉ ["C", "a", "b"]) : (f.withCurve name).find? term = f.find? term := by
  have hcurve : term ≠ "C" := List.ne_of_not_mem_cons h
  have hcontrol : term ∉ ["a", "b"] := List.not_mem_of_not_mem_cons h
  have hkept : ∀ bindings : List (String × String),
      (bindings.filter fun binding => binding.1 ∉ ["a", "b"]).lookup term = bindings.lookup term := by
    intro bindings
    induction bindings with
    | nil => rfl
    | cons binding bindings ih =>
      rw [List.filter_cons]
      split_ifs with hbinding
      · rw [List.lookup_cons, List.lookup_cons, ih]
      · have hne : term ≠ binding.1 := fun heq => hbinding (by simpa [heq] using hcontrol)
        rw [List.lookup_cons, beq_false_of_ne hne, ih]
  unfold find? withCurve
  rw [List.lookup_cons, beq_false_of_ne hcurve, hkept]

namespace Recipe

variable {r : Recipe α} {v : Variable α} {data : Tensor α}

/-- The recipe that has a curve in a variable of its own in place of the two controls. -/
def storing (r : Recipe α) (v : Variable α) (data : Tensor α) : Recipe α :=
  { r with dataset := r.dataset.adding v data, terms := r.terms.withCurve v.name }

omit [Scalar α] in
theorem shares_storing {term : String} (hterm : term ∉ ["C", "a", "b"])
    (hfresh : ∀ name w, r.terms.find? term = some name → r.dataset.find? name = some w →
      name ≠ v.name ∧ w.name ≠ v.name) : r.Shares (r.storing v data) term where
  binds := by
    rintro w ⟨name, hname, hw⟩
    exact ⟨name, (r.terms.find?_withCurve v.name hterm).trans hname,
      (if_neg (hfresh name w hname hw).1).trans hw⟩
  read := by
    rintro w ⟨name, hname, hw⟩
    exact if_neg (hfresh name w hname hw).2
  readAt := by
    rintro w ⟨name, hname, hw⟩
    exact funext fun time => if_neg (hfresh name w hname hw).2

theorem tabulates_storing [Hyperbolic α] {s : List α} {a b : α}
    (hs : r.levels .oceanS "s" none = .ok s) (ha : r.number .oceanS "a" none = .ok a)
    (hb : r.number .oceanS "b" none = .ok b)
    (hfresh : ∀ term ∈ ["s", "eta", "depth", "depth_c"], ∀ name w, r.terms.find? term = some name →
      r.dataset.find? name = some w → name ≠ v.name ∧ w.name ≠ v.name)
    (hrank : v.rank ≤ 1) (hmissing : v.missing.isSome = false)
    (hdata : data.entries.toList = s.map fun x => stretching x a b) :
    r.Tabulates (r.storing v data) where
  settings := rfl
  shares term hterm := by
    have hkept : ∀ term ∈ ["s", "eta", "depth", "depth_c"], term ∉ ["C", "a", "b"] := by decide
    exact shares_storing (hkept term hterm) (hfresh term hterm)
  curve := by
    intro s' a' b' hs' ha' hb'
    cases hs.symm.trans hs'
    cases ha.symm.trans ha'
    cases hb.symm.trans hb'
    exact ⟨v, data, ⟨v.name, rfl, if_pos rfl⟩, hrank, hmissing, if_pos rfl, hdata⟩

/-- Three levels of a sea at two times, above a row of two columns of depths 10 and 20. -/
def stretchedSea : Except Error (Recipe Float) := do
  let lib ← Library.addNamed Dictionary.empty "s" ["z"] none (.ofList [-1, -0.5, 0])
  let lib ← lib.addNamed "a" [] none (.scalar 2)
  let lib ← lib.addNamed "b" [] none (.scalar 0.5)
  let lib ← lib.addNamed "hc" [] none (.scalar 5)
  let lib ← lib.addNamed "h" ["y", "x"] none ⟨[1, 2], #[10, 20]⟩
  let lib ← lib.addNamed "zeta" ["t", "y", "x"] none ⟨[2, 1, 2], #[0, 1, 2, 3]⟩
  Recipe.of "sea" lib.toDataset (Dictionary.empty.insert "formula_terms"
    (.text "s: s a: a b: b eta: zeta depth: h depth_c: hc")) {}

theorem stretchedSea_eq : ∃ r f s a b, stretchedSea = .ok r ∧ r.oceanS = .ok f ∧
    r.levels .oceanS "s" none = .ok s ∧ r.number .oceanS "a" none = .ok a ∧
    r.number .oceanS "b" none = .ok b ∧ (∀ term ∈ ["s", "eta", "depth", "depth_c"], ∃ name w,
      r.terms.find? term = some name ∧ r.dataset.find? name = some w ∧ name ≠ "Cs" ∧ w.name ≠ "Cs") ∧
    f.base.shape = ⟨3, 1, 2⟩ ∧ f.base.times = some 2 ∧ f.array 2 = .error (.invalidTimeIndex 2 2) := by
  refine ⟨_, _, _, _, _, rfl, rfl, rfl, rfl, rfl, ?_, rfl, rfl, rfl⟩
  simp only [List.forall_mem_cons]
  exact ⟨⟨_, _, rfl, rfl, by decide, by decide⟩, ⟨_, _, rfl, rfl, by decide, by decide⟩,
    ⟨_, _, rfl, rfl, by decide, by decide⟩, ⟨_, _, rfl, rfl, by decide, by decide⟩, fun _ h => by cases h⟩

/-- The variable of the curve. -/
def curveOfSea : Variable Float := ⟨"Cs", ["z"], [3], Dictionary.empty⟩

/-- Either recipe of the sea gives the same heights at the second time, and there is no third time. -/
theorem exists_make_of_tabulates_stretchedSea : ∃ r s a b t t', stretchedSea = .ok r ∧
    r.levels .oceanS "s" none = .ok s ∧ r.number .oceanS "a" none = .ok a ∧
    r.number .oceanS "b" none = .ok b ∧ r.make .oceanS = .ok t ∧
    (r.storing curveOfSea (.ofList (s.map fun x => stretching x a b))).make .oceanSG1 = .ok t' ∧
    t'.shape = ⟨3, 1, 2⟩ ∧ t'.times = some 2 ∧ t'.array 1 = t.array 1 ∧
    t'.profile 1 1 0 = t.profile 1 1 0 ∧ t'.array 2 = .error (.invalidTimeIndex 2 2) := by
  obtain ⟨r, f, s, a, b, hr, hf, hs, ha, hb, hterms, hshape, htimes, hlate⟩ := stretchedSea_eq
  have hmake : r.make .oceanS = .ok (.source f.source) := map_eq_ok.2 ⟨f, hf, rfl⟩
  have hfresh : ∀ term ∈ ["s", "eta", "depth", "depth_c"], ∀ name w,
      r.terms.find? term = some name → r.dataset.find? name = some w →
        name ≠ curveOfSea.name ∧ w.name ≠ curveOfSea.name := by
    intro term hterm name w hname hw
    obtain ⟨name', w', hname', hw', hfresh⟩ := hterms term hterm
    cases hname.symm.trans hname'
    cases hw.symm.trans hw'
    exact hfresh
  have htabulates : r.Tabulates
      (r.storing curveOfSea (.ofList (s.map fun x => stretching x a b))) :=
    tabulates_storing hs ha hb hfresh (by decide) rfl rfl
  obtain ⟨t', hmake', hshape', -, -, htimes', harray, hprofile⟩ :=
    exists_make_of_tabulates htabulates hmake
  exact ⟨r, s, a, b, _, t', hr, hs, ha, hb, hmake, hmake', hshape'.trans hshape, htimes'.trans htimes,
    harray 1, hprofile 1 1 0, (harray 2).trans hlate⟩

end Recipe

end Gridded
