import Gridded.Proofs.Vertical.Answering
import Gridded.Proofs.Vertical.Entries
import Gridded.Proofs.Vertical.Equations

/-!
# Arrays by formula

In exact arithmetic, the arrays of the formulas satisfy the equations.

* `Recipe.Columns.reads`, `Recipe.Makes.exists_holds`: wherever there is an array, the terms have numbers;
* `Recipe.Makes.exists_array`: wherever the terms have numbers, there is an array, and it has the
  coordinate of the equation;
* `Recipe.coordinateAt_of_make`: the same for single coordinates;
* `VerticalTransform.array_follows_formula`: all together, from the text that binds the terms.
-/

namespace Gridded

/-! ### Terms have numbers -/

namespace Recipe

variable {r : Recipe ℚ} {formula : Formula} {term : String} {unit target : Option String}
  {n k j i : Nat}

theorem exists_holds_of_levels {xs : List ℚ} (h : r.levels formula term target = .ok xs)
    (hk : k < xs.length) : ∃ v x, r.Binds term v ∧ r.dataset.Holds v n k j i .level x := by
  obtain ⟨v, data, hbinds, -, hread, rfl⟩ := levels_eq_ok.1 h
  have hk : k < data.entries.size := by simpa using hk
  exact ⟨v, data.entries[k], hbinds, .level hread (Array.getElem?_eq_getElem hk)⟩

theorem exists_holds_of_number {y : ℚ} (h : r.number formula term target = .ok y) :
    ∃ v x, r.Binds term v ∧ r.dataset.Holds v n k j i .number x := by
  obtain ⟨v, data, hbinds, -, hread, hy⟩ := levels_eq_ok.1 (number_eq_ok.1 h)
  obtain ⟨x, hx, -⟩ := List.map_eq_singleton_iff.1 hy.symm
  exact ⟨v, x, hbinds, .number hread (Array.toList_inj.1 hx)⟩

theorem exists_holds_of_horizontal {g : HorizontalTerm ℚ} {step : Nat} {plane : Tensor ℚ}
    (h : r.horizontal formula term target = .ok g) (hfull : r.dataset.Full)
    (hload : g.load r.dataset step = .ok plane) (hstep : ∀ m, g.times = some m → step = n)
    (hj : j < g.rows) (hi : i < g.columns) :
    ∃ v x, r.Binds term v ∧ r.dataset.Holds v n k j i .field x := by
  obtain ⟨v, hbinds, hloaded⟩ := horizontal_eq_ok.1 h
  cases hloaded with
  | static hshape hread hdata =>
    exact ⟨v, _, hbinds, .static hshape hread hdata
      (Tensor.get2?_eq (hfull.read hread) hdata hj hi Scalar.nan)⟩
  | timed hshape =>
    obtain rfl : step = n := hstep _ rfl
    obtain ⟨data, hread, hclean⟩ := bind_eq_ok.1 hload
    obtain ⟨hdata, -⟩ := HorizontalTerm.clean_eq_ok.1 hclean
    exact ⟨v, _, hbinds, .timed hshape hread hdata
      (Tensor.get2?_eq (hfull.readAt hread) hdata hj hi Scalar.nan)⟩

/-- A term was read with a number for each of `size` levels, or with a single number, or it is a
horizontal term. -/
inductive Reads (r : Recipe ℚ) (formula : Formula) (size : Nat) : String → Prop
  | level {term : String} {target : Option String} {xs : List ℚ}
    (hkind : formula.termKind term = .level) (hread : r.levels formula term target = .ok xs)
    (hlength : xs.length = size) : Reads r formula size term
  | number {term : String} {target : Option String} {y : ℚ}
    (hkind : formula.termKind term = .number) (hread : r.number formula term target = .ok y) :
    Reads r formula size term
  | field {term : String} (hkind : formula.termKind term = .field)
    (hterm : term ∈ formula.horizontalTerms) : Reads r formula size term

/-- Every term that is used was read. -/
theorem Columns.reads [Hyperbolic ℚ] {c : Column ℚ} (h : r.Columns unit formula c) :
    ∀ term ∈ formula.usedTerms r.terms, r.Reads formula c.size term := by
  -- The terms are taken in the order of the lists of terms.
  have hcons : ∀ {P : String → Prop} {term terms}, P term → (∀ other ∈ terms, P other) →
      ∀ other ∈ term :: terms, P other := fun h hs => List.forall_mem_cons.2 ⟨h, hs⟩
  have hnil : ∀ {P : String → Prop}, ∀ other ∈ [], P other := fun _ h => by cases h
  cases h with
  | atmosSigma hsigma htop =>
    exact hcons (.level rfl hsigma rfl) <| hcons (.field rfl (by decide)) <|
      hcons (.number rfl htop) hnil
  | hybridSigmaPressure hoffset hshare hlength =>
    unfold pressureOffset at hoffset
    show ∀ term ∈ if r.terms.contains "ap" then _ else _, _
    split_ifs at hoffset ⊢
    · exact hcons (.level rfl hoffset hlength) <| hcons (.level rfl hshare rfl) <|
        hcons (.field rfl (by decide)) hnil
    · obtain ⟨reference, hreference, hoffset⟩ := bind_eq_ok.1 hoffset
      obtain ⟨factors, hfactors, hoffset⟩ := bind_eq_ok.1 hoffset
      cases hoffset
      rw [List.length_map] at hlength
      exact hcons (.level rfl hfactors hlength) <| hcons (.level rfl hshare rfl) <|
        hcons (.field rfl (by decide)) <| hcons (.number rfl hreference) hnil
  | hybridHeight hoffset hshare hlength =>
    exact hcons (.level rfl hoffset rfl) <| hcons (.level rfl hshare hlength.symm) <|
      hcons (.field rfl (by decide)) hnil
  | oceanSigma hsigma =>
    exact hcons (.level rfl hsigma rfl) <| hcons (.field rfl (by decide)) <|
      hcons (.field rfl (by decide)) hnil
  | oceanS hs ha hb hcritical =>
    exact hcons (.level rfl hs rfl) <| hcons (.field rfl (by decide)) <|
      hcons (.field rfl (by decide)) <| hcons (.number rfl ha) <| hcons (.number rfl hb) <|
        hcons (.number rfl hcritical) hnil
  | oceanSG1 hs hcurve hlength hcritical | oceanSG2 hs hcurve hlength hcritical =>
    exact hcons (.level rfl hs rfl) <| hcons (.level rfl hcurve hlength.symm) <|
      hcons (.field rfl (by decide)) <| hcons (.field rfl (by decide)) <|
        hcons (.number rfl hcritical) hnil

end Recipe

/-- If the planes can be read, each horizontal term can be loaded. -/
theorem FormulaSource.exists_load_of_planes {f : FormulaSource ℚ} {step : Nat}
    {planes : Tensor ℚ × Tensor ℚ} (h : f.planes step = .ok planes) :
    ∀ g ∈ f.terms, ∃ plane, g.load f.base.dataset step = .ok plane := by
  obtain ⟨hsurface, hdepth⟩ := planes_eq_ok.1 h
  intro g hg
  rcases mem_terms.1 hg with rfl | rfl
  · exact ⟨_, hsurface⟩
  · exact ⟨_, hdepth⟩

/-! ### Arrays -/

namespace Recipe

variable [Hyperbolic ℚ] {r : Recipe ℚ} {formula : Formula} {unit : Option String}
  {f : FormulaSource ℚ} {n k j i : Nat}

/-- Where the terms have values, there is an array, and it has the coordinate of the equation. -/
theorem Makes.exists_array (h : r.Makes formula unit f) {x : Reading}
    (hx : x.At r.terms r.dataset formula n k j i)
    (htime : VerticalTransform.TimeAccepted f.base.strictTimeIndex f.base.times n)
    (hk : k < f.base.shape.levels) (hj : j < f.base.shape.rows) (hi : i < f.base.shape.columns) :
    ∃ a, f.array n = .ok a ∧ a.get3? k j i = some (formula.coordinate r.terms
      (x.value r.settings formula formula.dimensionalTerms) *
        formula.outputFactor r.settings unit) := by
  have hunit : unit = x.unit formula := (hx.unit_eq h).symm
  obtain ⟨step, hstep, -⟩ := VerticalBase.timeStep_of_accepted htime
  have hloads : List.Forall₂ (fun term g => ∃ plane,
      HorizontalTerm.load g f.base.dataset step = .ok plane ∧ plane.get2 Scalar.nan j i =
        x.value r.settings formula formula.dimensionalTerms term)
      formula.horizontalTerms f.terms := by
    refine forall₂_imp_mem (fun term hterm g hg hread => ?_) h.terms
    obtain ⟨hused, hkind, hdimension⟩ := Formula.isUsed_of_horizontalTerms hterm
    rw [h.dataset_eq]
    exact hx.exists_load (hused.mem_usedTerms _) (.inl ⟨hdimension, hunit⟩) hread hkind
      (h.eq_of_timeStep hstep g hg)
  obtain ⟨surface, depth, hplanes, hsurface, hdepth⟩ :=
    FormulaSource.exists_planes_of_values hloads
  obtain ⟨a, ha, hentry⟩ := FormulaSource.exists_array hstep hplanes hk hj hi
  exact ⟨a, ha, hentry.trans (congrArg some (h.column.coordinate_eq hx hunit rfl hsurface hdepth))⟩

/-- Where there is an array, the terms have numbers. -/
theorem Makes.exists_holds (h : r.Makes formula unit f) (hfull : r.dataset.Full) {a : Tensor ℚ}
    (ha : f.array n = .ok a) (hk : k < f.base.shape.levels) (hj : j < f.base.shape.rows)
    (hi : i < f.base.shape.columns) {term : String} (hterm : term ∈ formula.usedTerms r.terms) :
    ∃ v x, r.Binds term v ∧ r.dataset.Holds v n k j i (formula.termKind term) x := by
  have hsound : f.Sound r.dataset := h.sound
  -- The array was computed from planes, so each horizontal term was loaded at this time step.
  obtain ⟨step, hstep, ha⟩ := bind_eq_ok.1 ha
  obtain ⟨planes, hplanes, -⟩ := bind_eq_ok.1 ha
  have hlevels : f.column.size = f.base.shape.levels := by
    obtain ⟨times, outUnit, hbase, -⟩ := h.base
    rw [hbase]
    rfl
  cases h.column.reads term hterm with
  | level hkind hread hlength =>
    rw [hkind]
    exact exists_holds_of_levels hread (by omega)
  | number hkind hread =>
    rw [hkind]
    exact exists_holds_of_number hread
  | field hkind hterm =>
    rw [hkind]
    obtain ⟨g, hg, hread⟩ := mem_forall₂ h.terms hterm
    obtain ⟨plane, hload⟩ := FormulaSource.exists_load_of_planes hplanes g hg
    obtain ⟨hrows, hcolumns⟩ := hsound.extent g hg
    rw [h.dataset_eq] at hload
    exact exists_holds_of_horizontal hread hfull hload (h.eq_of_timeStep hstep g hg)
      (hrows ▸ hj) (hcolumns ▸ hi)

/-- Where the terms have values, both ways of looking up a single coordinate give that of the equation. -/
theorem coordinateAt_of_make {t : VerticalTransform ℚ} (hmake : r.make formula = .ok t)
    (hformula : formula ≠ .existingField) {x : Reading}
    (hx : x.At r.terms r.dataset formula n k j i)
    (hp : t.Has r.settings.strictTimeIndex ⟨n, k, j, i⟩) (lookup : VerticalTransform.Lookup) :
    t.coordinateAt lookup n k j i = .ok (formula.coordinate r.terms
      (x.value r.settings formula formula.dimensionalTerms) *
        formula.outputFactor r.settings (x.unit formula)) := by
  obtain ⟨unit, f, rfl, hmakes⟩ := exists_makes hmake hformula
  obtain ⟨s, hs, hcoherent⟩ := coherent_of_make hmake
  cases hs
  obtain ⟨times, outUnit, hbase, -⟩ := hmakes.base
  have htime : VerticalTransform.TimeAccepted f.base.strictTimeIndex f.base.times n := by
    have htime := hp.time
    rw [show r.settings.strictTimeIndex = f.base.strictTimeIndex by rw [hbase]; rfl] at htime
    exact htime
  obtain ⟨a, ha, hentry⟩ := hmakes.exists_array hx htime hp.level hp.row hp.column
  rw [hcoherent.coordinateAt_eq hp lookup, hx.unit_eq hmakes]
  show (fun a : Tensor ℚ => a.get3 Scalar.nan k j i) <$> f.array n = _
  rw [Tensor.get3?_eq_at?] at hentry
  rw [ha, map_ok, Tensor.get3_of_at? hentry]

end Recipe

namespace VerticalTransform

/-- **Arrays satisfy the equations.** Make a formula from attributes whose text binds its terms. At every
time index that is accepted and every point of the grid where the terms have numbers that are not
missing, there is an array, and its entry is the coordinate that the equation gives: pressures and
lengths are converted to the unit of the reference term, pure numbers are taken as they are, and a
pressure is converted to the unit in which pressures are given out. Wherever there is an array, all
terms have numbers. -/
theorem array_follows_formula [Hyperbolic ℚ] {name text : String} {d : Dataset ℚ}
    {attributes : Attributes ℚ} {settings : Settings} {f : FormulaTerms} {t : VerticalTransform ℚ}
    (htext : attributes.text? Attributes.Name.formulaTerms = some text)
    (hterms : FormulaTerms.ofText text = .ok f)
    (hmake : Recipe.of name d attributes settings >>= Catalog.standard.make = .ok t)
    (hformula : t.formula ≠ .existingField) {n k j i : Nat}
    (htime : TimeAccepted settings.strictTimeIndex t.times n)
    (hk : k < t.shape.levels) (hj : j < t.shape.rows) (hi : i < t.shape.columns) :
    (∀ x : Reading, x.At f d t.formula n k j i → ∃ a, t.array n = .ok a ∧
      a.get3? k j i = some (t.formula.coordinate f
        (x.value settings t.formula t.formula.dimensionalTerms) *
          t.formula.outputFactor settings (x.unit t.formula))) ∧
    (d.Full → ∀ a, t.array n = .ok a → ∀ term ∈ t.formula.usedTerms f, ∃ var v x,
      f.Binds term var ∧ d.find? var = some v ∧ d.Holds v n k j i (t.formula.termKind term) x) := by
  obtain ⟨r, hr, hmake⟩ := bind_eq_ok.1 hmake
  obtain rfl : r = ⟨name, d, attributes, f, settings⟩ := by
    unfold Recipe.of at hr
    rw [htext] at hr
    dsimp only at hr
    rw [hterms] at hr
    cases hr
    rfl
  obtain ⟨formula, hmade⟩ := Catalog.isBuiltIn_standard.exists_make hmake
  rw [Recipe.formula_of_make hmade] at hformula ⊢
  obtain ⟨unit, s, rfl, hmakes⟩ := Recipe.exists_makes hmade hformula
  obtain ⟨times, outUnit, hbase, -⟩ := hmakes.base
  have hstrict : s.base.strictTimeIndex = settings.strictTimeIndex := by
    rw [hbase]
    rfl
  constructor
  · intro x hx
    rw [hx.unit_eq hmakes]
    exact hmakes.exists_array hx (hstrict ▸ htime) hk hj hi
  · intro hfull a ha term hterm
    obtain ⟨v, x, ⟨var, hvar, hfind⟩, hholds⟩ := hmakes.exists_holds hfull ha hk hj hi hterm
    exact ⟨var, v, x, FormulaTerms.find?_eq_some.1 hvar, hfind, hholds⟩

/-- One layer, whose terms have units of their own, under a pressure at two times. -/
def mixedUnits : Except Error (Library ℚ) := do
  let lib ← Library.addNamed Dictionary.empty "sigma" ["z"] (some "Pa") (.ofList [1 / 2])
  let lib ← lib.addNamed "ptop" [] (some "Pa") (.scalar 10000)
  lib.addNamed "ps" ["t", "y", "x"] (some "hPa") ⟨[2, 1, 1], #[1000, 900]⟩

/-- The bindings of its terms. -/
def mixedTerms : FormulaTerms := ⟨[("sigma", "sigma"), ("ps", "ps"), ("ptop", "ptop")]⟩

/-- Its terms at the second time. -/
def mixedReading : Reading where
  var
    | "sigma" => .withUnits ⟨"sigma", ["z"], [1], Dictionary.empty⟩ "Pa"
    | "ptop" => .withUnits ⟨"ptop", [], [], Dictionary.empty⟩ "Pa"
    | _ => .withUnits ⟨"ps", ["t", "y", "x"], [2, 1, 1], Dictionary.empty⟩ "hPa"
  number
    | "sigma" => 1 / 2
    | "ptop" => 10000
    | _ => 900

theorem mixedReading_at {lib : Library ℚ} (h : mixedUnits = .ok lib) :
    mixedReading.At mixedTerms lib.toDataset .atmosSigma 1 0 0 0 := by
  cases h
  refine ⟨?_, ?_, ?_⟩
  · show ∀ term ∈ ["sigma", "ps", "ptop"], _
    simp only [List.forall_mem_cons, List.not_mem_nil, false_implies, implies_true, and_true]
    exact ⟨⟨_, FormulaTerms.find?_eq_some.1 rfl, rfl⟩, ⟨_, FormulaTerms.find?_eq_some.1 rfl, rfl⟩,
      ⟨_, FormulaTerms.find?_eq_some.1 rfl, rfl⟩⟩
  · show ∀ term ∈ ["sigma", "ps", "ptop"], _
    simp only [List.forall_mem_cons, List.not_mem_nil, false_implies, implies_true, and_true]
    exact ⟨.level rfl rfl, .timed rfl rfl rfl rfl, .number rfl rfl⟩
  · decide

theorem mixedUnits_eq : ∃ lib r s a, mixedUnits = .ok lib ∧
    Recipe.of Blueprint.defaultName lib.toDataset airPressure.attributes {} = .ok r ∧
    r.key? = some Formula.atmosSigma.name ∧ r.atmosSigma = .ok s ∧
    s.base.formula = .atmosSigma ∧ s.base.shape = ⟨1, 1, 1⟩ ∧ s.base.times = some 2 ∧
    s.array 1 = .ok a ∧ a.get3? 0 0 0 = some 500 :=
  ⟨_, _, _, _, rfl, rfl, rfl, rfl, rfl, rfl, rfl, rfl, by decide +kernel⟩

theorem make_mixedUnits : ∃ lib t a, mixedUnits = .ok lib ∧
    Recipe.of Blueprint.defaultName lib.toDataset airPressure.attributes {} >>=
      (@Catalog.standard ℚ _ nearZero).make = .ok t ∧
    t.formula = .atmosSigma ∧ t.shape = ⟨1, 1, 1⟩ ∧ t.times = some 2 ∧
    t.array 1 = .ok a ∧ a.get3? 0 0 0 = some 500 := by
  obtain ⟨lib, r, s, a, hlib, hr, hkey, hs, hformula, hshape, htimes, ha, hentry⟩ := mixedUnits_eq
  refine ⟨lib, .source s.source, a, hlib, bind_eq_ok.2 ⟨r, hr, ?_⟩, hformula, hshape, htimes, ha, hentry⟩
  exact @Catalog.make_standard ℚ _ nearZero _ .atmosSigma _ hkey (map_eq_ok.2 ⟨s, hs, rfl⟩)

/-- The surface pressure of 900 hPa at the second time, halfway to the top at 10000 Pa. -/
theorem array_follows_formula_mixedUnits :
    ∃ lib t a, mixedUnits = .ok lib ∧
      Recipe.of Blueprint.defaultName lib.toDataset airPressure.attributes {} >>=
        (@Catalog.standard ℚ _ nearZero).make = .ok t ∧
      t.array 1 = .ok a ∧ a.get3? 0 0 0 = some 500 := by
  obtain ⟨lib, t, -, hlib, hmake, hformula, hshape, htimes, -⟩ := make_mixedUnits
  have htime : TimeAccepted false t.times 1 := by
    rw [htimes]
    exact Nat.one_lt_two
  obtain ⟨hentry, -⟩ := @array_follows_formula nearZero _ _ _ _ _ mixedTerms t
    (show _ = some "sigma: sigma ps: ps ptop: ptop" from rfl) rfl hmake (by simp [hformula])
    1 0 0 0 htime (by simp [hshape]) (by simp [hshape]) (by simp [hshape])
  rw [hformula] at hentry
  obtain ⟨a, ha, ha'⟩ := hentry mixedReading (mixedReading_at hlib)
  refine ⟨lib, t, a, hlib, hmake, ha, ha'.trans (congrArg some ?_)⟩
  decide +kernel

/-- Pure numbers are taken as they are also if they have a unit. If all terms were converted to the unit
of the surface pressure, there would be 104 hPa here. -/
theorem not_all_terms_converted :
    ∃ lib t a, mixedUnits = .ok lib ∧
      airPressure.attributes.text? Attributes.Name.formulaTerms =
        some "sigma: sigma ps: ps ptop: ptop" ∧
      FormulaTerms.ofText "sigma: sigma ps: ps ptop: ptop" = .ok mixedTerms ∧
      Recipe.of Blueprint.defaultName lib.toDataset airPressure.attributes {} >>=
        (@Catalog.standard ℚ _ nearZero).make = .ok t ∧
      TimeAccepted false t.times 1 ∧ t.shape = ⟨1, 1, 1⟩ ∧
      mixedReading.At mixedTerms lib.toDataset t.formula 1 0 0 0 ∧ t.array 1 = .ok a ∧
      a.get3? 0 0 0 ≠ some (@Formula.coordinate nearZero mixedTerms
        (mixedReading.value {} t.formula (t.formula.usedTerms mixedTerms)) t.formula *
          t.formula.outputFactor {} (mixedReading.unit t.formula)) := by
  obtain ⟨lib, t, a, hlib, hmake, hformula, hshape, htimes, ha, hentry⟩ := make_mixedUnits
  have htime : TimeAccepted false t.times 1 := by
    rw [htimes]
    exact Nat.one_lt_two
  refine ⟨lib, t, a, hlib, rfl, rfl, hmake, htime, hshape, ?_, ha, ?_⟩
  · rw [hformula]
    exact mixedReading_at hlib
  · rw [hformula, hentry]
    decide +kernel

end VerticalTransform

end Gridded
