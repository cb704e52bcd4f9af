import Gridded.Proofs.Vertical.Formulas
import Gridded.Proofs.Vertical.Reexpressing

/-!
# Pressure offsets over a bare surface

Where pressures are given out, a surface pressure without a unit counts as pascals. Where they are read, the
pressures that are added to it are not converted to pascals but taken as they are, whatever their unit. So
the coordinate follows the numbers of the offset, and changes if the same offset is expressed in another
unit.

* `Formula.offset`: what a formula adds to its share of the surface pressure;
* `Recipe.Exchanges`: an offset over a bare surface that is expressed in another unit;
* `Recipe.Exchanges.paired_make`: both recipes make transforms on the same grid, or neither does;
* `Recipe.Exchanges.exists_at`: what the second recipe has where the first one has numbers;
* `VerticalTransform.follows_offset`: how far the coordinates are apart.
-/

namespace Gridded

theorem Paired.attach {ε α β : Type} {R : α → β → Prop} {x : Except ε α} {y : Except ε β}
    (h : Paired R x y) : Paired (fun a b => x = .ok a ∧ y = .ok b ∧ R a b) x y := by
  cases h with
  | error e e' => exact .error e e'
  | ok hab => exact .ok ⟨rfl, rfl, hab⟩

/-! ### Offsets -/

namespace Formula

/-- What a pressure formula adds to a share of the surface pressure, where the terms have the values `x`. -/
def offset (f : FormulaTerms) (x : String → ℚ) : Formula → ℚ
  | atmosSigma => x "ptop" * (1 - x "sigma")
  | hybridSigmaPressure => if f.contains "ap" then x "ap" else x "a" * x "p0"
  | _ => 0

/-- The term is the pressure of the offset. -/
def IsOffsetTerm (formula : Formula) (f : FormulaTerms) (term : String) : Prop :=
  term ∈ formula.usedTerms f ∧ term ∈ formula.dimensionalTerms ∧ term ≠ "ps"

variable {formula : Formula} {f : FormulaTerms} {term : String}

theorem usedTerms_hybridSigmaPressure (f : FormulaTerms) : hybridSigmaPressure.usedTerms f =
    if f.contains "ap" then ["ap", "b", "ps"] else ["a", "b", "ps", "p0"] := rfl

/-- Pressures over a bare surface are converted from pascals to the unit in which they are given out. -/
theorem output_of_bare {settings : Settings} {target : String}
    (hconvert : settings.convertTermUnits = true) (h : formula.GivenIn settings target) :
    formula.outputUnit settings none = some target ∧ formula.outputFactor settings none ≠ 0 := by
  have hpascal : measures formula.quantity "Pa" = true := by
    rw [quantity, if_pos h.1]
    decide +kernel
  obtain ⟨hunit, hfactor⟩ := outputUnit_of_givenIn hconvert hpascal h
  obtain ⟨hpressure, hsettings, htarget⟩ := h
  constructor
  · have hconversion : (conversionFactor? (α := ℚ) "Pa" target).isSome := by
      rw [quantity, if_pos hpressure] at hpascal
      rw [Settings.conversionFactor?_of_measures hconvert hpascal, if_pos htarget]
      rfl
    simp only [outputUnit, hpressure, hsettings, Option.getD_none, hconversion, if_true]
  · have hsame : formula.outputFactor settings none = formula.outputFactor settings (some "Pa") := by
      simp only [outputFactor, Option.getD_none, Option.getD_some]
    rw [hsame, hfactor]
    exact settings.conversion_ne_zero _ _

/-- There is one such term, which depends on what is bound. -/
theorem IsOffsetTerm.eq (hterm : hybridSigmaPressure.IsOffsetTerm f term) :
    term = if f.contains "ap" then "ap" else "p0" := by
  have hdirect : ∀ term ∈ ["ap", "b", "ps"], term ∈ hybridSigmaPressure.dimensionalTerms →
      term ≠ "ps" → term = "ap" := by decide
  have hshared : ∀ term ∈ ["a", "b", "ps", "p0"], term ∈ hybridSigmaPressure.dimensionalTerms →
      term ≠ "ps" → term = "p0" := by decide
  obtain ⟨hused, hdimensional, hne⟩ := hterm
  rw [usedTerms_hybridSigmaPressure] at hused
  split_ifs at hused ⊢
  · exact hdirect term hused hdimensional hne
  · exact hshared term hused hdimensional hne

/-- The offset is multiplied with its pressure, and the share of the surface pressure stays. -/
theorem coordinate_exchange [Hyperbolic ℚ] (hpressure : formula.isPressure = true)
    (hterm : formula.IsOffsetTerm f term) (x : String → ℚ) (c : ℚ) :
    formula.coordinate f (fun other => x other * if other = term then c else 1) =
      formula.coordinate f x + (c - 1) * formula.offset f x := by
  cases formula with
  | atmosSigma =>
    have htop : ∀ term ∈ atmosSigma.dimensionalTerms, term ≠ "ps" → term = "ptop" := by decide
    obtain rfl := htop term hterm.2.1 hterm.2.2
    simp only [coordinate, offset, reduceIte, String.reduceEq, mul_one]
    ring
  | hybridSigmaPressure =>
    obtain rfl := hterm.eq
    cases hap : f.contains "ap" <;>
      simp only [coordinate, offset, hap, Bool.false_eq_true, reduceIte, String.reduceEq, mul_one] <;>
      ring
  | _ => cases hpressure

end Formula

/-! ### The same numbers, multiplied -/

/-- Where a variable has a number, one with its numbers multiplied has the multiplied number. -/
theorem Dataset.Holds.multiplies {d d' : Dataset ℚ} {v v' : Variable ℚ} {n k j i : Nat}
    {kind : TermKind} {x c : ℚ} (hx : d.Holds v n k j i kind x) (h : v.Multiplies d d' c v') :
    d'.Holds v' n k j i kind (x * c) := by
  have hplane : ∀ {data : Tensor ℚ}, data.get2? j i = some x →
      (data.map (· * c)).get2? j i = some (x * c) := by
    intro data hentry
    rw [Tensor.get2?_map, hentry]
    rfl
  cases hx with
  | level hread hentry =>
    obtain ⟨_, hread', rfl⟩ := h.read.exists_ok hread
    exact .level hread' (by simp [Tensor.map, hentry])
  | number hread hentry =>
    obtain ⟨_, hread', rfl⟩ := h.read.exists_ok hread
    exact .number hread' (by simp [Tensor.map, hentry])
  | static hshape hread hdata hentry =>
    obtain ⟨_, hread', rfl⟩ := h.read.exists_ok hread
    exact .static (h.shape.trans hshape) hread' hdata (hplane hentry)
  | timed hshape hread hdata hentry =>
    obtain ⟨_, hread', rfl⟩ := (h.readAt n).exists_ok hread
    exact .timed (h.shape.trans hshape) hread' hdata (hplane hentry)

/-- Under a bare reference term, numbers are taken as they are. -/
theorem Reading.value_of_bare {x : Reading} {formula : Formula} (h : x.unit formula = none)
    (settings : Settings) (converted : List String) :
    x.value settings formula converted = x.number := by
  funext term
  rw [value, h, Settings.conversion_none, mul_one, ite_self]

namespace Recipe

/-- The surface pressure has no unit. The term `term` of the pressure offset has known units of pressure in
both recipes, and its numbers are converted from that of `r` to that of `r'`, by the factor `c`. Nothing else
changes. -/
structure Exchanges (r r' : Recipe ℚ) (formula : Formula) (term : String) (c : ℚ) : Prop where
  settings : r'.settings = r.settings
  terms : r'.terms = r.terms
  bare : ∃ v, r.Binds "ps" v ∧ v.units? = none
  offset : formula.IsOffsetTerm r.terms term
  kept : ∀ other ∈ formula.usedTerms r.terms, other ≠ term → r.Keeps r' other
  exchanged : r.Reexpresses r' .pressure term
  factor : ∀ v v' unit unit', r.Binds term v → r'.Binds term v' → v.units? = some unit →
    v'.units? = some unit' → conversionFactor? unit unit' = some c

namespace Exchanges

variable {r r' : Recipe ℚ} {formula : Formula} {term other : String} {c : ℚ} {n k j i : Nat}

/-- The numbers of all terms stay, but those of the offset. -/
theorem exists_multiplies (h : r.Exchanges r' formula term c)
    (hother : other ∈ formula.usedTerms r.terms) : ∃ v v', r.Binds other v ∧ r'.Binds other v' ∧
      v.Multiplies r.dataset r'.dataset (if other = term then c else 1) v' := by
  by_cases hne : other = term
  · subst hne
    obtain ⟨v, v', unit, unit', c', hv, hv', hunit, -, hunit', -, hc, hnumbers⟩ := h.exchanged
    obtain rfl : c' = c := Option.some.inj (hc.symm.trans (h.factor v v' unit unit' hv hv' hunit hunit'))
    exact ⟨v, v', hv, hv', by rwa [if_pos rfl]⟩
  · obtain ⟨v, v', hv, hv', -, hnumbers⟩ := h.kept other hother hne
    exact ⟨v, v', hv, hv', by rwa [if_neg hne]⟩

/-- Without a unit to convert to, the numbers are read as they are. -/
theorem carries (h : r.Exchanges r' formula term c) (other : String)
    (hother : other ∈ formula.usedTerms r.terms) :
    r.Carries r' none none (if other = term then c else 1) other := by
  obtain ⟨v, v', hv, hv', hnumbers⟩ := h.exists_multiplies hother
  refine ⟨v, v', _, hv, hv', hnumbers, ?_⟩
  rw [unitFactor_none, unitFactor_none, mul_one, one_mul]

/-- The surface pressure has no unit in either recipe. -/
theorem units_eq_none (h : r.Exchanges r' formula term c) (hps : "ps" ∈ formula.usedTerms r.terms)
    {v v' : Variable ℚ} (hv : r.Binds "ps" v) (hv' : r'.Binds "ps" v') :
    v.units? = none ∧ v'.units? = none := by
  obtain ⟨x, hx, hnone⟩ := h.bare
  obtain ⟨y, y', hy, hy', hunits, -⟩ := h.kept "ps" hps h.offset.2.2.symm
  rw [hv.unique hx, hv'.unique hy', hunits, hy.unique hx]
  exact ⟨hnone, hnone⟩

/-- Where the terms of the first recipe have numbers, those of the second one have the same numbers, and
the offset is converted. -/
theorem exists_at (h : r.Exchanges r' formula term c) {x : Reading}
    (hx : x.At r.terms r.dataset formula n k j i) :
    ∃ var, Reading.At ⟨var, fun other => x.number other * if other = term then c else 1⟩
      r'.terms r'.dataset formula n k j i := by
  have hall : ∀ other ∈ formula.usedTerms r.terms, ∃ v', r'.Binds other v' ∧ v'.Unmarked ∧
      r'.dataset.Holds v' n k j i (formula.termKind other)
        (x.number other * if other = term then c else 1) := by
    intro other hother
    obtain ⟨v, v', hv, hv', hnumbers⟩ := h.exists_multiplies hother
    have hholds := hx.holds other hother
    rw [(hx.binds hother).unique hv] at hholds
    exact ⟨v', hv', hnumbers.unmarked.2, hholds.multiplies hnumbers⟩
  have : Nonempty (Variable ℚ) := ⟨⟨"", [], [], Dictionary.empty⟩⟩
  choose! var hvar using hall
  refine ⟨var, fun other hother => ?_, fun other hother => ?_, fun other hother => ?_⟩ <;>
    rw [h.terms] at hother <;> obtain ⟨hbinds, hmarks, hholds⟩ := hvar other hother
  · obtain ⟨name, hname, hfind⟩ := hbinds
    exact ⟨name, FormulaTerms.find?_eq_some.1 hname, hfind⟩
  · exact hholds
  · show (var other).missing.covers _ = false
    rw [hmarks]
    rfl

/-- A pressure formula takes its unit from the surface pressure, which has none. -/
theorem unit_eq_none (h : r.Exchanges r' formula term c) (hpressure : formula.isPressure = true)
    {x y : Reading} (hx : x.At r.terms r.dataset formula n k j i)
    (hy : y.At r'.terms r'.dataset formula n k j i) :
    x.unit formula = none ∧ y.unit formula = none := by
  have hreference : formula.referenceTerm = some "ps" := by
    cases formula <;> first | rfl | cases hpressure
  have hused := Formula.isUsed_of_referenceTerm hreference
  simp only [Reading.unit, hreference]
  exact h.units_eq_none (hused.mem_usedTerms _) (hx.binds (hused.mem_usedTerms _))
    (hy.binds (hused.mem_usedTerms _))

/-- Both sources are on the same grid, with the same time steps, and give pressures out in the unit that
belongs to a bare surface. -/
structure SameFrame (formula : Formula) (settings : Settings) (f f' : FormulaSource ℚ) : Prop where
  shape : f'.base.shape = f.base.shape
  times : f'.base.times = f.base.times
  unit : f.base.unit = formula.outputUnit settings none
  unit' : f'.base.unit = formula.outputUnit settings none

theorem sameFrame_overSurface (h : r.Exchanges r' formula term c)
    (hpressure : formula.isPressure = true) {column column' : Column ℚ}
    (hsize : column'.size = column.size) {g g' : HorizontalTerm ℚ} {factor : ℚ}
    (hg : g.Multiplies r.dataset r'.dataset factor g') :
    SameFrame formula r.settings (r.overSurface formula column g (r.pressureOutput none).1)
      (r'.overSurface formula column' g' (r'.pressureOutput none).1) where
  shape := by
    show GridShape.mk column'.size g'.rows g'.columns = ⟨column.size, g.rows, g.columns⟩
    rw [hsize, hg.sides.1, hg.sides.2]
  times := hg.times
  unit := pressureOutput_unit_eq r hpressure none
  unit' := by
    rw [← h.settings]
    exact pressureOutput_unit_eq r' hpressure none

theorem paired_atmosSigma (h : r.Exchanges r' .atmosSigma term c) :
    Paired (SameFrame .atmosSigma r.settings) r.atmosSigma r'.atmosSigma := by
  have hcarries : ∀ other ∈ ["sigma", "ps", "ptop"], _ := h.carries
  unfold atmosSigma
  refine (paired_horizontal (hcarries "ps" (by decide))).bind ?_
  rintro g g' ⟨hv, hv', hg⟩
  obtain ⟨hunit, hunit'⟩ := h.units_eq_none (show "ps" ∈ ["sigma", "ps", "ptop"] by decide) hv hv'
  rw [hunit, hunit']
  refine (paired_levels (hcarries "sigma" (by decide))).bind ?_
  rintro sigma _ rfl
  refine (paired_number (hcarries "ptop" (by decide))).bind ?_
  rintro top _ rfl
  refine .ok (h.sameFrame_overSurface rfl ?_ hg)
  exact List.length_map _

/-- The offset has as many levels, whichever of its terms are used. -/
theorem paired_pressureOffset (h : r.Exchanges r' .hybridSigmaPressure term c) :
    Paired (fun xs xs' => xs'.length = xs.length) (r.pressureOffset none)
      (r'.pressureOffset none) := by
  have hcarries : ∀ other ∈ Formula.hybridSigmaPressure.usedTerms r.terms, _ := h.carries
  rw [Formula.usedTerms_hybridSigmaPressure] at hcarries
  unfold pressureOffset
  rw [h.terms]
  split_ifs at hcarries ⊢
  · refine (paired_levels (hcarries "ap" (by decide))).mono ?_
    rintro xs _ rfl
    exact List.length_map _
  · refine (paired_number (hcarries "p0" (by decide))).bind ?_
    rintro reference _ rfl
    refine (paired_levels (hcarries "a" (by decide))).bind ?_
    rintro share _ rfl
    exact .ok (by simp)

theorem paired_hybridSigmaPressure (h : r.Exchanges r' .hybridSigmaPressure term c) :
    Paired (SameFrame .hybridSigmaPressure r.settings) r.hybridSigmaPressure
      r'.hybridSigmaPressure := by
  have hps : "ps" ∈ Formula.hybridSigmaPressure.usedTerms r.terms :=
    Formula.IsUsed.mem_usedTerms (by decide) _
  have hb : "b" ∈ Formula.hybridSigmaPressure.usedTerms r.terms :=
    Formula.IsUsed.mem_usedTerms (by decide) _
  unfold hybridSigmaPressure
  refine (paired_horizontal (h.carries "ps" hps)).bind ?_
  rintro g g' ⟨hv, hv', hg⟩
  obtain ⟨hunit, hunit'⟩ := h.units_eq_none hps hv hv'
  rw [hunit, hunit']
  refine (paired_levels (h.carries "b" hb)).bind ?_
  rintro share _ rfl
  refine h.paired_pressureOffset.bind fun offset offset' hlength => ?_
  refine (paired_sameLevels r r' _ _ hlength (List.length_map _)).bind fun _ _ _ => ?_
  refine .ok (h.sameFrame_overSurface rfl ?_ hg)
  exact List.length_map _

/-- Both recipes make a transform, or neither does, and these are on the same grid. -/
theorem paired_make [Hyperbolic ℚ] (h : r.Exchanges r' formula term c)
    (hpressure : formula.isPressure = true) :
    Paired (fun t t' => t'.shape = t.shape ∧ t'.times = t.times ∧
      t.unit = formula.outputUnit r.settings none ∧ t'.unit = formula.outputUnit r.settings none)
      (r.make formula) (r'.make formula) := by
  cases formula with
  | atmosSigma => exact h.paired_atmosSigma.map fun f f' hf => ⟨hf.shape, hf.times, hf.unit, hf.unit'⟩
  | hybridSigmaPressure =>
    exact h.paired_hybridSigmaPressure.map fun f f' hf => ⟨hf.shape, hf.times, hf.unit, hf.unit'⟩
  | _ => cases hpressure

end Exchanges

end Recipe

/-! ### What is answered -/

namespace VerticalTransform

/-- **Over a bare surface, the coordinate follows the numbers of the offset.** Take two recipes of a pressure
formula whose settings ask for conversions and for pressures in a unit of their own, over a surface pressure
without a unit. In the second recipe the pressure of the offset is expressed in another unit, whose numbers
are `c` times those in the first unit. Then either both recipes make a transform or neither does. Both
transforms give pressures out in the unit that is asked for, on the same grid. At every point where the
terms have numbers, the coordinates differ by `c - 1` times the offset, converted to that unit. They are the
same exactly if both units of the offset have one size, or nothing is added there. -/
theorem follows_offset [Hyperbolic ℚ] {r r' : Recipe ℚ} {formula : Formula} {term target : String}
    {c : ℚ} (hgiven : formula.GivenIn r.settings target) (hconvert : r.settings.convertTermUnits = true)
    (h : r.Exchanges r' formula term c) :
    Paired (fun t t' => t.unit = some target ∧ t'.unit = some target ∧
      t'.shape = t.shape ∧ t'.times = t.times ∧
      ∀ n k j i, t.Has r.settings.strictTimeIndex ⟨n, k, j, i⟩ →
        ∀ x : Reading, x.At r.terms r.dataset formula n k j i → ∀ lookup, ∃ z z',
          t.coordinateAt lookup n k j i = .ok z ∧ t'.coordinateAt lookup n k j i = .ok z' ∧
          z' - z = (c - 1) * formula.offset r.terms x.number *
            formula.outputFactor r.settings none ∧
          (z' = z ↔ c = 1 ∨ formula.offset r.terms x.number = 0))
      (r.make formula) (r'.make formula) := by
  obtain ⟨hunit, hfactor⟩ := Formula.output_of_bare hconvert hgiven
  have hpressure := hgiven.1
  have hstored : formula ≠ .existingField := by
    rintro rfl
    cases hpressure
  refine (h.paired_make hpressure).attach.mono ?_
  rintro t t' ⟨hmake, hmake', hshape, htimes, houtput, houtput'⟩
  refine ⟨houtput.trans hunit, houtput'.trans hunit, hshape, htimes, fun n k j i hp x hx lookup => ?_⟩
  obtain ⟨var, hy⟩ := h.exists_at hx
  have hp' : t'.Has r'.settings.strictTimeIndex ⟨n, k, j, i⟩ := by
    rw [h.settings]
    exact ⟨htimes ▸ hp.time, hshape ▸ hp.level, hshape ▸ hp.row, hshape ▸ hp.column⟩
  obtain ⟨hbare, hbare'⟩ := h.unit_eq_none hpressure hx hy
  have hz := Recipe.coordinateAt_of_make hmake hstored hx hp lookup
  have hz' := Recipe.coordinateAt_of_make hmake' hstored hy hp' lookup
  rw [hbare, Reading.value_of_bare hbare] at hz
  rw [hbare', Reading.value_of_bare hbare', h.settings, h.terms,
    Formula.coordinate_exchange hpressure h.offset] at hz'
  generalize formula.coordinate r.terms x.number = pressure at hz hz'
  generalize formula.offset r.terms x.number = offset at hz' ⊢
  generalize formula.outputFactor r.settings none = factor at hfactor hz hz' ⊢
  have hsub : (pressure + (c - 1) * offset) * factor - pressure * factor =
      (c - 1) * offset * factor := by ring
  refine ⟨_, _, hz, hz', hsub, ?_⟩
  rw [← sub_eq_zero, hsub]
  simp [hfactor, sub_eq_zero]

/-- Two layers above a ground whose pressure has no unit, under a top at 1000 Pa. -/
def bareGround : Except Error (Library ℚ) := do
  let lib ← Library.addNamed Dictionary.empty "sigma" ["z"] none (.ofList [1 / 2, 1])
  let lib ← lib.addNamed "ptop" [] (some "Pa") (.scalar 1000)
  lib.addNamed "ps" ["t", "y", "x"] none ⟨[1, 1, 1], #[100000]⟩

/-- What the pressure in the layers is made from. It is asked for in pascals. -/
def bareRecipe (lib : Library ℚ) : Recipe ℚ :=
  { layerRecipe lib with settings := { outputPressureUnit := some "Pa" } }

/-- The same with the top at 10 hPa. -/
def bareRecipeInHectopascals (lib : Library ℚ) : Recipe ℚ :=
  (bareRecipe lib).readFrom (lib.toDataset.reexpress "ptop" "hPa" (1 / 100))

theorem built_of_bareGround {lib : Library ℚ} (h : bareGround = .ok lib) : lib.Built := by
  obtain ⟨lib₁, h₁, h⟩ := bind_eq_ok.1 h
  obtain ⟨lib₂, h₂, h⟩ := bind_eq_ok.1 h
  refine ((Library.Built.empty.addNamed ?_ h₁).addNamed ?_ h₂).addNamed ?_ h <;> rfl

theorem exchanges_bareGround {lib : Library ℚ} (h : bareGround = .ok lib) :
    (bareRecipe lib).Exchanges (bareRecipeInHectopascals lib) .atmosSigma "ptop" (1 / 100) := by
  have hbuilt := built_of_bareGround h
  obtain ⟨hpa, hhpa, -, hfactor⟩ := units_of_layer
  obtain ⟨lib₁, h₁, h⟩ := bind_eq_ok.1 h
  obtain ⟨lib₂, h₂, h⟩ := bind_eq_ok.1 h
  obtain ⟨sigma, -, hmarks, hfind₁⟩ := Library.find?_addNamed h₁
  obtain ⟨ptop, hptop, hmarks₂, hfind₂⟩ := Library.find?_addNamed h₂
  obtain ⟨ps, hps, hmarks₃, hfind⟩ := Library.find?_addNamed h
  have hsigma : lib.toDataset.find? "sigma" = some sigma := by simp [hfind, hfind₂, hfind₁]
  have htop : lib.toDataset.find? "ptop" = some ptop := by simp [hfind, hfind₂]
  have hground : lib.toDataset.find? "ps" = some ps := by simp [hfind]
  have hused : "ptop" ∈ Formula.atmosSigma.usedTerms (bareRecipe lib).terms :=
    show "ptop" ∈ ["sigma", "ps", "ptop"] by decide
  refine ⟨rfl, rfl, ⟨ps, ⟨"ps", rfl, hground⟩, hps⟩, ⟨hused, by decide, by decide⟩, ?_,
    Recipe.reexpresses_reexpress rfl htop (hbuilt.name_eq htop) hmarks₂ hptop hpa hhpa hfactor, ?_⟩
  · show ∀ other ∈ ["sigma", "ps", "ptop"], _
    simp only [List.forall_mem_cons, List.not_mem_nil, false_implies, implies_true, and_true]
    exact ⟨fun _ => Recipe.keeps_reexpress rfl hsigma (hbuilt.name_eq hsigma) hmarks (by decide),
      fun _ => Recipe.keeps_reexpress rfl hground (hbuilt.name_eq hground) hmarks₃ (by decide),
      fun hne => absurd rfl hne⟩
  · intro v v' unit unit' hv hv' hunit hunit'
    cases hv.unique ⟨"ptop", rfl, htop⟩
    cases hv'.unique ⟨"ptop", rfl, Dataset.find?_reexpress htop⟩
    rw [hptop] at hunit
    rw [Variable.units?_withUnits] at hunit'
    cases hunit
    cases hunit'
    exact hfactor

theorem bareGround_eq : ∃ lib s a, bareGround = .ok lib ∧ (bareRecipe lib).atmosSigma = .ok s ∧
    s.base.unit = some "Pa" ∧ s.base.shape = ⟨2, 1, 1⟩ ∧ s.base.times = some 1 ∧
    s.array 0 = .ok a ∧ a.entries = #[50500, 100000] :=
  ⟨_, _, _, rfl, rfl, rfl, rfl, rfl, rfl, by decide +kernel⟩

theorem inHectopascals_eq {lib : Library ℚ} (h : bareGround = .ok lib) :
    ∃ s a, (bareRecipeInHectopascals lib).atmosSigma = .ok s ∧ s.base.unit = some "Pa" ∧
      s.array 0 = .ok a ∧ a.entries = #[50005, 100000] := by
  have hvalues : (bareGround >>= fun lib => do
      let s ← (bareRecipeInHectopascals lib).atmosSigma
      let a ← s.array 0
      return (s.base.unit, a.entries)).toOption = some (some "Pa", #[50005, 100000]) := by
    decide +kernel
  rw [h, ok_bind] at hvalues
  cases hs : (bareRecipeInHectopascals lib).atmosSigma with
  | error e =>
    rw [hs] at hvalues
    cases hvalues
  | ok s =>
    rw [hs, ok_bind] at hvalues
    cases ha : s.array 0 with
    | error e =>
      rw [ha] at hvalues
      cases hvalues
    | ok a =>
      rw [ha] at hvalues
      obtain ⟨hunit, hentries⟩ := Prod.ext_iff.1 (Option.some.inj hvalues)
      exact ⟨s, a, rfl, hunit, ha, hentries⟩

theorem givenIn_bareGround (lib : Library ℚ) :
    Formula.atmosSigma.GivenIn (bareRecipe lib).settings "Pa" :=
  ⟨rfl, rfl, units_of_layer.1⟩

/-- The terms of the layers, at one where the share of the ground is given. -/
def bareReading (share : ℚ) : Reading where
  var
    | "sigma" => ⟨"sigma", ["z"], [2], Dictionary.empty⟩
    | "ptop" => .withUnits ⟨"ptop", [], [], Dictionary.empty⟩ "Pa"
    | _ => ⟨"ps", ["t", "y", "x"], [1, 1, 1], Dictionary.empty⟩
  number
    | "sigma" => share
    | "ptop" => 1000
    | _ => 100000

theorem bareReading_at {lib : Library ℚ} (h : bareGround = .ok lib) {k : Nat} {share : ℚ}
    (hshare : [1 / 2, 1][k]? = some share) : (bareReading share).At (bareRecipe lib).terms
      (bareRecipe lib).dataset .atmosSigma 0 k 0 0 := by
  cases h
  refine ⟨?_, ?_, ?_⟩ <;> show ∀ term ∈ ["sigma", "ps", "ptop"], _ <;>
    simp only [List.forall_mem_cons, List.not_mem_nil, false_implies, implies_true, and_true]
  · exact ⟨⟨_, FormulaTerms.find?_eq_some.1 rfl, rfl⟩, ⟨_, FormulaTerms.find?_eq_some.1 rfl, rfl⟩,
      ⟨_, FormulaTerms.find?_eq_some.1 rfl, rfl⟩⟩
  · exact ⟨.level rfl (List.getElem?_toArray.trans hshare), .timed rfl rfl rfl rfl, .number rfl rfl⟩
  · exact ⟨rfl, rfl, rfl⟩

/-- If the top of the layers is given in hPa and not in Pa, the pressure in the upper one changes, although
it is given out in pascals. The lower one is at the ground, where nothing is added. -/
theorem follows_offset_bareGround : ∃ lib t t', bareGround = .ok lib ∧
    @Recipe.make ℚ _ nearZero (bareRecipe lib) .atmosSigma = .ok t ∧
    @Recipe.make ℚ _ nearZero (bareRecipeInHectopascals lib) .atmosSigma = .ok t' ∧
    t.unit = some "Pa" ∧ t'.unit = some "Pa" ∧
    t'.coordinateAt .array 0 0 0 0 ≠ t.coordinateAt .array 0 0 0 0 ∧
    t'.coordinateAt .array 0 1 0 0 = t.coordinateAt .array 0 1 0 0 := by
  obtain ⟨lib, s, a, hlib, hs, -, hshape, htimes, -⟩ := bareGround_eq
  have hmake : @Recipe.make ℚ _ nearZero (bareRecipe lib) .atmosSigma = .ok (.source s.source) :=
    map_eq_ok.2 ⟨s, hs, rfl⟩
  obtain ⟨t', hmake', hunit, hunit', -, -, hpoint⟩ := (@follows_offset nearZero _ _ _ _ "Pa" _
    (givenIn_bareGround lib) rfl (exchanges_bareGround hlib)).exists_ok hmake
  have hshape : (source s.source).shape = ⟨2, 1, 1⟩ := hshape
  have hp : ∀ k < 2, (source s.source).Has (bareRecipe lib).settings.strictTimeIndex ⟨0, k, 0, 0⟩ := by
    refine fun k hk => ⟨?_, by simpa [hshape] using hk, by simp [hshape], by simp [hshape]⟩
    rw [show (source s.source).times = some 1 from htimes]
    exact Nat.one_pos
  obtain ⟨z, z', hz, hz', -, hupper⟩ :=
    hpoint 0 0 0 0 (hp 0 (by decide)) _ (bareReading_at hlib rfl) .array
  obtain ⟨y, y', hy, hy', -, hlower⟩ :=
    hpoint 0 1 0 0 (hp 1 (by decide)) _ (bareReading_at hlib rfl) .array
  refine ⟨lib, _, t', hlib, hmake, hmake', hunit, hunit', ?_, ?_⟩
  · rw [hz, hz', ne_eq, Except.ok.injEq, hupper]
    show ¬((1 / 100 : ℚ) = 1 ∨ 1000 * (1 - 1 / 2 : ℚ) = 0)
    decide +kernel
  · have hnothing : Formula.atmosSigma.offset (bareRecipe lib).terms (bareReading 1).number = 0 := by
      show 1000 * (1 - 1 : ℚ) = 0
      decide +kernel
    rw [hy, hy', hlower.2 (.inr hnothing)]

/-- Two layers over a ground without a unit are at 50500 Pa and 100000 Pa under a top at 1000 Pa, and at
50005 Pa and 100000 Pa under one at 10 hPa. -/
theorem not_same_over_bareGround : ∃ lib t t' a a', bareGround = .ok lib ∧
    (bareRecipe lib).settings.convertTermUnits = true ∧
    Formula.atmosSigma.GivenIn (bareRecipe lib).settings "Pa" ∧
    (bareRecipe lib).Exchanges (bareRecipeInHectopascals lib) .atmosSigma "ptop" (1 / 100) ∧
    @Recipe.make ℚ _ nearZero (bareRecipe lib) .atmosSigma = .ok t ∧
    @Recipe.make ℚ _ nearZero (bareRecipeInHectopascals lib) .atmosSigma = .ok t' ∧
    t.unit = some "Pa" ∧ t'.unit = some "Pa" ∧
    t.array 0 = .ok a ∧ a.entries = #[50500, 100000] ∧
    t'.array 0 = .ok a' ∧ a'.entries = #[50005, 100000] := by
  obtain ⟨lib, s, a, hlib, hs, hunit, -, -, ha, hentries⟩ := bareGround_eq
  obtain ⟨s', a', hs', hunit', ha', hentries'⟩ := inHectopascals_eq hlib
  exact ⟨lib, .source s.source, .source s'.source, a, a', hlib, rfl, givenIn_bareGround lib,
    exchanges_bareGround hlib, map_eq_ok.2 ⟨s, hs, rfl⟩, map_eq_ok.2 ⟨s', hs', rfl⟩, hunit, hunit', ha,
    hentries, ha', hentries'⟩

end VerticalTransform

end Gridded
