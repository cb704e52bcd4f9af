import Gridded.Proofs.Vertical.Homogeneity
import Gridded.Proofs.Vertical.ReadErrors

/-!
# Terms in other units

The numbers of a term mean the same in another unit, if they are converted. A formula takes its unit from
its reference term and converts the other terms to it, so nothing changes if one of these is expressed in
another unit, and all coordinates are converted if the reference term is. This needs units: a number
without one is taken as it is, whatever the unit of the reference term.

* `Recipe.Measures`, `Recipe.Keeps`, `Recipe.Reexpresses`: terms with a known unit, terms that stay as
  they are and terms that are expressed in another unit;
* `Recipe.Restates`: a recipe some of whose terms are expressed in other units, with
  `Recipe.Restates.rescales` for what is read from it;
* `Dataset.reexpress`: the source in which one variable is expressed in another unit, with
  `Recipe.restates_reexpress`;
* `VerticalTransform.multiplies_of_restates`: what transforms that are made from both recipes answer.
-/

namespace Gridded

/-- What the coordinate of a formula measures. -/
def Formula.quantity (formula : Formula) : Quantity :=
  if formula.isPressure then .pressure else .length

/-- The coordinate is a pressure, and the settings ask for it in the unit `target`. -/
def Formula.GivenIn (formula : Formula) (settings : Settings) (target : String) : Prop :=
  formula.isPressure = true ∧ settings.outputPressureUnit = some target ∧
    measures .pressure target = true

namespace Recipe

/-- A term has a variable whose unit is known and measures the quantity. -/
def Measures (r : Recipe ℚ) (quantity : Quantity) (term : String) : Prop :=
  ∃ v unit, r.Binds term v ∧ v.units? = some unit ∧ measures quantity unit = true

/-- A term has the same unit and the same numbers in both recipes. -/
def Keeps (r r' : Recipe ℚ) (term : String) : Prop :=
  ∃ v v', r.Binds term v ∧ r'.Binds term v' ∧ v'.units? = v.units? ∧
    v.Multiplies r.dataset r'.dataset 1 v'

/-- A term has known units of the quantity in both recipes, and its numbers are converted from that of
`r` to that of `r'`. -/
def Reexpresses (r r' : Recipe ℚ) (quantity : Quantity) (term : String) : Prop :=
  ∃ v v' unit unit' c, r.Binds term v ∧ r'.Binds term v' ∧
    v.units? = some unit ∧ measures quantity unit = true ∧
    v'.units? = some unit' ∧ measures quantity unit' = true ∧
    conversionFactor? unit unit' = some c ∧ v.Multiplies r.dataset r'.dataset c v'

/-- The second recipe has the settings and the terms of the first one, of which some that are pressures
or lengths are expressed in other units. -/
structure Restates (r r' : Recipe ℚ) (formula : Formula) : Prop where
  settings : r'.settings = r.settings
  used : formula.usedTerms r'.terms = formula.usedTerms r.terms
  terms : ∀ term ∈ formula.usedTerms r.terms, r.Keeps r' term ∨
    term ∈ formula.dimensionalTerms ∧ r.Reexpresses r' formula.quantity term

end Recipe

/-! ### The unit of the coordinate -/

namespace Formula

variable {formula : Formula} {settings : Settings} {u v target : String}

theorem outputUnit_of_givenIn (hconvert : settings.convertTermUnits = true)
    (hu : measures formula.quantity u = true) (h : formula.GivenIn settings target) :
    formula.outputUnit settings (some u) = some target ∧
      formula.outputFactor settings (some u) = settings.conversion (some u) (some target) := by
  obtain ⟨hpressure, hsettings, htarget⟩ := h
  rw [quantity, if_pos hpressure] at hu
  have hfactor := Settings.conversionFactor?_of_measures hconvert hu target
  rw [if_pos htarget] at hfactor
  constructor
  · simp only [outputUnit, hpressure, hsettings, Option.getD_some, hfactor, Option.isSome_some, if_true]
  · simp only [outputFactor, hpressure, hsettings, Option.getD_some, hfactor]

/-- Without such a unit the coordinate is given out in the unit of the reference term. -/
theorem outputUnit_of_not_givenIn (hconvert : settings.convertTermUnits = true)
    (hu : measures formula.quantity u = true) (h : ∀ target, ¬ formula.GivenIn settings target) :
    formula.outputUnit settings (some u) = some u ∧
      formula.outputFactor settings (some u) = 1 := by
  by_cases hpressure : formula.isPressure = true
  · rw [quantity, if_pos hpressure] at hu
    rcases hsettings : settings.outputPressureUnit with _ | target
    · simp only [outputUnit, outputFactor, hpressure, hsettings, and_self]
    · have htarget : ¬ measures .pressure target = true := fun htarget =>
        h target ⟨hpressure, hsettings, htarget⟩
      have hfactor := Settings.conversionFactor?_of_measures hconvert hu target
      rw [if_neg htarget] at hfactor
      constructor
      · simp only [outputUnit, hpressure, hsettings, Option.getD_some, hfactor, Option.isSome_none,
          Bool.false_eq_true, if_false]
      · simp only [outputFactor, hpressure, hsettings, Option.getD_some, hfactor, Option.getD_none]
  · have hheight : formula.isPressure = false := Bool.eq_false_iff.2 hpressure
    exact ⟨outputUnit_of_height hheight, outputFactor_of_height hheight⟩

/-- The coordinate has a known unit, and the factors to it make up for a conversion between units of the
reference term up to a conversion between units of the coordinate. -/
theorem output_eq (hconvert : settings.convertTermUnits = true)
    (hu : measures formula.quantity u = true) (hv : measures formula.quantity v = true) :
    ∃ out out', formula.outputUnit settings (some u) = some out ∧
      measures formula.quantity out = true ∧ formula.outputUnit settings (some v) = some out' ∧
      measures formula.quantity out' = true ∧
      settings.conversion (some u) (some v) * formula.outputFactor settings (some v) =
        formula.outputFactor settings (some u) * settings.conversion (some out) (some out') := by
  by_cases h : ∃ target, formula.GivenIn settings target
  · obtain ⟨target, h⟩ := h
    have htarget : measures formula.quantity target = true := by
      rw [quantity, if_pos h.1]
      exact h.2.2
    obtain ⟨hout, hfactor⟩ := outputUnit_of_givenIn hconvert hu h
    obtain ⟨hout', hfactor'⟩ := outputUnit_of_givenIn hconvert hv h
    refine ⟨target, target, hout, htarget, hout', htarget, ?_⟩
    rw [hfactor, hfactor', settings.conversion_self, mul_one,
      Settings.conversion_mul hconvert hu hv htarget]
  · obtain ⟨hout, hfactor⟩ := outputUnit_of_not_givenIn hconvert hu (not_exists.1 h)
    obtain ⟨hout', hfactor'⟩ := outputUnit_of_not_givenIn hconvert hv (not_exists.1 h)
    refine ⟨u, v, hout, hu, hout', hv, ?_⟩
    rw [hfactor, hfactor', mul_one, one_mul]

end Formula

/-! ### What is read -/

namespace Recipe

variable {r r' : Recipe ℚ} {formula : Formula} {quantity : Quantity} {term reference : String}
  {u v : String}

/-- Pure numbers are read as they are. -/
theorem Keeps.carries (h : r.Keeps r' term) : r.Carries r' none none 1 term := by
  obtain ⟨x, x', hx, hx', -, hnumbers⟩ := h
  refine ⟨x, x', 1, hx, hx', hnumbers, ?_⟩
  rw [unitFactor_none, unitFactor_none]

/-- A term that stays as it is has numbers that are converted to another unit, if its own unit is known or
the other unit is the same. -/
theorem Keeps.carries_converted (h : r.Keeps r' term) (hsettings : r'.settings = r.settings)
    (hconvert : r.settings.convertTermUnits = true) (hu : measures quantity u = true)
    (hv : measures quantity v = true) (hknown : v = u ∨ r.Measures quantity term) :
    r.Carries r' (some u) (some v) (r.settings.conversion (some u) (some v)) term := by
  obtain ⟨x, x', hx, hx', hunits, hnumbers⟩ := h
  refine ⟨x, x', 1, hx, hx', hnumbers, ?_⟩
  rw [unitFactor_eq, unitFactor_eq, hsettings, hunits, one_mul]
  rcases hknown with rfl | ⟨y, w, hy, hw, hmeasures⟩
  · rw [Settings.conversion_self, mul_one]
  · cases hx.unique hy
    rw [hw, Settings.conversion_mul hconvert hmeasures hu hv]

/-- A term that is expressed in another unit is converted from there. -/
theorem Reexpresses.carries_converted (h : r.Reexpresses r' quantity term)
    (hsettings : r'.settings = r.settings) (hconvert : r.settings.convertTermUnits = true)
    (hu : measures quantity u = true) (hv : measures quantity v = true) :
    r.Carries r' (some u) (some v) (r.settings.conversion (some u) (some v)) term := by
  obtain ⟨x, x', w, w', c, hx, hx', hw, hwm, hw', hwm', hc, hnumbers⟩ := h
  rw [Settings.conversionFactor?_of_measures hconvert hwm, if_pos hwm'] at hc
  obtain rfl := Option.some.inj hc
  refine ⟨x, x', _, hx, hx', hnumbers, ?_⟩
  rw [unitFactor_eq, unitFactor_eq, hsettings, hw, hw', Settings.conversion_mul hconvert hwm hwm' hv,
    Settings.conversion_mul hconvert hwm hu hv]

/-- The reference term has known units in both recipes, the same one if it stays as it is, and its own
numbers are converted between them. -/
theorem Restates.exists_units (h : r.Restates r' formula)
    (hconvert : r.settings.convertTermUnits = true)
    (hreference : formula.referenceTerm = some reference)
    (hmeasures : r.Measures formula.quantity reference) :
    ∃ u v, measures formula.quantity u = true ∧ measures formula.quantity v = true ∧
      (r.Keeps r' reference → v = u) ∧
      (∀ x x', r.Binds reference x → r'.Binds reference x' →
        x.units? = some u ∧ x'.units? = some v) ∧
      r.Carries r' none none (r.settings.conversion (some u) (some v)) reference := by
  have hused : reference ∈ formula.usedTerms r.terms :=
    (Formula.isUsed_of_referenceTerm hreference).mem_usedTerms _
  by_cases hkeeps : r.Keeps r' reference
  · obtain ⟨y, u, hy, hu, hmeasured⟩ := hmeasures
    obtain ⟨x, x', hx, hx', hunits, hnumbers⟩ := id hkeeps
    cases hx.unique hy
    refine ⟨u, u, hmeasured, hmeasured, fun _ => rfl, ?_, ?_⟩
    · intro z z' hz hz'
      rw [hz.unique hx, hz'.unique hx', hunits]
      exact ⟨hu, hu⟩
    · rw [Settings.conversion_self]
      exact hkeeps.carries
  · obtain ⟨-, h⟩ := (h.terms reference hused).resolve_left hkeeps
    obtain ⟨x, x', u, v, c, hx, hx', hu, hum, hv, hvm, hc, hnumbers⟩ := h
    rw [Settings.conversionFactor?_of_measures hconvert hum, if_pos hvm] at hc
    obtain rfl := Option.some.inj hc
    refine ⟨u, v, hum, hvm, fun h => absurd h hkeeps, ?_, x, x', _, hx, hx', hnumbers, ?_⟩
    · intro z z' hz hz'
      rw [hz.unique hx, hz'.unique hx']
      exact ⟨hu, hv⟩
    · rw [unitFactor_none, unitFactor_none, mul_one, one_mul]

/-- What is read from a recipe that restates another one: everything is converted from the old unit of the
reference term to the new one. If that changes, all other pressures or lengths need a known unit. -/
theorem Restates.rescales (h : r.Restates r' formula)
    (hconvert : r.settings.convertTermUnits = true)
    (hreference : formula.referenceTerm = some reference)
    (hmeasures : r.Measures formula.quantity reference)
    (hknown : r.Keeps r' reference ∨ ∀ term ∈ formula.usedTerms r.terms,
      term ∈ formula.dimensionalTerms → r.Measures formula.quantity term) :
    ∃ u v, measures formula.quantity u = true ∧ measures formula.quantity v = true ∧
      (r.Keeps r' reference → v = u) ∧
      ∀ m, r.settings.conversion (some u) (some v) * formula.outputFactor r.settings (some v) =
          formula.outputFactor r.settings (some u) * m →
        r.Rescales r' formula (some u) (some v) (r.settings.conversion (some u) (some v)) m := by
  obtain ⟨u, v, hu, hv, hkeeps, hunits, hcarries⟩ := h.exists_units hconvert hreference hmeasures
  refine ⟨u, v, hu, hv, hkeeps, fun m houtput => ⟨h.settings, h.used, ?_, ?_, ?_, houtput,
    Settings.conversion_ne_zero _ _ _⟩⟩
  · intro term hterm hpure
    rcases h.terms term hterm with hterm | ⟨hdimensional, -⟩
    · exact hterm.carries
    · exact absurd hdimensional hpure
  · intro term hterm hdimensional
    rcases h.terms term hterm with hkept | ⟨-, hreexpressed⟩
    · exact hkept.carries_converted h.settings hconvert hu hv
        (hknown.imp hkeeps fun h => h term hterm hdimensional)
    · exact hreexpressed.carries_converted h.settings hconvert hu hv
  · intro term hterm
    cases hreference.symm.trans hterm
    exact ⟨hcarries, hunits⟩

end Recipe

/-! ### One variable in another unit -/

/-- The source in which the variable `name` has the unit `unit` and its numbers multiplied by `c`. -/
def Dataset.reexpress (d : Dataset ℚ) (name unit : String) (c : ℚ) : Dataset ℚ where
  find? other := if other = name then (d.find? other).map (·.withUnits unit) else d.find? other
  read other := if other = name then Tensor.map (· * c) <$> d.read other else d.read other
  readAt other time :=
    if other = name then Tensor.map (· * c) <$> d.readAt other time else d.readAt other time

theorem Dataset.find?_reexpress {d : Dataset ℚ} {name unit : String} {c : ℚ} {v : Variable ℚ}
    (h : d.find? name = some v) : (d.reexpress name unit c).find? name = some (v.withUnits unit) := by
  show (if name = name then (d.find? name).map (·.withUnits unit) else _) = _
  rw [if_pos rfl, h]
  rfl

namespace Variable

variable (v : Variable ℚ) (unit : String)

theorem units?_withUnits : (v.withUnits unit).units? = some unit := by
  show (((v.attributes.insert Attributes.Name.units (.text unit)).find? _).bind _) = _
  rw [Dictionary.find?_insert]
  rfl

theorem missing_withUnits : (v.withUnits unit).missing = v.missing := by
  have hfind : ∀ name, name ≠ Attributes.Name.units →
      (v.withUnits unit).attributes.number? name = v.attributes.number? name := by
    intro name hname
    show (((v.attributes.insert Attributes.Name.units (.text unit)).find? _).bind _) = _
    rw [Dictionary.find?_insert, if_neg hname]
    rfl
  unfold missing
  rw [hfind _ (by decide), hfind _ (by decide)]

end Variable

/-- What is found in a library to which an array is added. -/
theorem Library.find?_addNamed {lib lib' : Library ℚ} {name : String} {dims : List String}
    {units : Option String} {data : Tensor ℚ} (h : lib.addNamed name dims units data = .ok lib') :
    ∃ v : Variable ℚ, v.units? = units ∧ v.Unmarked ∧
      ∀ bound, lib'.toDataset.find? bound =
        if bound = name then some v else lib.toDataset.find? bound := by
  obtain ⟨v, hv, h⟩ := bind_eq_ok.1 h
  unfold Variable.of at hv
  split_ifs at hv
  obtain rfl := Except.ok.inj hv
  have hfind : ∀ v : Variable ℚ, v.name = name → ∀ bound,
      (toDataset (lib.insert v.name (v, data))).find? bound =
        if bound = name then some v else lib.toDataset.find? bound := by
    rintro v rfl bound
    show ((lib.insert v.name (v, data)).find? bound).map _ = _
    rw [Dictionary.find?_insert]
    split_ifs <;> rfl
  cases units with
  | none =>
    obtain ⟨-, rfl⟩ := add_eq_ok.1 h
    exact ⟨⟨name, dims, data.shape, Dictionary.empty⟩, rfl, rfl, hfind _ rfl⟩
  | some units =>
    obtain ⟨-, rfl⟩ := add_eq_ok.1 h
    refine ⟨_, Variable.units?_withUnits _ units, ?_, hfind _ rfl⟩
    exact Variable.missing_withUnits _ units

namespace Recipe

variable {r : Recipe ℚ} {name unit' : String} {c : ℚ} {term bound : String} {v : Variable ℚ}

theorem keeps_reexpress (hbound : r.terms.find? term = some bound)
    (hfind : r.dataset.find? bound = some v) (hname : v.name = bound) (hmarks : v.Unmarked)
    (hne : bound ≠ name) : r.Keeps (r.readFrom (r.dataset.reexpress name unit' c)) term := by
  have hone : ∀ x : Except Error (Tensor ℚ), Paired (fun a a' => a' = a.map (· * 1)) x x := by
    intro x
    refine (Paired.refl x).mono ?_
    rintro a _ rfl
    exact (Tensor.map_mul_one a).symm
  have hread : (r.dataset.reexpress name unit' c).read v.name = r.dataset.read v.name :=
    if_neg (hname ▸ hne)
  have hreadAt : ∀ time, (r.dataset.reexpress name unit' c).readAt v.name time =
      r.dataset.readAt v.name time := fun time => if_neg (hname ▸ hne)
  refine ⟨v, v, ⟨bound, hbound, hfind⟩, ⟨bound, hbound, (if_neg hne).trans hfind⟩, rfl, rfl,
    ⟨hmarks, hmarks⟩, ?_, fun time => ?_⟩
  · show Paired _ _ ((r.dataset.reexpress name unit' c).read v.name)
    rw [hread]
    exact hone _
  · show Paired _ _ ((r.dataset.reexpress name unit' c).readAt v.name time)
    rw [hreadAt]
    exact hone _

theorem reexpresses_reexpress {quantity : Quantity} {unit : String}
    (hbound : r.terms.find? term = some name) (hfind : r.dataset.find? name = some v)
    (hname : v.name = name) (hmarks : v.Unmarked) (hunit : v.units? = some unit)
    (hmeasures : measures quantity unit = true) (hmeasures' : measures quantity unit' = true)
    (hc : conversionFactor? unit unit' = some c) :
    r.Reexpresses (r.readFrom (r.dataset.reexpress name unit' c)) quantity term := by
  have hmarks' : (v.withUnits unit').Unmarked := (v.missing_withUnits unit').trans hmarks
  have hfind' : (r.dataset.reexpress name unit' c).find? name = some (v.withUnits unit') :=
    Dataset.find?_reexpress hfind
  refine ⟨v, v.withUnits unit', unit, unit', c, ⟨name, hbound, hfind⟩, ⟨name, hbound, hfind'⟩, hunit,
    hmeasures, v.units?_withUnits unit', hmeasures', hc, rfl, ⟨hmarks, hmarks'⟩, ?_, fun time => ?_⟩
  · show Paired _ _ (if v.name = name then Tensor.map (· * c) <$> r.dataset.read v.name else _)
    rw [if_pos hname]
    exact .mapped _ _
  · show Paired _ _ (if v.name = name then Tensor.map (· * c) <$> r.dataset.readAt v.name time else _)
    rw [if_pos hname]
    exact .mapped _ _

/-- Expressing one variable in another unit restates the recipe, if the variable stands for pressures or
lengths only. -/
theorem restates_reexpress {formula : Formula} {unit : String}
    (hnames : ∀ bound v, r.dataset.find? bound = some v → v.name = bound)
    (hbinds : ∀ term ∈ formula.usedTerms r.terms, ∃ v, r.Binds term v ∧ v.Unmarked)
    (hterms : ∀ term ∈ formula.usedTerms r.terms, r.terms.find? term = some name →
      term ∈ formula.dimensionalTerms)
    (hfind : r.dataset.find? name = some v) (hunit : v.units? = some unit)
    (hmeasures : measures formula.quantity unit = true)
    (hmeasures' : measures formula.quantity unit' = true)
    (hc : conversionFactor? unit unit' = some c) :
    r.Restates (r.readFrom (r.dataset.reexpress name unit' c)) formula := by
  refine ⟨rfl, rfl, fun term hterm => ?_⟩
  obtain ⟨x, ⟨bound, hbound, hx⟩, hmarks⟩ := hbinds term hterm
  by_cases hne : bound = name
  · subst hne
    cases hx.symm.trans hfind
    exact .inr ⟨hterms term hterm hbound, reexpresses_reexpress hbound hx (hnames _ _ hx) hmarks hunit
      hmeasures hmeasures' hc⟩
  · exact .inl (keeps_reexpress hbound hx (hnames _ _ hx) hmarks hne)

end Recipe

/-! ### What is answered -/

namespace VerticalTransform

/-- **Terms may have any units, and the reference term gives that of the answers.** Take two recipes of a
formula whose settings ask for conversions and whose reference term has a known unit of the right kind. No
numbers are marked as missing, and the second recipe has the terms of the first one, some pressures or
lengths among them in other known units of that kind. If the reference term is among these, all other
pressures or lengths that are used need such a unit as well. Then either both recipes make a transform or
neither does, and answers are converted from the unit of the first transform to that of the second one.
These units and the answers are the same if the reference term stays as it is, or if pressures are given
out in a unit of their own. Without such a unit, they are the units of the reference term. -/
theorem multiplies_of_restates [Hyperbolic ℚ] {r r' : Recipe ℚ} {formula : Formula}
    {reference : String} (hreference : formula.referenceTerm = some reference)
    (hmeasures : r.Measures formula.quantity reference)
    (hconvert : r.settings.convertTermUnits = true) (h : r.Restates r' formula)
    (hknown : r.Keeps r' reference ∨ ∀ term ∈ formula.usedTerms r.terms,
      term ∈ formula.dimensionalTerms → r.Measures formula.quantity term) :
    Paired (fun t t' =>
      (∃ unit unit' c, t.unit = some unit ∧ t'.unit = some unit' ∧
        conversionFactor? unit unit' = some c ∧ t.Multiplies c t') ∧
      (r.Keeps r' reference → t'.unit = t.unit ∧ t.Multiplies 1 t') ∧
      (∀ target, formula.GivenIn r.settings target →
        t.unit = some target ∧ t'.unit = some target ∧ t.Multiplies 1 t') ∧
      ((∀ target, ¬ formula.GivenIn r.settings target) → ∀ v v', r.Binds reference v →
        r'.Binds reference v' → t.unit = v.units? ∧ t'.unit = v'.units?))
      (r.make formula) (r'.make formula) := by
  have hformula : formula ≠ .existingField := by
    rintro rfl
    cases hreference
  obtain ⟨u, v, hu, hv, hkeeps, hrescales⟩ := h.rescales hconvert hreference hmeasures hknown
  obtain ⟨out, out', hout, houtm, hout', houtm', houtput⟩ := Formula.output_eq hconvert hu hv
  have hrescaled := hrescales _ houtput
  refine (hrescaled.paired_make hformula).mono ?_
  rintro t t' ⟨hanswers, hunit, hunit'⟩
  -- Where the unit of the coordinate does not change, it is not converted either.
  have hsame : out' = out → t.Multiplies 1 t' := by
    rintro rfl
    rwa [Settings.conversion_self] at hanswers
  refine ⟨⟨out, out', _, hunit.trans hout, hunit'.trans hout', ?_, hanswers⟩, ?_, ?_, ?_⟩
  · rw [Settings.conversionFactor?_of_measures hconvert houtm, if_pos houtm']
  · intro hkept
    obtain rfl := hkeeps hkept
    exact ⟨hunit'.trans hunit.symm, hsame (Option.some.inj (hout'.symm.trans hout))⟩
  · intro target htarget
    have htargetOut := (Formula.outputUnit_of_givenIn hconvert hu htarget).1
    have htargetOut' := (Formula.outputUnit_of_givenIn hconvert hv htarget).1
    refine ⟨hunit.trans htargetOut, hunit'.trans htargetOut', hsame ?_⟩
    have hout : some out = some target := hout.symm.trans htargetOut
    have hout' : some out' = some target := hout'.symm.trans htargetOut'
    exact Option.some.inj (hout'.trans hout.symm)
  · intro hnone x x' hx hx'
    obtain ⟨hxu, hxv⟩ := (hrescaled.reference reference hreference).2 x x' hx hx'
    rw [hxu, hxv, hunit, hunit']
    exact ⟨(Formula.outputUnit_of_not_givenIn hconvert hu hnone).1,
      (Formula.outputUnit_of_not_givenIn hconvert hv hnone).1⟩

/-- One layer under a pressure at two times. The pressure at the top may have a unit. -/
def layer (top : ℚ) (topUnit : Option String) : Except Error (Library ℚ) := do
  let lib ← Library.addNamed Dictionary.empty "sigma" ["z"] none (.ofList [1 / 2])
  let lib ← lib.addNamed "ptop" [] topUnit (.scalar top)
  lib.addNamed "ps" ["t", "y", "x"] (some "hPa") ⟨[2, 1, 1], #[1000, 900]⟩

/-- What the pressure in the layer is made from. -/
def layerRecipe (lib : Library ℚ) : Recipe ℚ where
  name := Blueprint.defaultName
  dataset := lib.toDataset
  attributes := Dictionary.empty
  terms := ⟨[("sigma", "sigma"), ("ps", "ps"), ("ptop", "ptop")]⟩
  settings := {}

theorem built_of_layer {top : ℚ} {topUnit : Option String} {lib : Library ℚ}
    (h : layer top topUnit = .ok lib) : lib.Built := by
  obtain ⟨lib₁, h₁, h⟩ := bind_eq_ok.1 h
  obtain ⟨lib₂, h₂, h⟩ := bind_eq_ok.1 h
  refine ((Library.Built.empty.addNamed ?_ h₁).addNamed ?_ h₂).addNamed ?_ h <;> rfl

theorem find?_layer {top : ℚ} {topUnit : Option String} {lib : Library ℚ}
    (h : layer top topUnit = .ok lib) :
    ∃ sigma ptop ps, lib.toDataset.find? "sigma" = some sigma ∧ sigma.Unmarked ∧
      lib.toDataset.find? "ptop" = some ptop ∧ ptop.Unmarked ∧ ptop.units? = topUnit ∧
      lib.toDataset.find? "ps" = some ps ∧ ps.Unmarked ∧ ps.units? = some "hPa" := by
  obtain ⟨lib₁, h₁, h⟩ := bind_eq_ok.1 h
  obtain ⟨lib₂, h₂, h⟩ := bind_eq_ok.1 h
  obtain ⟨sigma, -, hsigma, hfind₁⟩ := Library.find?_addNamed h₁
  obtain ⟨ptop, hunit, hptop, hfind₂⟩ := Library.find?_addNamed h₂
  obtain ⟨ps, hunit', hps, hfind⟩ := Library.find?_addNamed h
  simp only [hfind, hfind₂, hfind₁]
  exact ⟨sigma, ptop, ps, rfl, hsigma, rfl, hptop, hunit, rfl, hps, hunit'⟩

/-- One of the two pressures can be expressed in another unit. -/
theorem restates_layer {top : ℚ} {topUnit : Option String} {lib : Library ℚ}
    (h : layer top topUnit = .ok lib) {name unit unit' : String} {c : ℚ} {v : Variable ℚ}
    (hname : name ≠ "sigma") (hfind : lib.toDataset.find? name = some v)
    (hunit : v.units? = some unit) (hmeasures : measures .pressure unit = true)
    (hmeasures' : measures .pressure unit' = true) (hc : conversionFactor? unit unit' = some c) :
    (layerRecipe lib).Restates
      ((layerRecipe lib).readFrom (lib.toDataset.reexpress name unit' c)) .atmosSigma := by
  obtain ⟨sigma, ptop, ps, hsigma, hsigma', hptop, hptop', -, hps, hps', -⟩ := find?_layer h
  refine Recipe.restates_reexpress (fun _ _ hx => (built_of_layer h).name_eq hx) ?_ ?_ hfind hunit
    hmeasures hmeasures' hc
  · show ∀ term ∈ ["sigma", "ps", "ptop"], ∃ v, (layerRecipe lib).Binds term v ∧ v.Unmarked
    simp only [List.forall_mem_cons, List.not_mem_nil, false_implies, implies_true, and_true]
    exact ⟨⟨sigma, ⟨_, rfl, hsigma⟩, hsigma'⟩, ⟨ps, ⟨_, rfl, hps⟩, hps'⟩,
      ptop, ⟨_, rfl, hptop⟩, hptop'⟩
  · intro term hterm hbound
    by_cases hsigma : term = "sigma"
    · subst hsigma
      exact absurd (Option.some.inj hbound).symm hname
    · exact (List.mem_cons.1 hterm).resolve_left hsigma

theorem units_of_layer : measures .pressure "Pa" = true ∧ measures .pressure "hPa" = true ∧
    conversionFactor? "hPa" "Pa" = some (100 : ℚ) ∧
    conversionFactor? "Pa" "hPa" = some (1 / 100 : ℚ) := by
  decide +kernel

theorem layer_eq : ∃ lib s a, layer 10000 (some "Pa") = .ok lib ∧
    (layerRecipe lib).atmosSigma = .ok s ∧ s.array 0 = .ok a ∧ a.entries = #[550] :=
  ⟨_, _, _, rfl, rfl, rfl, by decide +kernel⟩

/-- If the top of the layer is given in hPa and not in Pa, the layer stays at 550 hPa. If the ground is
given in Pa and not in hPa, the layer is at 55000 Pa. -/
theorem multiplies_of_restates_layer :
    ∃ lib t a, layer 10000 (some "Pa") = .ok lib ∧
      @Recipe.make ℚ _ nearZero (layerRecipe lib) .atmosSigma = .ok t ∧
      t.unit = some "hPa" ∧ t.array 0 = .ok a ∧ a.entries = #[550] ∧
      (∃ t' a', @Recipe.make ℚ _ nearZero ((layerRecipe lib).readFrom
          (lib.toDataset.reexpress "ptop" "hPa" (1 / 100))) .atmosSigma = .ok t' ∧
        t'.unit = some "hPa" ∧ t'.array 0 = .ok a' ∧ a'.entries = #[550]) ∧
      ∃ t' a', @Recipe.make ℚ _ nearZero ((layerRecipe lib).readFrom
          (lib.toDataset.reexpress "ps" "Pa" 100)) .atmosSigma = .ok t' ∧
        t'.unit = some "Pa" ∧ t'.array 0 = .ok a' ∧ a'.entries = #[55000] := by
  obtain ⟨lib, s, a, hlib, hs, ha, hentries⟩ := layer_eq
  obtain ⟨sigma, ptop, ps, -, -, hptop, hptop', htop, hps, hps', hground⟩ := find?_layer hlib
  obtain ⟨hpa, hhpa, hfactor, hfactor'⟩ := units_of_layer
  have hmake : @Recipe.make ℚ _ nearZero (layerRecipe lib) .atmosSigma = .ok (.source s.source) :=
    map_eq_ok.2 ⟨s, hs, rfl⟩
  have hmeasures : (layerRecipe lib).Measures .pressure "ps" :=
    ⟨ps, _, ⟨_, rfl, hps⟩, hground, hhpa⟩
  have hmeasures' : (layerRecipe lib).Measures .pressure "ptop" :=
    ⟨ptop, _, ⟨_, rfl, hptop⟩, htop, hpa⟩
  have hall : ∀ term ∈ ["sigma", "ps", "ptop"], term ∈ ["ps", "ptop"] →
      (layerRecipe lib).Measures .pressure term := by
    simp only [List.forall_mem_cons]
    simp [hmeasures, hmeasures']
  -- Both are made as the layer is, and no unit is asked for, so the units are those of the ground.
  obtain ⟨t', ht', -, hsame, -, -⟩ := (@multiplies_of_restates nearZero _ _ .atmosSigma "ps" rfl
    hmeasures rfl (restates_layer hlib (by decide) hptop htop hpa hhpa hfactor')
    (.inr hall)).exists_ok hmake
  obtain ⟨t'', ht'', ⟨unit, unit', c, hunit, hunit', hc, hanswers⟩, -, -, hunits⟩ :=
    (@multiplies_of_restates nearZero _ _ .atmosSigma "ps" rfl hmeasures rfl
      (restates_layer hlib (by decide) hps hground hhpa hpa hfactor) (.inr hall)).exists_ok hmake
  have hnone : ∀ target, ¬ Formula.atmosSigma.GivenIn (layerRecipe lib).settings target := by
    rintro target ⟨-, hsettings, -⟩
    cases hsettings
  obtain ⟨hhpaUnit, hpaUnit⟩ := hunits hnone ps (ps.withUnits "Pa") ⟨_, rfl, hps⟩
    ⟨_, rfl, Dataset.find?_reexpress hps⟩
  rw [hground] at hhpaUnit
  rw [Variable.units?_withUnits] at hpaUnit
  refine ⟨lib, _, a, hlib, hmake, hhpaUnit, ha, hentries, ⟨t', ?_⟩, t'', ?_⟩
  · have hkeeps : (layerRecipe lib).Keeps ((layerRecipe lib).readFrom
        (lib.toDataset.reexpress "ptop" "hPa" (1 / 100))) "ps" :=
      Recipe.keeps_reexpress rfl hps ((built_of_layer hlib).name_eq hps) hps' (by decide)
    obtain ⟨hunit, hanswers⟩ := hsame hkeeps
    obtain ⟨a', ha', rfl⟩ := (hanswers.array 0).exists_ok ha
    refine ⟨_, ht', hunit.trans hhpaUnit, ha', ?_⟩
    show a.entries.map (· * 1) = #[550]
    rw [hentries]
    decide +kernel
  · obtain rfl : unit = "hPa" := Option.some.inj (hunit.symm.trans hhpaUnit)
    obtain rfl : unit' = "Pa" := Option.some.inj (hunit'.symm.trans hpaUnit)
    obtain rfl : (100 : ℚ) = c := Option.some.inj (hfactor.symm.trans hc)
    obtain ⟨a', ha', rfl⟩ := (hanswers.array 0).exists_ok ha
    refine ⟨_, ht'', hpaUnit, ha', ?_⟩
    show a.entries.map (· * 100) = #[55000]
    rw [hentries]
    decide +kernel

/-- The arrays of the layer at the first time, under a top without a unit. -/
theorem bareLayer_eq : ∃ lib s s' a a', layer 100 none = .ok lib ∧
    (layerRecipe lib).atmosSigma = .ok s ∧
    ((layerRecipe lib).readFrom (lib.toDataset.reexpress "ps" "Pa" 100)).atmosSigma = .ok s' ∧
    s.base.unit = some "hPa" ∧ s'.base.unit = some "Pa" ∧
    s.array 0 = .ok a ∧ a.entries = #[550] ∧ s'.array 0 = .ok a' ∧ a'.entries = #[50050] :=
  ⟨_, _, _, _, _, rfl, rfl, rfl, rfl, rfl, rfl, by decide +kernel, rfl, by decide +kernel⟩

/-- A top without a unit is at 100 hPa under a ground at 1000 hPa, and at 100 Pa under one at 100000 Pa. So
the layer is at 550 hPa or at 50050 Pa, and its pressure is not converted. -/
theorem not_multiplies_of_bareLayer :
    ∃ lib t t', layer 100 none = .ok lib ∧
      (layerRecipe lib).Measures .pressure "ps" ∧
      (layerRecipe lib).Restates
        ((layerRecipe lib).readFrom (lib.toDataset.reexpress "ps" "Pa" 100)) .atmosSigma ∧
      (layerRecipe lib).Reexpresses
        ((layerRecipe lib).readFrom (lib.toDataset.reexpress "ps" "Pa" 100)) .pressure "ps" ∧
      (layerRecipe lib).settings.convertTermUnits = true ∧
      (layerRecipe lib).settings.outputPressureUnit = none ∧
      @Recipe.make ℚ _ nearZero (layerRecipe lib) .atmosSigma = .ok t ∧
      @Recipe.make ℚ _ nearZero ((layerRecipe lib).readFrom
        (lib.toDataset.reexpress "ps" "Pa" 100)) .atmosSigma = .ok t' ∧
      t.unit = some "hPa" ∧ t'.unit = some "Pa" ∧ conversionFactor? "hPa" "Pa" = some (100 : ℚ) ∧
      ¬ t.Multiplies 100 t' := by
  obtain ⟨lib, s, s', a, a', hlib, hs, hs', hunit, hunit', ha, hentries, ha', hentries'⟩ :=
    bareLayer_eq
  obtain ⟨sigma, ptop, ps, -, -, -, -, -, hps, hps', hground⟩ := find?_layer hlib
  obtain ⟨hpa, hhpa, hfactor, -⟩ := units_of_layer
  refine ⟨lib, .source s.source, .source s'.source, hlib, ⟨ps, _, ⟨_, rfl, hps⟩, hground, hhpa⟩,
    restates_layer hlib (by decide) hps hground hhpa hpa hfactor,
    Recipe.reexpresses_reexpress rfl hps ((built_of_layer hlib).name_eq hps) hps' hground hhpa hpa
      hfactor, rfl, rfl, map_eq_ok.2 ⟨s, hs, rfl⟩, map_eq_ok.2 ⟨s', hs', rfl⟩, hunit, hunit',
    hfactor, ?_⟩
  intro h
  obtain ⟨b, hb, hmul⟩ := (h.array 0).exists_ok ha
  cases hb.symm.trans ha'
  have hconverted : (#[550] : Array ℚ).map (· * 100) ≠ #[50050] := by decide +kernel
  rw [hmul, Tensor.map, hentries] at hentries'
  exact hconverted hentries'

end VerticalTransform

end Gridded
