import Gridded.Proofs.Vertical.Profiles

/-!
# Names of formulas

A formula has two names. Text is compared with them up to the case of ASCII letters, while a catalog is asked
for the full lower case of the text. Both know the same names, for every text, and whatever is registered
under other names changes nothing for these: each kind of formula stays with its own maker.

* `Formula.ofName?_eq_some_iff`: the formula of a text is the one of whose names it is a spelling, in the
  sense of the catalog;
* `Catalog.maker?_standard_eq`: the maker that the standard catalog has for a text is that of its formula;
* `Catalog.registerAll`, `Catalog.maker?_registerAll`: registering under other names;
* `Catalog.MakesByName`: each kind of formula is made by its own maker;
* `Catalog.standard_agrees_with_ofName?`: all together.
-/

namespace Gridded

namespace Formula

variable {text : String} {formula : Formula}

/-- The lower case of the names has ASCII characters only, and no `k`. -/
theorem lower_names : (all.flatMap fun formula => [formula.standardName, formula.name]).all (fun name =>
    (name.toList.map Char.toLower).all fun d => d.toNat < 128 && d != 'k') = true := by
  decide +kernel

theorem lower_of_name {name : String} (hname : name ∈ [formula.standardName, formula.name]) :
    ∀ d ∈ name.toList.map Char.toLower, d.toNat < 128 ∧ d ≠ 'k' := by
  have hlower := List.all_eq_true.1 lower_names name (List.mem_flatMap.2 ⟨formula, formula.mem_all, hname⟩)
  intro d hd
  simpa using List.all_eq_true.1 hlower d hd

/-- A text is folded to a name exactly if it is a spelling of it. -/
theorem foldedName_eq_iff {name : String} (hname : name ∈ [formula.standardName, formula.name]) :
    Text.foldedName text = Text.foldedName name ↔ Text.eqIgnoringCase name (Text.trim text) = true := by
  rw [Catalog.foldedName_of_formula hname, Text.eqIgnoringCase_iff,
    Text.foldedName_eq_iff (lower_of_name hname)]
  exact eq_comm

theorem spells_iff : (Text.eqIgnoringCase formula.standardName (Text.trim text) ||
    Text.eqIgnoringCase formula.name (Text.trim text)) = true ↔
      ∃ name ∈ [formula.standardName, formula.name], Text.foldedName text = Text.foldedName name := by
  have hstandard : formula.standardName ∈ [formula.standardName, formula.name] := List.mem_cons_self
  have hshort : formula.name ∈ [formula.standardName, formula.name] :=
    List.mem_cons_of_mem _ (List.mem_singleton_self _)
  rw [Bool.or_eq_true, ← foldedName_eq_iff hstandard, ← foldedName_eq_iff hshort]
  simp only [List.mem_cons, List.not_mem_nil, or_false, exists_eq_or_imp, exists_eq_left]

theorem ofName?_eq_some_iff : ofName? text = some formula ↔
    ∃ name ∈ [formula.standardName, formula.name], Text.foldedName text = Text.foldedName name := by
  constructor
  · intro h
    have hspells := List.find?_some h
    exact spells_iff.1 hspells
  · rintro ⟨name, hname, h⟩
    have hsome : (ofName? text).isSome = true := by
      rw [ofName?, List.find?_isSome]
      exact ⟨formula, formula.mem_all, spells_iff.2 ⟨name, hname, h⟩⟩
    obtain ⟨other, hother⟩ := Option.isSome_iff_exists.1 hsome
    have hspells := List.find?_some hother
    obtain ⟨name', hname', h'⟩ := spells_iff.1 hspells
    rw [hother, Catalog.eq_of_foldedName hname hname' (h.symm.trans h')]

end Formula

namespace Catalog

variable {α : Type} {text : String}

/-- Register several makers in turn. -/
def registerAll (c : Catalog α) (later : List (String × Maker α)) : Catalog α :=
  later.foldl (fun c entry => c.register entry.1 entry.2) c

theorem maker?_registerAll (c : Catalog α) {later : List (String × Maker α)}
    (hother : ∀ entry ∈ later, Text.foldedName text ≠ Text.foldedName entry.1) :
    (c.registerAll later).maker? text = c.maker? text := by
  induction later generalizing c with
  | nil => rfl
  | cons entry later ih =>
    rw [List.forall_mem_cons] at hother
    exact (ih _ hother.2).trans ((maker?_register c _ _ _).trans (if_neg hother.1))

variable [Scalar α] [Hyperbolic α]

/-- What none of the names are folded to is not put there by registering formulas. -/
theorem maker?_foldl_eq_none (formulas : List Formula) {c : Catalog α}
    (hother : ∀ formula ∈ formulas, ∀ name ∈ [formula.standardName, formula.name],
      Text.foldedName text ≠ Text.foldedName name) (h : c.maker? text = none) :
    (formulas.foldl (fun c formula => Catalog.register (Catalog.register c formula.standardName
      (builtIn formula)) formula.name (builtIn formula)) c).maker? text = none := by
  induction formulas generalizing c with
  | nil => exact h
  | cons formula formulas ih =>
    rw [List.forall_mem_cons] at hother
    rw [List.foldl_cons]
    refine ih hother.2 ?_
    rw [maker?_register, if_neg (hother.1 _ (by simp)), maker?_register, if_neg (hother.1 _ (by simp)), h]

/-- **The standard catalog** has for every text the maker of the formula of that name. -/
theorem maker?_standard_eq (text : String) :
    (standard : Catalog α).maker? text = (Formula.ofName? text).map builtIn := by
  cases hformula : Formula.ofName? text with
  | some formula =>
    obtain ⟨name, hname, h⟩ := Formula.ofName?_eq_some_iff.1 hformula
    exact maker?_standard_of_foldedName hname h
  | none =>
    refine maker?_foldl_eq_none Formula.all (fun formula _ name hname h => ?_) rfl
    rw [Formula.ofName?_eq_some_iff.2 ⟨name, hname, h⟩] at hformula
    cases hformula

/-- A text that names a formula is not folded like one that names none. -/
theorem foldedName_ne {formula : Formula} {other : String} (hformula : Formula.ofName? text = some formula)
    (hother : Formula.ofName? other = none) : Text.foldedName text ≠ Text.foldedName other := by
  intro heq
  obtain ⟨name, hname, h⟩ := Formula.ofName?_eq_some_iff.1 hformula
  rw [Formula.ofName?_eq_some_iff.2 ⟨name, hname, heq.symm.trans h⟩] at hother
  cases hother

/-- Recipes with this key are made, by the catalog, as the kind of that name is made. -/
structure MakesByName (c : Catalog α) (text : String) (r : Recipe α) : Prop where
  atmosSigma : Formula.ofName? text = some .atmosSigma → c.make r = (.source ·.source) <$> r.atmosSigma
  hybridSigmaPressure : Formula.ofName? text = some .hybridSigmaPressure →
    c.make r = (.source ·.source) <$> r.hybridSigmaPressure
  hybridHeight : Formula.ofName? text = some .hybridHeight →
    c.make r = (.source ·.source) <$> r.hybridHeight
  oceanSigma : Formula.ofName? text = some .oceanSigma → c.make r = (.source ·.source) <$> r.oceanSigma
  oceanS : Formula.ofName? text = some .oceanS → c.make r = (.source ·.source) <$> r.oceanS
  oceanSG1 : Formula.ofName? text = some .oceanSG1 → c.make r = (.source ·.source) <$> r.oceanSG1
  oceanSG2 : Formula.ofName? text = some .oceanSG2 → c.make r = (.source ·.source) <$> r.oceanSG2
  existingField : Formula.ofName? text = some .existingField →
    c.make r = (.source ·.source) <$> r.existingField

theorem MakesByName.of_make {c : Catalog α} {r : Recipe α}
    (h : ∀ formula, Formula.ofName? text = some formula → c.make r = r.make formula) :
    c.MakesByName text r :=
  ⟨h .atmosSigma, h .hybridSigmaPressure, h .hybridHeight, h .oceanSigma, h .oceanS, h .oceanSG1,
    h .oceanSG2, h .existingField⟩

/-- Registering under texts that name no formula leaves what a formula's name stands for. -/
theorem maker?_registerAll_standard {formula : Formula} (hformula : Formula.ofName? text = some formula)
    {later : List (String × Maker α)} (hlater : ∀ entry ∈ later, Formula.ofName? entry.1 = none) :
    ((standard : Catalog α).registerAll later).maker? text = (standard : Catalog α).maker? text :=
  maker?_registerAll _ fun entry hentry => foldedName_ne hformula (hlater entry hentry)

theorem make_registerAll_standard {formula : Formula} (hformula : Formula.ofName? text = some formula)
    {later : List (String × Maker α)} (hlater : ∀ entry ∈ later, Formula.ofName? entry.1 = none)
    {r : Recipe α} (hkey : r.key? = some text) :
    ((standard : Catalog α).registerAll later).make r = r.make formula := by
  have hmaker : ((standard : Catalog α).registerAll later).maker? text = some (builtIn formula) := by
    rw [maker?_registerAll_standard hformula hlater, maker?_standard_eq, hformula, Option.map_some]
  exact make_of_maker? hkey hmaker

/-- **The names of the standard catalog are those of the formulas.** It knows a text exactly if the text is
the name of a formula. Register makers any number of times under texts that name no formula. What is then
found for the name of a formula is what was found before, a recipe with this key is made as that formula
is made, and the transform carries that formula. -/
theorem standard_agrees_with_ofName? (text : String) :
    ((standard : Catalog α).knows text = true ↔ (Formula.ofName? text).isSome = true) ∧
      ∀ formula, Formula.ofName? text = some formula →
        ∀ later : List (String × Maker α), (∀ entry ∈ later, Formula.ofName? entry.1 = none) →
          (standard.registerAll later).maker? text = (standard : Catalog α).maker? text ∧
            ∀ r : Recipe α, r.key? = some text →
              (standard.registerAll later).MakesByName text r ∧
                ∀ t, (standard.registerAll later).make r = .ok t → t.formula = formula := by
  constructor
  · rw [knows, maker?_standard_eq, Option.isSome_map]
  intro formula hformula later hlater
  refine ⟨maker?_registerAll_standard hformula hlater, fun r hkey => ⟨?_, fun t ht => ?_⟩⟩
  · exact .of_make fun other hother => make_registerAll_standard hother hlater hkey
  · rw [make_registerAll_standard hformula hlater hkey] at ht
    exact Recipe.formula_of_make ht

/-- A standard name in other letters, between white space. -/
def looseName : String := " OCEAN_s_Coordinate_G2\u3000"

/-- One level of a sea, halfway down, under that name. -/
def looseSea : Except Error (Recipe ℚ) := do
  let lib ← Library.addNamed Dictionary.empty "s" ["z"] none (.ofList [-1 / 2])
  let lib ← lib.addNamed "Cs" ["z"] none (.ofList [-1 / 2])
  let lib ← lib.addNamed "hc" [] none (.scalar 10)
  let lib ← lib.addNamed "h" ["y", "x"] none ⟨[1, 1], #[100]⟩
  let lib ← lib.addNamed "zeta" ["y", "x"] none ⟨[1, 1], #[2]⟩
  Recipe.of "sea" lib.toDataset
    ((Dictionary.empty.insert "transform_type" (.text looseName)).insert
      "formula_terms" (.text "s: s C: Cs eta: zeta depth: h depth_c: hc")) {}

theorem make_looseSea : ∃ r f a, looseSea = .ok r ∧ r.key? = some looseName ∧ r.oceanSG2 = .ok f ∧
    f.base.shape = ⟨1, 1, 1⟩ ∧ f.array 0 = .ok a ∧ a.get3 Scalar.nan 0 0 0 = -49 :=
  ⟨_, _, _, rfl, by decide +kernel, rfl, rfl, rfl, by decide +kernel⟩

/-- A maker of nothing. -/
def refusal : Maker ℚ := fun r => .error (.unknownTransform (.unnamed r.name))

/-- After a maker has been registered under a part of the loose name, the sea is still made, and its level
lies halfway between the bottom and the surface. -/
theorem standard_agrees_with_ofName?_looseName : ∃ r t a, looseSea = .ok r ∧
    Formula.ofName? looseName = some .oceanSG2 ∧ Formula.ofName? "OCEAN_s" = none ∧
      (@standard ℚ _ VerticalTransform.nearZero).knows looseName = true ∧
      ((@standard ℚ _ VerticalTransform.nearZero).registerAll [("OCEAN_s", refusal)]).make r = .ok t ∧
      t.formula = .oceanSG2 ∧ t.array 0 = .ok a ∧ a.get3 Scalar.nan 0 0 0 = -49 := by
  have hformula : Formula.ofName? looseName = some .oceanSG2 := by decide +kernel
  have hother : Formula.ofName? "OCEAN_s" = none := by decide +kernel
  obtain ⟨r, f, a, hr, hkey, hf, -, ha, hlevel⟩ := make_looseSea
  obtain ⟨hknows, hmakes⟩ := @standard_agrees_with_ofName? ℚ _ VerticalTransform.nearZero looseName
  have hlater : ∀ entry ∈ [("OCEAN_s", refusal)], Formula.ofName? entry.1 = none :=
    List.forall_mem_singleton.2 hother
  obtain ⟨⟨-, -, -, -, -, -, hmake, -⟩, hcarries⟩ := (hmakes .oceanSG2 hformula _ hlater).2 r hkey
  have hmade := (hmake hformula).trans (map_eq_ok.2 ⟨f, hf, rfl⟩)
  exact ⟨r, _, a, hr, hformula, hother, hknows.2 (by rw [hformula]; rfl), hmade, hcarries _ hmade, ha,
    hlevel⟩

end Catalog

end Gridded
