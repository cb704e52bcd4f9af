import Gridded.Proofs.Vertical.Terms
import Gridded.Vertical.Source

/-!
# What recipes make

Every maker of a source reads its terms, checks that they fit together, and keeps what it has read. This
says once for all of them what is kept and which checks it has passed.

* `Formula.referenceTerm`, `Formula.horizontalTerms`: the term whose unit counts, and the terms with
  horizontal dimensions;
* `FormulaSource.planes_eq_ok`: what a formula loads at a time step;
* `Recipe.Columns`, `Recipe.Makes`: the numbers by level of a formula, and the whole formula, as they
  are read; `Recipe.exists_makes` says that the makers give nothing else;
* `FormulaSource.Sound`, `StoredSource.Sound`: what the checks leave to rely on;
* `Coordinates`: a formula or a stored coordinate; `Recipe.exists_coordinates` says that every transform
  that a recipe makes is sound.
-/

namespace Gridded

/-- The term to whose unit the others are converted. -/
def Formula.referenceTerm : Formula → Option String
  | .atmosSigma | .hybridSigmaPressure => some "ps"
  | .hybridHeight => some "a"
  | .oceanSigma | .oceanS | .oceanSG1 | .oceanSG2 => some "depth"
  | .existingField => none

/-- The terms with horizontal dimensions: the surface and, in the ocean, the depth. -/
def Formula.horizontalTerms : Formula → List String
  | .atmosSigma | .hybridSigmaPressure => ["ps"]
  | .hybridHeight => ["orog"]
  | .oceanSigma | .oceanS | .oceanSG1 | .oceanSG2 => ["eta", "depth"]
  | .existingField => []

/-- The lists of numbers by level. -/
def Column.lists {α : Type} : Column α → List (List α)
  | sigma xs _ _ | oceanSigma xs => [xs]
  | hybridPressure offset share _ | hybridHeight offset share => [offset, share]
  | stretched s curve _ | blended s curve _ => [s, curve]

/-- The horizontal terms: the surface and, in the ocean, the depth. -/
def FormulaSource.terms {α : Type} (f : FormulaSource α) : List (HorizontalTerm α) :=
  f.surface :: f.depth.toList

/-- The planes are what the surface and the depth load, the surface also in place of a depth. -/
theorem FormulaSource.planes_eq_ok {α : Type} [Scalar α] {f : FormulaSource α} {step : Nat}
    {surface depth : Tensor α} : f.planes step = .ok (surface, depth) ↔
      f.surface.load f.base.dataset step = .ok surface ∧
        (f.depth.getD f.surface).load f.base.dataset step = .ok depth := by
  unfold planes
  rcases f.depth with _ | g
  · constructor
    · intro h
      obtain ⟨plane, hplane, h⟩ := bind_eq_ok.1 h
      cases h
      exact ⟨hplane, hplane⟩
    · rintro ⟨hsurface, hdepth⟩
      cases hsurface.symm.trans hdepth
      exact bind_eq_ok.2 ⟨surface, hsurface, rfl⟩
  · constructor
    · intro h
      obtain ⟨plane, hplane, h⟩ := bind_eq_ok.1 h
      obtain ⟨other, hother, h⟩ := bind_eq_ok.1 h
      cases h
      exact ⟨hplane, hother⟩
    · rintro ⟨hsurface, hdepth⟩
      exact bind_eq_ok.2 ⟨surface, hsurface, bind_eq_ok.2 ⟨depth, hdepth, rfl⟩⟩

theorem FormulaSource.mem_terms {α : Type} {f : FormulaSource α} {g : HorizontalTerm α} :
    g ∈ f.terms ↔ g = f.surface ∨ g = f.depth.getD f.surface := by
  unfold terms
  cases f.depth <;> simp

/-! ### Formulas as they are read -/

namespace Recipe

variable {α : Type} [Scalar α] [Hyperbolic α]

/-- The numbers by level of a formula, where the reference term has the unit `unit`. -/
inductive Columns (r : Recipe α) (unit : Option String) : Formula → Column α → Prop
  | atmosSigma {sigma : List α} {top : α}
    (hsigma : r.levels .atmosSigma "sigma" none = .ok sigma)
    (htop : r.number .atmosSigma "ptop" unit = .ok top) :
    Columns r unit .atmosSigma (.sigma sigma top (r.pressureOutput unit).2)
  | hybridSigmaPressure {offset share : List α}
    (hoffset : r.pressureOffset unit = .ok offset)
    (hshare : r.levels .hybridSigmaPressure "b" none = .ok share)
    (hlength : offset.length = share.length) :
    Columns r unit .hybridSigmaPressure (.hybridPressure offset share (r.pressureOutput unit).2)
  | hybridHeight {offset share : List α}
    (hoffset : r.levels .hybridHeight "a" none = .ok offset)
    (hshare : r.levels .hybridHeight "b" none = .ok share)
    (hlength : offset.length = share.length) :
    Columns r unit .hybridHeight (.hybridHeight offset share)
  | oceanSigma {sigma : List α} (hsigma : r.levels .oceanSigma "sigma" none = .ok sigma) :
    Columns r unit .oceanSigma (.oceanSigma sigma)
  | oceanS {s : List α} {a b critical : α} (hs : r.levels .oceanS "s" none = .ok s)
    (ha : r.number .oceanS "a" none = .ok a) (hb : r.number .oceanS "b" none = .ok b)
    (hcritical : r.number .oceanS "depth_c" unit = .ok critical) :
    Columns r unit .oceanS (.stretched s (s.map fun s => stretching s a b) critical)
  | oceanSG1 {s curve : List α} {critical : α} (hs : r.levels .oceanSG1 "s" none = .ok s)
    (hcurve : r.levels .oceanSG1 "C" none = .ok curve) (hlength : s.length = curve.length)
    (hcritical : r.number .oceanSG1 "depth_c" unit = .ok critical) :
    Columns r unit .oceanSG1 (.stretched s curve critical)
  | oceanSG2 {s curve : List α} {critical : α} (hs : r.levels .oceanSG2 "s" none = .ok s)
    (hcurve : r.levels .oceanSG2 "C" none = .ok curve) (hlength : s.length = curve.length)
    (hcritical : r.number .oceanSG2 "depth_c" unit = .ok critical) :
    Columns r unit .oceanSG2 (.blended s curve critical)

/-- The whole formula: its reference term has the unit `unit`, its horizontal terms are read in that
unit and have the same sides, and its base has the extent and the time steps of what is read. -/
structure Makes (r : Recipe α) (formula : Formula) (unit : Option String) (f : FormulaSource α) :
    Prop where
  reference : ∃ term v, formula.referenceTerm = some term ∧ r.Binds term v ∧ v.units? = unit
  column : r.Columns unit formula f.column
  terms : List.Forall₂ (fun term g => r.horizontal formula term unit = .ok g)
    formula.horizontalTerms f.terms
  extent : ∀ g ∈ f.terms, g.rows = f.surface.rows ∧ g.columns = f.surface.columns
  base : ∃ times outUnit,
    f.base = r.base formula ⟨f.column.size, f.surface.rows, f.surface.columns⟩ times outUnit ∧
      ∀ g ∈ f.terms, ∀ n, g.times = some n → times = some n

variable {r : Recipe α} {formula : Formula} {unit : Option String} {f : FormulaSource α}

/-- All lists of numbers by level are equally long. -/
theorem Columns.length_eq {c : Column α} (h : r.Columns unit formula c) :
    ∀ xs ∈ c.lists, xs.length = c.size := by
  cases h <;> simp_all [Column.lists, Column.size]

omit [Scalar α] [Hyperbolic α] in
theorem sameLevels_eq_ok {term : String} {expected found : List α} :
    r.sameLevels formula term expected found = .ok () ↔ expected.length = found.length := by
  unfold sameLevels
  split_ifs with h
  · exact iff_of_true rfl h
  · refine iff_of_false (fun herror => ?_) h
    obtain ⟨v, -, herror⟩ := bind_eq_ok.1 herror
    cases herror

/-! ### Makers over one horizontal term -/

/-- A formula over a surface that is the only horizontal term. -/
theorem makes_overSurface {term : String} {c : Column α} {surface : HorizontalTerm α}
    {outUnit : Option String}
    (hreference : ∃ term v, formula.referenceTerm = some term ∧ r.Binds term v ∧ v.units? = unit)
    (hcolumn : r.Columns unit formula c) (hterms : formula.horizontalTerms = [term])
    (hsurface : r.horizontal formula term unit = .ok surface) :
    r.Makes formula unit (r.overSurface formula c surface outUnit) where
  reference := hreference
  column := hcolumn
  terms := by
    rw [hterms]
    exact .cons hsurface .nil
  extent := by
    intro g hg
    cases List.mem_singleton.1 hg
    exact ⟨rfl, rfl⟩
  base := by
    refine ⟨surface.times, outUnit, rfl, ?_⟩
    intro g hg
    cases List.mem_singleton.1 hg
    exact fun n hn => hn

/-- The surface pressure is its own reference. -/
theorem makes_overPressure {c : Column α} {surface : HorizontalTerm α} {outUnit : Option String}
    (hterms : formula.horizontalTerms = ["ps"]) (hreference : formula.referenceTerm = some "ps")
    (hsurface : r.horizontal formula "ps" none = .ok surface)
    (hcolumn : r.Columns surface.var.units? formula c) :
    r.Makes formula surface.var.units? (r.overSurface formula c surface outUnit) := by
  obtain ⟨v, hv, hf⟩ := horizontal_eq_ok.1 hsurface
  rw [hf.var_eq] at hcolumn
  rw [hf.var_eq]
  refine makes_overSurface ⟨"ps", v, hreference, hv, rfl⟩ hcolumn hterms ?_
  rw [← hf.var_eq]
  exact horizontal_self hsurface

theorem makes_of_atmosSigma (h : r.atmosSigma = .ok f) : ∃ unit, r.Makes .atmosSigma unit f := by
  obtain ⟨surface, hsurface, h⟩ := bind_eq_ok.1 h
  obtain ⟨sigma, hsigma, h⟩ := bind_eq_ok.1 h
  obtain ⟨top, htop, h⟩ := bind_eq_ok.1 h
  cases h
  exact ⟨_, makes_overPressure rfl rfl hsurface (.atmosSigma hsigma htop)⟩

theorem makes_of_hybridSigmaPressure (h : r.hybridSigmaPressure = .ok f) :
    ∃ unit, r.Makes .hybridSigmaPressure unit f := by
  obtain ⟨surface, hsurface, h⟩ := bind_eq_ok.1 h
  obtain ⟨share, hshare, h⟩ := bind_eq_ok.1 h
  obtain ⟨offset, hoffset, h⟩ := bind_eq_ok.1 h
  obtain ⟨⟨⟩, hlength, h⟩ := bind_eq_ok.1 h
  cases h
  exact ⟨_, makes_overPressure rfl rfl hsurface
    (.hybridSigmaPressure hoffset hshare (sameLevels_eq_ok.1 hlength))⟩

theorem makes_of_hybridHeight (h : r.hybridHeight = .ok f) :
    ∃ unit, r.Makes .hybridHeight unit f := by
  obtain ⟨v, hv, h⟩ := bind_eq_ok.1 h
  obtain ⟨offset, hoffset, h⟩ := bind_eq_ok.1 h
  obtain ⟨share, hshare, h⟩ := bind_eq_ok.1 h
  obtain ⟨⟨⟩, hlength, h⟩ := bind_eq_ok.1 h
  obtain ⟨ground, hground, h⟩ := bind_eq_ok.1 h
  cases h
  exact ⟨_, makes_overSurface ⟨"a", v, rfl, variableOf_eq_ok.1 hv, rfl⟩
    (.hybridHeight hoffset hshare (sameLevels_eq_ok.1 hlength)) rfl hground⟩

/-! ### Makers over the depth -/

/-- A formula of the ocean reads its column once the unit of the depth is known. -/
theorem makes_of_overDepth {column : Option String → Except Error (Column α)}
    (hreference : formula.referenceTerm = some "depth")
    (hterms : formula.horizontalTerms = ["eta", "depth"])
    (hcolumn : ∀ unit c, column unit = .ok c → r.Columns unit formula c)
    (h : r.overDepth formula column = .ok f) : ∃ unit, r.Makes formula unit f := by
  obtain ⟨v, hv, h⟩ := bind_eq_ok.1 h
  obtain ⟨depth, hdepth, h⟩ := bind_eq_ok.1 h
  obtain ⟨surface, hsurface, h⟩ := bind_eq_ok.1 h
  obtain ⟨c, hc, h⟩ := bind_eq_ok.1 h
  obtain ⟨⟨⟩, hshape, h⟩ := bind_eq_ok.1 h
  obtain ⟨times, htimes, h⟩ := bind_eq_ok.1 h
  cases h
  have hbinds : r.Binds "depth" v := variableOf_eq_ok.1 hv
  have hself : r.horizontal formula "depth" v.units? = .ok depth := by
    obtain ⟨v', hv', hf⟩ := horizontal_eq_ok.1 hdepth
    rw [hbinds.unique hv', ← hf.var_eq]
    exact horizontal_self hdepth
  refine ⟨v.units?, ⟨"depth", v, hreference, hbinds, rfl⟩, hcolumn _ _ hc, ?_, ?_, ?_⟩
  · rw [hterms]
    exact .cons hsurface (.cons hself .nil)
  · exact List.forall_mem_cons.2 ⟨⟨rfl, rfl⟩,
      List.forall_mem_singleton.2 (HorizontalTerm.sameShape_eq_ok.1 hshape)⟩
  · exact ⟨times, v.units?, rfl, fun g hg n hn => HorizontalTerm.times_of_commonTimes htimes hg hn⟩

omit [Hyperbolic α] in
theorem readCurve_eq_ok {s curve : List α} {critical : α} :
    r.readCurve formula unit = .ok (s, curve, critical) ↔
      r.levels formula "s" none = .ok s ∧ r.levels formula "C" none = .ok curve ∧
        s.length = curve.length ∧ r.number formula "depth_c" unit = .ok critical := by
  simp only [readCurve, bind_eq_ok, pure_eq_ok]
  constructor
  · rintro ⟨s, hs, curve, hcurve, ⟨⟩, hlength, critical, hcritical, h⟩
    cases h
    exact ⟨hs, hcurve, sameLevels_eq_ok.1 hlength, hcritical⟩
  · rintro ⟨hs, hcurve, hlength, hcritical⟩
    exact ⟨s, hs, curve, hcurve, (), sameLevels_eq_ok.2 hlength, critical, hcritical, rfl⟩

theorem makes_of_oceanSigma (h : r.oceanSigma = .ok f) : ∃ unit, r.Makes .oceanSigma unit f := by
  refine makes_of_overDepth rfl rfl (fun unit c hc => ?_) h
  obtain ⟨sigma, hsigma, rfl⟩ := map_eq_ok.1 hc
  exact .oceanSigma hsigma

theorem makes_of_oceanS (h : r.oceanS = .ok f) : ∃ unit, r.Makes .oceanS unit f := by
  refine makes_of_overDepth rfl rfl (fun unit c hc => ?_) h
  obtain ⟨s, hs, hc⟩ := bind_eq_ok.1 hc
  obtain ⟨a, ha, hc⟩ := bind_eq_ok.1 hc
  obtain ⟨b, hb, hc⟩ := bind_eq_ok.1 hc
  obtain ⟨critical, hcritical, hc⟩ := bind_eq_ok.1 hc
  cases hc
  exact .oceanS hs ha hb hcritical

theorem makes_of_oceanSG1 (h : r.oceanSG1 = .ok f) : ∃ unit, r.Makes .oceanSG1 unit f := by
  refine makes_of_overDepth rfl rfl (fun unit c hc => ?_) h
  obtain ⟨⟨s, curve, critical⟩, hread, hc⟩ := bind_eq_ok.1 hc
  obtain ⟨hs, hcurve, hlength, hcritical⟩ := readCurve_eq_ok.1 hread
  cases hc
  exact .oceanSG1 hs hcurve hlength hcritical

theorem makes_of_oceanSG2 (h : r.oceanSG2 = .ok f) : ∃ unit, r.Makes .oceanSG2 unit f := by
  refine makes_of_overDepth rfl rfl (fun unit c hc => ?_) h
  obtain ⟨⟨s, curve, critical⟩, hread, hc⟩ := bind_eq_ok.1 hc
  obtain ⟨hs, hcurve, hlength, hcritical⟩ := readCurve_eq_ok.1 hread
  cases hc
  exact .oceanSG2 hs hcurve hlength hcritical

/-- **Every formula is read as `Makes` says.** -/
theorem exists_makes {t : VerticalTransform α} (h : r.make formula = .ok t)
    (hformula : formula ≠ .existingField) :
    ∃ unit f, t = .source f.source ∧ r.Makes formula unit f := by
  have hmap : ∀ {x : Except Error (FormulaSource α)},
      (∀ {f}, x = .ok f → ∃ unit, r.Makes formula unit f) →
      (VerticalTransform.source ·.source) <$> x = .ok t →
        ∃ unit f, t = .source f.source ∧ r.Makes formula unit f := by
    intro x hx hmap
    obtain ⟨f, hf, rfl⟩ := map_eq_ok.1 hmap
    obtain ⟨unit, hmakes⟩ := hx hf
    exact ⟨unit, f, rfl, hmakes⟩
  cases formula with
  | atmosSigma => exact hmap makes_of_atmosSigma h
  | hybridSigmaPressure => exact hmap makes_of_hybridSigmaPressure h
  | hybridHeight => exact hmap makes_of_hybridHeight h
  | oceanSigma => exact hmap makes_of_oceanSigma h
  | oceanS => exact hmap makes_of_oceanS h
  | oceanSG1 => exact hmap makes_of_oceanSG1 h
  | oceanSG2 => exact hmap makes_of_oceanSG2 h
  | existingField => exact absurd rfl hformula

end Recipe

/-! ### What the checks leave to rely on -/

section Sound

variable {α : Type} [Scalar α]

/-- What can be relied on in a formula that is made from `d`: there is a number at every level, and each
horizontal term has the extent of the grid and, if it varies in time, its time steps. -/
structure FormulaSource.Sound (d : Dataset α) (f : FormulaSource α) : Prop where
  levels : ∀ xs ∈ f.column.lists, xs.length = f.base.shape.levels
  loaded : ∀ g ∈ f.terms, ∃ name v factor, d.find? name = some v ∧ g.Loaded d v factor
  extent : ∀ g ∈ f.terms, g.rows = f.base.shape.rows ∧ g.columns = f.base.shape.columns
  times : ∀ g ∈ f.terms, ∀ n, g.times = some n → f.base.times = some n

theorem StoredSource.isFull_of_clean {f : StoredSource α} {data cleaned : Tensor α}
    (hdata : data.IsFull) (h : f.clean data = .ok cleaned) : cleaned.IsFull := by
  unfold clean at h
  split_ifs at h with hshape
  dsimp only at h
  split_ifs at h <;> cases h
  · exact Tensor.isFull_map hdata _
  · exact hdata

/-- What can be relied on in a coordinate that `d` holds: without time steps it was read in advance. -/
inductive StoredSource.Sound (d : Dataset α) : StoredSource α → Prop
  | static {base : VerticalBase α} {v : Variable α} {data cleaned : Tensor α}
    (htimes : base.times = none) (hread : d.read v.name = .ok data)
    (hclean : StoredSource.clean ⟨base, v, none⟩ data = .ok cleaned) :
    Sound d ⟨base, v, some cleaned⟩
  | timed {base : VerticalBase α} {name : String} {v : Variable α} {n : Nat}
    (hfind : d.find? name = some v) (htimes : base.times = some n)
    (hshape : v.shape = n :: base.shape.toList) : Sound d ⟨base, v, none⟩

/-- A formula, or a coordinate that a dataset holds. -/
inductive Coordinates (α : Type)
  | formula (f : FormulaSource α)
  | stored (f : StoredSource α)

namespace Coordinates

/-- The base. -/
def base : Coordinates α → VerticalBase α
  | formula f => f.base
  | stored f => f.base

/-- The source. -/
def source : Coordinates α → VerticalSource α
  | formula f => f.source
  | stored f => f.source

/-- What can be relied on. -/
def Sound (d : Dataset α) : Coordinates α → Prop
  | formula f => f.Sound d
  | stored f => f.Sound d

end Coordinates

namespace Recipe

variable {r : Recipe α}

theorem Makes.sound [Hyperbolic α] {formula : Formula} {unit : Option String} {f : FormulaSource α}
    (h : r.Makes formula unit f) : f.Sound r.dataset := by
  obtain ⟨times, outUnit, hbase, htimes⟩ := h.base
  have hloaded : ∀ g ∈ f.terms, ∃ name v factor,
      r.dataset.find? name = some v ∧ g.Loaded r.dataset v factor := by
    intro g hg
    obtain ⟨term, -, hread⟩ := mem_forall₂ h.terms.flip hg
    obtain ⟨v, ⟨name, -, hv⟩, hf⟩ := horizontal_eq_ok.1 hread
    exact ⟨name, v, _, hv, hf⟩
  refine ⟨?_, hloaded, ?_, ?_⟩
  · rw [hbase]
    exact h.column.length_eq
  · rw [hbase]
    exact h.extent
  · rw [hbase]
    exact htimes

theorem Makes.dataset_eq [Hyperbolic α] {formula : Formula} {unit : Option String}
    {f : FormulaSource α} (h : r.Makes formula unit f) : f.base.dataset = r.dataset := by
  obtain ⟨times, outUnit, hbase, -⟩ := h.base
  rw [hbase]
  rfl

omit [Scalar α] in
theorem find?_of_storedVariable {v : Variable α} (h : r.storedVariable = .ok v) :
    ∃ name, r.dataset.find? name = some v := by
  unfold storedVariable at h
  dsimp only at h
  split at h
  · cases h
  · split at h
    · cases h
    · rename_i hfind
      cases h
      exact ⟨_, hfind⟩

theorem sound_of_existingField {f : StoredSource α} (h : r.existingField = .ok f) :
    f.Sound r.dataset ∧ ∃ shape times unit, f.base = r.base .existingField shape times unit := by
  obtain ⟨v, hv, h⟩ := bind_eq_ok.1 h
  obtain ⟨name, hfind⟩ := find?_of_storedVariable hv
  split at h
  · obtain ⟨data, hread, h⟩ := bind_eq_ok.1 h
    obtain ⟨cleaned, hclean, h⟩ := bind_eq_ok.1 h
    cases h
    exact ⟨.static rfl hread hclean, _, _, _, rfl⟩
  · rename_i hshape
    cases h
    exact ⟨.timed hfind rfl hshape, _, _, _, rfl⟩
  · cases h

/-- **Every transform that a recipe makes is sound.** It reads the dataset of the recipe and treats time
indices as the settings say. -/
theorem exists_coordinates [Hyperbolic α] {formula : Formula} {t : VerticalTransform α}
    (h : r.make formula = .ok t) : ∃ c : Coordinates α, t = .source c.source ∧
      c.Sound r.dataset ∧ c.base.dataset = r.dataset ∧
        c.base.strictTimeIndex = r.settings.strictTimeIndex := by
  by_cases hformula : formula = .existingField
  · subst hformula
    obtain ⟨f, hf, rfl⟩ := map_eq_ok.1 h
    obtain ⟨hsound, shape, times, unit, hbase⟩ := sound_of_existingField hf
    refine ⟨.stored f, rfl, hsound, ?_⟩
    rw [Coordinates.base, hbase]
    exact ⟨rfl, rfl⟩
  · obtain ⟨unit, f, rfl, hmakes⟩ := exists_makes h hformula
    obtain ⟨times, outUnit, hbase, -⟩ := hmakes.base
    refine ⟨.formula f, rfl, hmakes.sound, ?_⟩
    rw [Coordinates.base, hbase]
    exact ⟨rfl, rfl⟩

/-- The transform carries the formula by which it is made. -/
theorem formula_of_make [Hyperbolic α] {formula : Formula} {t : VerticalTransform α}
    (h : r.make formula = .ok t) : t.formula = formula := by
  by_cases hformula : formula = .existingField
  · subst hformula
    obtain ⟨f, hf, rfl⟩ := map_eq_ok.1 h
    obtain ⟨-, shape, times, unit, hbase⟩ := sound_of_existingField hf
    show f.base.formula = .existingField
    rw [hbase]
    rfl
  · obtain ⟨unit, f, rfl, hmakes⟩ := exists_makes h hformula
    obtain ⟨times, outUnit, hbase, -⟩ := hmakes.base
    show f.base.formula = formula
    rw [hbase]
    rfl

end Recipe

end Sound

end Gridded
