import Mathlib.Algebra.Order.Field.Basic
import Mathlib.Analysis.Convex.Basic
import Mathlib.Tactic.FieldSimp
import Mathlib.Tactic.Linarith
import Mathlib.Tactic.Positivity
import Mathlib.Tactic.Ring
import Gridded.Proofs.Vertical.Entries
import Gridded.Proofs.Vertical.Formulas

/-!
# Water columns

Three formulas of the ocean read where the levels lie, as shares of the water column between minus one at the
sea floor and zero at the free surface. The share of a level is a weighted mean of the numbers that are read
for it. The weights are the same at all levels, so whatever holds of the numbers and is kept by means holds
of the shares.

* `Formula.share`: the share at which a level lies, with `Formula.coordinate_eq_share`;
* `Formula.IsSea`: water above a point of the ground;
* `Formula.IsSea.mean_mem`: the mean of numbers of a convex set lies in it;
* `Dataset.Holds.unique`, `Reading.At.value_congr`: the numbers of the point are those of all its levels;
* `VerticalTransform.levels_in_water`: the levels lie in the water, in their order.
-/

namespace Gridded

/-! ### Shares -/

namespace Formula

/-- The terms with a number for each level. -/
def levelTerms (formula : Formula) (f : FormulaTerms) : List String :=
  (formula.usedTerms f).filter fun term => formula.termKind term = .level

/-- The formulas that read the shares of the water column. -/
def readsShares : Formula → Bool
  | oceanSigma | oceanSG1 | oceanSG2 => true
  | _ => false

/-- The terms of which the share is a mean. -/
def shareTerms : Formula → String × String
  | oceanSigma => ("sigma", "sigma")
  | _ => ("s", "C")

/-- The weight of the first of them. -/
def firstWeight (x : String → ℚ) : Formula → ℚ
  | oceanSG1 => x "depth_c" / x "depth"
  | oceanSG2 => x "depth_c" / (x "depth_c" + x "depth")
  | _ => 1

/-- The mean of numbers `y` for the terms, with the weights for the values `x`. -/
def mean (formula : Formula) (x y : String → ℚ) : ℚ :=
  formula.firstWeight x * y formula.shareTerms.1 + (1 - formula.firstWeight x) * y formula.shareTerms.2

/-- The share of the water column at which a level lies where the terms have the values `x`. -/
def share (formula : Formula) (x : String → ℚ) : ℚ := formula.mean x x

/-- There is water above a point of the ground, and the critical depth is one that the formula can do
with. -/
structure IsSea (formula : Formula) (x : String → ℚ) : Prop where
  depth_pos : 0 < x "depth"
  surface : -x "depth" < x "eta"
  critical_nonneg : formula ≠ .oceanSigma → 0 ≤ x "depth_c"
  critical_le : formula = .oceanSG1 → x "depth_c" ≤ x "depth"

variable {formula : Formula} {f : FormulaTerms} {x y : String → ℚ}

theorem IsUsed.mem_levelTerms {term : String} (h : formula.IsUsed term)
    (hkind : formula.termKind term = .level) (f : FormulaTerms) : term ∈ formula.levelTerms f :=
  List.mem_filter.2 ⟨h.mem_usedTerms f, by simp [hkind]⟩

theorem shareTerms_mem (hreads : formula.readsShares = true) (f : FormulaTerms) :
    formula.shareTerms.1 ∈ formula.levelTerms f ∧ formula.shareTerms.2 ∈ formula.levelTerms f := by
  cases formula with
  | oceanSigma | oceanSG1 | oceanSG2 =>
    exact ⟨IsUsed.mem_levelTerms (by decide) rfl f, IsUsed.mem_levelTerms (by decide) rfl f⟩
  | _ => cases hreads

/-- The values are those of one point: they are the same, save for the numbers of the levels. -/
def SamePoint (formula : Formula) (f : FormulaTerms) (x y : String → ℚ) : Prop :=
  ∀ term ∈ formula.usedTerms f, formula.termKind term ≠ .level → x term = y term

theorem SamePoint.eq (h : formula.SamePoint f x y) (hreads : formula.readsShares = true) :
    x "eta" = y "eta" ∧ x "depth" = y "depth" ∧ formula.firstWeight x = formula.firstWeight y := by
  have hterm : ∀ {term}, formula.IsUsed term → formula.termKind term ≠ .level → x term = y term :=
    fun hused hkind => h _ (hused.mem_usedTerms f) hkind
  cases formula with
  | oceanSigma => exact ⟨hterm (by decide) (by decide), hterm (by decide) (by decide), rfl⟩
  | oceanSG1 | oceanSG2 =>
    have hdepth : x "depth" = y "depth" := hterm (by decide) (by decide)
    have hcritical : x "depth_c" = y "depth_c" := hterm (by decide) (by decide)
    exact ⟨hterm (by decide) (by decide), hdepth, by simp only [firstWeight, hdepth, hcritical]⟩
  | _ => cases hreads

theorem blendedShare_eq_share (h : oceanSG2.IsSea x) :
    Column.blendedShare (x "s") (x "C") (x "depth_c") (x "depth") = oceanSG2.share x := by
  have hcritical := h.critical_nonneg (by decide)
  have hne : x "depth_c" + x "depth" ≠ 0 := by linarith [h.depth_pos]
  simp only [Column.blendedShare, share, mean, firstWeight, shareTerms]
  field_simp
  ring

/-- A level lies at its share of the water column below the surface. -/
theorem coordinate_eq_share [Hyperbolic ℚ] (hreads : formula.readsShares = true)
    (h : formula.IsSea x) :
    formula.coordinate f x = x "eta" + (x "eta" + x "depth") * formula.share x := by
  have hdepth := h.depth_pos.ne'
  cases formula with
  | oceanSigma =>
    simp only [coordinate, share, mean, firstWeight, shareTerms]
    ring
  | oceanSG1 =>
    simp only [coordinate, share, mean, firstWeight, shareTerms]
    field_simp
    ring
  | oceanSG2 =>
    rw [← blendedShare_eq_share h]
    rfl
  | _ => cases hreads

namespace IsSea

theorem weight_mem (h : formula.IsSea x) :
    0 ≤ formula.firstWeight x ∧ formula.firstWeight x ≤ 1 := by
  have hdepth := h.depth_pos
  unfold firstWeight
  split
  · have hcritical := h.critical_nonneg (by decide)
    exact ⟨div_nonneg hcritical hdepth.le, (div_le_one hdepth).2 (h.critical_le rfl)⟩
  · have hcritical := h.critical_nonneg (by decide)
    exact ⟨by positivity, (div_le_one (by linarith)).2 (by linarith)⟩
  · exact ⟨zero_le_one, le_rfl⟩

/-- The mean of numbers from a convex set is one of the set. -/
theorem mean_mem (h : formula.IsSea x) (hreads : formula.readsShares = true) {S : Set ℚ}
    (hS : Convex ℚ S) (hy : ∀ term ∈ formula.levelTerms f, y term ∈ S) : formula.mean x y ∈ S := by
  obtain ⟨hnonneg, hle⟩ := h.weight_mem
  obtain ⟨hfirst, hsecond⟩ := shareTerms_mem hreads f
  exact hS (hy _ hfirst) (hy _ hsecond) hnonneg (sub_nonneg.2 hle) (by ring)

/-- A level between the shares of the floor and of the surface lies between the floor and the surface. -/
theorem coordinate_mem [Hyperbolic ℚ] (h : formula.IsSea x) (hreads : formula.readsShares = true)
    (hx : ∀ term ∈ formula.levelTerms f, x term ∈ Set.Icc (-1) 0) :
    -x "depth" ≤ formula.coordinate f x ∧ formula.coordinate f x ≤ x "eta" := by
  obtain ⟨hlow, hhigh⟩ : formula.share x ∈ Set.Icc (-1) 0 := h.mean_mem hreads (convex_Icc _ _) hx
  have hheight : 0 < x "eta" + x "depth" := by linarith [h.surface]
  rw [coordinate_eq_share hreads h]
  constructor <;> nlinarith

/-- A level whose numbers are all the same lies at the share of this number. -/
theorem coordinate_eq [Hyperbolic ℚ] (h : formula.IsSea x) (hreads : formula.readsShares = true)
    {c : ℚ} (hx : ∀ term ∈ formula.levelTerms f, x term = c) :
    formula.coordinate f x = x "eta" + (x "eta" + x "depth") * c := by
  have hshare : formula.share x = c := h.mean_mem hreads (convex_singleton c) hx
  rw [coordinate_eq_share hreads h, hshare]

/-- Where only the numbers of the levels differ, so does the share, by the mean of their differences. -/
theorem coordinate_sub [Hyperbolic ℚ] (hx : formula.IsSea x) (hy : formula.IsSea y)
    (hreads : formula.readsShares = true) (hsame : formula.SamePoint f x y) :
    formula.coordinate f y - formula.coordinate f x =
      (x "eta" + x "depth") * formula.mean x (y - x) := by
  obtain ⟨heta, hdepth, hweight⟩ := hsame.eq hreads
  rw [coordinate_eq_share hreads hx, coordinate_eq_share hreads hy, ← heta, ← hdepth]
  simp only [share, mean, ← hweight, Pi.sub_apply]
  ring

/-- Levels at one point lie in the order of their numbers. -/
theorem coordinate_le [Hyperbolic ℚ] (hx : formula.IsSea x) (hy : formula.IsSea y)
    (hreads : formula.readsShares = true) (hsame : formula.SamePoint f x y)
    (hle : ∀ term ∈ formula.levelTerms f, x term ≤ y term) :
    formula.coordinate f x ≤ formula.coordinate f y := by
  have hmean : formula.mean x (y - x) ∈ Set.Ici 0 :=
    hx.mean_mem hreads (convex_Ici 0) fun term hterm => sub_nonneg.2 (hle term hterm)
  rw [← sub_nonneg, hx.coordinate_sub hy hreads hsame]
  exact mul_nonneg (by linarith [hx.surface]) hmean

/-- Levels at one point with different numbers lie at different places. -/
theorem coordinate_lt [Hyperbolic ℚ] (hx : formula.IsSea x) (hy : formula.IsSea y)
    (hreads : formula.readsShares = true) (hsame : formula.SamePoint f x y)
    (hlt : ∀ term ∈ formula.levelTerms f, x term < y term) :
    formula.coordinate f x < formula.coordinate f y := by
  have hmean : formula.mean x (y - x) ∈ Set.Ioi 0 :=
    hx.mean_mem hreads (convex_Ioi 0) fun term hterm => sub_pos.2 (hlt term hterm)
  rw [← sub_pos, hx.coordinate_sub hy hreads hsame]
  exact mul_pos (by linarith [hx.surface]) hmean

end IsSea

end Formula

/-! ### Numbers of a point -/

/-- Without levels, a variable has one number at a point. -/
theorem Dataset.Holds.unique {α : Type} {d : Dataset α} {v : Variable α} {n k l j i : Nat}
    {kind : TermKind} {x y : α} (hx : d.Holds v n k j i kind x) (hy : d.Holds v n l j i kind y)
    (hkind : kind ≠ .level) : x = y := by
  cases hx with
  | level => exact absurd rfl hkind
  | number hread hentry =>
    cases hy with
    | number hread' hentry' =>
      cases hread.symm.trans hread'
      simpa using hentry.symm.trans hentry'
  | static hshape hread hdata hentry =>
    cases hy with
    | static hshape' hread' hdata' hentry' =>
      cases hread.symm.trans hread'
      exact Option.some.inj (hentry.symm.trans hentry')
    | timed hshape' => cases hshape.symm.trans hshape'
  | timed hshape hread hdata hentry =>
    cases hy with
    | static hshape' => cases hshape.symm.trans hshape'
    | timed hshape' hread' hdata' hentry' =>
      cases hread.symm.trans hread'
      exact Option.some.inj (hentry.symm.trans hentry')

namespace Reading

variable {x y : Reading} {f : FormulaTerms} {d : Dataset ℚ} {formula : Formula} {n k l j i : Nat}
  {term : String}

/-- The variables of the terms do not depend on the level. -/
theorem At.var_eq (hx : x.At f d formula n k j i) (hy : y.At f d formula n l j i)
    (hterm : term ∈ formula.usedTerms f) : x.var term = y.var term := by
  obtain ⟨name, hname, hfind⟩ := hx.bound term hterm
  obtain ⟨name', hname', hfind'⟩ := hy.bound term hterm
  rw [← FormulaTerms.find?_eq_some] at hname hname'
  cases hname.symm.trans hname'
  exact Option.some.inj (hfind.symm.trans hfind')

/-- At all levels of a point, the other terms have the same values. -/
theorem At.samePoint (hx : x.At f d formula n k j i) (hy : y.At f d formula n l j i)
    (settings : Settings) (converted : List String) :
    formula.SamePoint f (x.value settings formula converted) (y.value settings formula converted) := by
  intro term hterm hkind
  have hnumber : x.number term = y.number term := by
    have hholds := hx.holds term hterm
    rw [hx.var_eq hy hterm] at hholds
    exact hholds.unique (hy.holds term hterm) hkind
  have hunit : x.unit formula = y.unit formula := by
    unfold unit
    refine Option.bind_congr fun reference hreference => ?_
    rw [hx.var_eq hy ((Formula.isUsed_of_referenceTerm hreference).mem_usedTerms f)]
  rw [value, value, hnumber, hx.var_eq hy hterm, hunit]

end Reading

/-! ### Transforms -/

namespace VerticalTransform

/-- **Levels lie in the water, in their order.** Make a formula that reads shares of the water column. At a
time index that is accepted and a point of the grid, let the terms have values `v k` at every level `k`,
such that there is water, the numbers of the levels are shares between minus one and zero, and they do not
decrease. Then each level has a coordinate, in the array and in the column above the point. It lies between
the sea floor and the free surface, on one of them where the numbers say so, and the levels are in order,
strictly if their numbers are. -/
theorem levels_in_water [Hyperbolic ℚ] {r : Recipe ℚ} {formula : Formula} {t : VerticalTransform ℚ}
    (hmake : r.make formula = .ok t) (hreads : formula.readsShares = true) {n j i : Nat}
    (htime : TimeAccepted r.settings.strictTimeIndex t.times n)
    (hj : j < t.shape.rows) (hi : i < t.shape.columns) {v : Nat → String → ℚ}
    (hv : ∀ k < t.shape.levels, ∃ x : Reading, x.At r.terms r.dataset formula n k j i ∧
      v k = x.value r.settings formula formula.dimensionalTerms)
    (hsea : ∀ k < t.shape.levels, formula.IsSea (v k))
    (hbounds : ∀ k < t.shape.levels, ∀ term ∈ formula.levelTerms r.terms, v k term ∈ Set.Icc (-1) 0)
    (hordered : ∀ k l, k ≤ l → l < t.shape.levels →
      ∀ term ∈ formula.levelTerms r.terms, v k term ≤ v l term) :
    ∃ z : Nat → ℚ,
      (∀ k < t.shape.levels, ∀ lookup, t.coordinateAt lookup n k j i = .ok (z k)) ∧
      (∀ k < t.shape.levels, -v k "depth" ≤ z k ∧ z k ≤ v k "eta") ∧
      (∀ k l, k ≤ l → l < t.shape.levels → z k ≤ z l) ∧
      ((∀ k l, k < l → l < t.shape.levels →
          ∀ term ∈ formula.levelTerms r.terms, v k term < v l term) →
        ∀ k l, k < l → l < t.shape.levels → z k < z l) ∧
      (∀ k < t.shape.levels, (∀ term ∈ formula.levelTerms r.terms, v k term = -1) →
        z k = -v k "depth") ∧
      (∀ k < t.shape.levels, (∀ term ∈ formula.levelTerms r.terms, v k term = 0) →
        z k = v k "eta") ∧
      (formula = .oceanSG2 → ∀ k < t.shape.levels,
        Column.blendedShare (v k "s") (v k "C") (v k "depth_c") (v k "depth") ∈ Set.Icc (-1) 0) := by
  obtain ⟨hstored, hheight⟩ : formula ≠ .existingField ∧ formula.isPressure = false := by
    cases formula <;> simp_all [Formula.readsShares, Formula.isPressure]
  have hlevel : ∀ k < t.shape.levels, ∀ lookup,
      t.coordinateAt lookup n k j i = .ok (formula.coordinate r.terms (v k)) := by
    intro k hk lookup
    obtain ⟨x, hx, hvalue⟩ := hv k hk
    rw [hvalue, Recipe.coordinateAt_of_make hmake hstored hx ⟨htime, hk, hj, hi⟩ lookup,
      Formula.outputFactor_of_height hheight, mul_one]
  have hsame : ∀ k l, k < t.shape.levels → l < t.shape.levels →
      formula.SamePoint r.terms (v k) (v l) := by
    intro k l hk hl
    obtain ⟨x, hx, hxv⟩ := hv k hk
    obtain ⟨y, hy, hyv⟩ := hv l hl
    rw [hxv, hyv]
    exact hx.samePoint hy _ _
  refine ⟨fun k => formula.coordinate r.terms (v k), hlevel, fun k hk => ?_, fun k l hkl hl => ?_,
    fun hstrict k l hkl hl => ?_, fun k hk hfloor => ?_, fun k hk hsurface => ?_, fun h k hk => ?_⟩
  · exact (hsea k hk).coordinate_mem hreads (hbounds k hk)
  · have hk := hkl.trans_lt hl
    exact (hsea k hk).coordinate_le (hsea l hl) hreads (hsame k l hk hl) (hordered k l hkl hl)
  · have hk := hkl.trans hl
    exact (hsea k hk).coordinate_lt (hsea l hl) hreads (hsame k l hk hl) (hstrict k l hkl hl)
  · exact ((hsea k hk).coordinate_eq hreads hfloor).trans (by ring)
  · exact ((hsea k hk).coordinate_eq hreads hsurface).trans (by ring)
  · subst h
    rw [Formula.blendedShare_eq_share (hsea k hk)]
    exact (hsea k hk).mean_mem hreads (convex_Icc _ _) (hbounds k hk)

/-- Three levels of a sea whose depth is given in metres and whose surface in centimetres. -/
def shelfSea : Except Error (Recipe ℚ) := do
  let lib ← Library.addNamed Dictionary.empty "s" ["z"] none (.ofList [-1, -1 / 2, 0])
  let lib ← lib.addNamed "Cs" ["z"] none (.ofList [-1, -1 / 4, 0])
  let lib ← lib.addNamed "hc" [] (some "m") (.scalar 5)
  let lib ← lib.addNamed "h" ["y", "x"] (some "m") ⟨[1, 1], #[20]⟩
  let lib ← lib.addNamed "zeta" ["t", "y", "x"] (some "cm") ⟨[2, 1, 1], #[0, 200]⟩
  Recipe.of "sea" lib.toDataset
    (Dictionary.empty.insert "formula_terms" (.text "s: s C: Cs eta: zeta depth: h depth_c: hc")) {}

/-- Its terms at the second time, at a level where the two shares are given. -/
def shelfReading (share curve : ℚ) : Reading where
  var
    | "s" => ⟨"s", ["z"], [3], Dictionary.empty⟩
    | "C" => ⟨"Cs", ["z"], [3], Dictionary.empty⟩
    | "depth_c" => .withUnits ⟨"hc", [], [], Dictionary.empty⟩ "m"
    | "depth" => .withUnits ⟨"h", ["y", "x"], [1, 1], Dictionary.empty⟩ "m"
    | _ => .withUnits ⟨"zeta", ["t", "y", "x"], [2, 1, 1], Dictionary.empty⟩ "cm"
  number
    | "s" => share
    | "C" => curve
    | "depth_c" => 5
    | "depth" => 20
    | _ => 200

theorem shelfReading_at {r : Recipe ℚ} (h : shelfSea = .ok r) {k : Nat} {share curve : ℚ}
    (hs : [-1, -1 / 2, 0][k]? = some share) (hcurve : [-1, -1 / 4, 0][k]? = some curve) :
    (shelfReading share curve).At r.terms r.dataset .oceanSG2 1 k 0 0 := by
  cases h
  refine ⟨?_, ?_, ?_⟩ <;> show ∀ term ∈ ["s", "C", "eta", "depth", "depth_c"], _ <;>
    simp only [List.forall_mem_cons, List.not_mem_nil, false_implies, implies_true, and_true]
  · exact ⟨⟨_, FormulaTerms.find?_eq_some.1 rfl, rfl⟩, ⟨_, FormulaTerms.find?_eq_some.1 rfl, rfl⟩,
      ⟨_, FormulaTerms.find?_eq_some.1 rfl, rfl⟩, ⟨_, FormulaTerms.find?_eq_some.1 rfl, rfl⟩,
      ⟨_, FormulaTerms.find?_eq_some.1 rfl, rfl⟩⟩
  · exact ⟨.level rfl (List.getElem?_toArray.trans hs), .level rfl (List.getElem?_toArray.trans hcurve),
      .timed rfl rfl rfl rfl, .static rfl rfl rfl rfl, .number rfl rfl⟩
  · exact ⟨rfl, rfl, rfl, rfl, rfl⟩

/-- The values of the terms of this sea at a level. -/
def shelfValue (k : Nat) : String → ℚ :=
  (shelfReading ([-1, -1 / 2, 0].getD k 0) ([-1, -1 / 4, 0].getD k 0)).value {} .oceanSG2
    Formula.oceanSG2.dimensionalTerms

theorem make_shelfSea : ∃ r f, shelfSea = .ok r ∧ r.oceanSG2 = .ok f ∧ r.settings = {} ∧
    f.base.shape = ⟨3, 1, 1⟩ ∧ f.base.times = some 2 :=
  ⟨_, _, rfl, rfl, rfl, rfl, rfl⟩

/-- At the second time this sea is 22 metres high, from 20 metres below to 2 metres above. -/
theorem levels_in_water_shelfSea : ∃ r t, ∃ z : Nat → ℚ, shelfSea = .ok r ∧
    @Recipe.make ℚ _ nearZero r .oceanSG2 = .ok t ∧
    (∀ k < 3, ∀ lookup, t.coordinateAt lookup 1 k 0 0 = .ok (z k)) ∧
    z 0 = -20 ∧ z 0 < z 1 ∧ z 1 < z 2 ∧ z 2 = 2 := by
  obtain ⟨r, f, hr, hf, hsettings, hshape, htimes⟩ := make_shelfSea
  have hmake : @Recipe.make ℚ _ nearZero r .oceanSG2 = .ok (.source f.source) :=
    map_eq_ok.2 ⟨f, hf, rfl⟩
  have hshape : (source f.source).shape = ⟨3, 1, 1⟩ := hshape
  have htime : TimeAccepted r.settings.strictTimeIndex (source f.source).times 1 := by
    rw [show (source f.source).times = some 2 from htimes]
    exact Nat.one_lt_two
  have hsea : ∀ k < 3, Formula.oceanSG2.IsSea (shelfValue k) := by
    have hvalues : ∀ k < 3, 0 < shelfValue k "depth" ∧ -shelfValue k "depth" < shelfValue k "eta" ∧
        0 ≤ shelfValue k "depth_c" := by decide +kernel
    intro k hk
    obtain ⟨hdepth, hsurface, hcritical⟩ := hvalues k hk
    exact ⟨hdepth, hsurface, fun _ => hcritical, by simp⟩
  have hv : ∀ k < 3, ∃ x : Reading, x.At r.terms r.dataset .oceanSG2 1 k 0 0 ∧
      shelfValue k = x.value r.settings .oceanSG2 Formula.oceanSG2.dimensionalTerms := by
    intro k hk
    rw [hsettings]
    refine ⟨_, shelfReading_at hr (k := k) ?_ ?_, rfl⟩ <;> simp [hk]
  have hterms : Formula.oceanSG2.levelTerms r.terms = ["s", "C"] := rfl
  have hbounds : ∀ k < 3, ∀ term ∈ ["s", "C"], -1 ≤ shelfValue k term ∧ shelfValue k term ≤ 0 := by
    decide +kernel
  have hstrict : ∀ l < 3, ∀ k < l, ∀ term ∈ ["s", "C"], shelfValue k term < shelfValue l term := by
    decide +kernel
  obtain ⟨z, hz, -, -, hlt, hfloor, hsurface, -⟩ :=
    @levels_in_water nearZero r .oceanSG2 _ hmake rfl 1 0 0 htime (by simp [hshape]) (by simp [hshape])
      shelfValue (by rwa [hshape]) (by rwa [hshape]) (by rwa [hshape, hterms]) (by
        rw [hshape, hterms]
        intro k l hkl hl term hterm
        rcases hkl.eq_or_lt with rfl | hkl
        · exact le_rfl
        · exact (hstrict l hl k hkl term hterm).le)
  rw [hshape, hterms] at hlt hfloor hsurface
  rw [hshape] at hz
  have hlt := hlt fun k l hkl hl => hstrict l hl k hkl
  exact ⟨r, _, z, hr, hmake, hz, (hfloor 0 (by decide) (by decide +kernel)).trans (by decide +kernel),
    hlt 0 1 (by decide) (by decide), hlt 1 2 (by decide) (by decide),
    (hsurface 2 (by decide) (by decide +kernel)).trans (by decide +kernel)⟩

end VerticalTransform

end Gridded
