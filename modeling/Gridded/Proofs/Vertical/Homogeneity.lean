import Gridded.Proofs.Vertical.Equations
import Mathlib.Tactic.LinearCombination
import Mathlib.Tactic.Ring

/-!
# Homogeneous formulas

Multiply all pressures, or all lengths, that a formula reads by one number, and the coordinate is
multiplied by that number. This follows a formula that is made from two recipes side by side, from the
reading of its terms to the arrays, where the terms of one recipe have the numbers of the other one
multiplied.

* `Paired`: two computations that fail together and whose results are related, with a rule for each way
  to go on;
* `Column.Multiplies.coordinate`: the formulas at one point;
* `Recipe.Carries`: a term that is read from both recipes, with `Recipe.paired_levels`,
  `Recipe.paired_number` and `Recipe.paired_horizontal`;
* `Recipe.Rescales`, `Recipe.paired_make`: recipes whose terms are read in this way make sources that
  answer in this way.
-/

namespace Gridded

/-! ### Computations side by side -/

/-- Both computations fail, or both have results, which are related by `R`. -/
inductive Paired {ε α β : Type} (R : α → β → Prop) : Except ε α → Except ε β → Prop
  | error (e e' : ε) : Paired R (.error e) (.error e')
  | ok {a : α} {b : β} (h : R a b) : Paired R (.ok a) (.ok b)

namespace Paired

variable {ε α β γ δ : Type} {R : α → β → Prop} {S : γ → δ → Prop} {x : Except ε α}
  {y : Except ε β}

theorem refl (x : Except ε α) : Paired Eq x x := by
  cases x with
  | error e => exact .error e e
  | ok a => exact .ok rfl

theorem mapped (x : Except ε α) (f : α → β) : Paired (fun a b => b = f a) x (f <$> x) := by
  cases x with
  | error e => exact .error e e
  | ok a => exact .ok rfl

theorem bind (h : Paired R x y) {f : α → Except ε γ} {g : β → Except ε δ}
    (hfg : ∀ a b, R a b → Paired S (f a) (g b)) : Paired S (x >>= f) (y >>= g) := by
  cases h with
  | error e e' => exact .error e e'
  | ok hab => exact hfg _ _ hab

theorem map (h : Paired R x y) {f : α → γ} {g : β → δ} (hfg : ∀ a b, R a b → S (f a) (g b)) :
    Paired S (f <$> x) (g <$> y) := by
  cases h with
  | error e e' => exact .error e e'
  | ok hab => exact .ok (hfg _ _ hab)

theorem mono {T : α → β → Prop} (h : Paired R x y) (hRT : ∀ a b, R a b → T a b) : Paired T x y := by
  cases h with
  | error e e' => exact .error e e'
  | ok hab => exact .ok (hRT _ _ hab)

theorem exists_ok (h : Paired R x y) {a : α} (ha : x = .ok a) : ∃ b, y = .ok b ∧ R a b := by
  cases h with
  | error e e' => cases ha
  | ok hab =>
    cases ha
    exact ⟨_, rfl, hab⟩

end Paired

/-! ### Numbers that are multiplied -/

namespace Tensor

theorem map_generate3 {α β : Type} (layers rows columns : Nat) (f : Nat → Nat → Nat → α)
    (g : α → β) : (generate3 layers rows columns f).map g =
      generate3 layers rows columns fun k j i => g (f k j i) := by
  simp [generate3, generate, map, Function.comp_def]

theorem map_mul_one (a : Tensor ℚ) : a.map (· * 1) = a := by
  simp [map]

/-- What stands for a missing entry is zero, so it may be multiplied as well. -/
theorem get2_map_mul (a : Tensor ℚ) (k : ℚ) (j i : Nat) :
    (a.map (· * k)).get2 Scalar.nan j i = a.get2 Scalar.nan j i * k := by
  have hentry : ∀ p, (a.map (· * k)).entry Scalar.nan p = a.entry Scalar.nan p * k := by
    intro p
    unfold entry map
    rw [Array.getD_eq_getD_getElem?, Array.getD_eq_getD_getElem?, Array.getElem?_map]
    cases a.entries[p]? with
    | none => exact (zero_mul k).symm
    | some x => rfl
  unfold get2
  rw [shape_map]
  split
  · exact hentry _
  · exact (zero_mul k).symm

end Tensor

namespace Column

/-- The numbers by level of one formula, where those of the second column that are pressures or lengths
are `k` times those of the first one, and the factors to the unit of the coordinate make up for it up to
`m`. -/
inductive Multiplies (k : ℚ) : ℚ → Column ℚ → Column ℚ → Prop
  | sigma {xs : List ℚ} {top factor factor' m : ℚ} (h : k * factor' = factor * m) :
    Multiplies k m (.sigma xs top factor) (.sigma xs (top * k) factor')
  | hybridPressure {offset share : List ℚ} {factor factor' m : ℚ} (h : k * factor' = factor * m) :
    Multiplies k m (.hybridPressure offset share factor)
      (.hybridPressure (offset.map (· * k)) share factor')
  | hybridHeight {offset share : List ℚ} :
    Multiplies k k (.hybridHeight offset share) (.hybridHeight (offset.map (· * k)) share)
  | oceanSigma {xs : List ℚ} : Multiplies k k (.oceanSigma xs) (.oceanSigma xs)
  | stretched {s curve : List ℚ} {critical : ℚ} :
    Multiplies k k (.stretched s curve critical) (.stretched s curve (critical * k))
  | blended {s curve : List ℚ} {critical : ℚ} :
    Multiplies k k (.blended s curve critical) (.blended s curve (critical * k))

variable {k m : ℚ} {c c' : Column ℚ}

theorem Multiplies.size_eq (h : c.Multiplies k m c') : c'.size = c.size := by
  cases h <;> simp [size]

theorem level_map_mul (xs : List ℚ) (k : ℚ) (i : Nat) :
    level (xs.map (· * k)) i = level xs i * k := by
  unfold level
  rw [List.getD_eq_getElem?_getD, List.getD_eq_getElem?_getD, List.getElem?_map]
  cases xs[i]? with
  | none => exact (zero_mul k).symm
  | some x => rfl

theorem stretchedShare_mul (s curve critical depth k : ℚ) :
    stretchedShare s curve (critical * k) (depth * k) = stretchedShare s curve critical depth * k := by
  show critical * k * s + (depth * k - critical * k) * curve =
    (critical * s + (depth - critical) * curve) * k
  ring

/-- The share of the water column is a ratio, which does not change. -/
theorem blendedShare_mul (s curve critical depth : ℚ) (hk : k ≠ 0) :
    blendedShare s curve (critical * k) (depth * k) = blendedShare s curve critical depth := by
  have hshare : critical * k * s + depth * k * curve = (critical * s + depth * curve) * k := by ring
  have htotal : critical * k + depth * k = (critical + depth) * k := by ring
  show (critical * k * s + depth * k * curve) / (critical * k + depth * k) =
    (critical * s + depth * curve) / (critical + depth)
  rw [hshare, htotal, mul_div_mul_right _ _ hk]

/-- **The formulas are homogeneous.** -/
theorem Multiplies.coordinate (h : c.Multiplies k m c') (hk : k ≠ 0) (level : Nat)
    (surface depth : ℚ) :
    c'.coordinate level (surface * k) (depth * k) = c.coordinate level surface depth * m := by
  cases h with
  | @sigma xs top factor factor' _ h =>
    show (top * k + xs.getD level Scalar.nan * (surface * k - top * k)) * factor' =
      (top + xs.getD level Scalar.nan * (surface - top)) * factor * m
    linear_combination (top + xs.getD level Scalar.nan * (surface - top)) * h
  | @hybridPressure offset share factor factor' _ h =>
    rw [Column.coordinate, level_map_mul]
    show (Column.level offset level * k + Column.level share level * (surface * k)) * factor' =
      (Column.level offset level + Column.level share level * surface) * factor * m
    linear_combination (Column.level offset level + Column.level share level * surface) * h
  | @hybridHeight offset share =>
    rw [Column.coordinate, level_map_mul]
    show Column.level offset level * k + Column.level share level * (surface * k) =
      (Column.level offset level + Column.level share level * surface) * k
    ring
  | @oceanSigma xs =>
    show surface * k + Column.level xs level * (depth * k + surface * k) =
      (surface + Column.level xs level * (depth + surface)) * k
    ring
  | @stretched s curve critical =>
    rw [Column.coordinate, Column.coordinate, stretchedShare_mul]
    generalize stretchedShare (Column.level s level) (Column.level curve level) critical depth = share
    show share * k + surface * k * (1 + share * k / (depth * k)) =
      (share + surface * (1 + share / depth)) * k
    rw [mul_div_mul_right _ _ hk]
    ring
  | @blended s curve critical =>
    rw [Column.coordinate, Column.coordinate, blendedShare_mul _ _ _ _ hk]
    generalize blendedShare (Column.level s level) (Column.level curve level) critical depth = share
    show surface * k + (surface * k + depth * k) * share = (surface + (surface + depth) * share) * k
    ring

end Column

/-! ### Terms that are read from both recipes -/

/-- A variable without marks of missing numbers. -/
def Variable.Unmarked (v : Variable ℚ) : Prop := v.missing = ⟨none, none⟩

/-- The variable `v'` of `d'` declares the shape of the variable `v` of `d`, and has its numbers
multiplied by `c`, none of which is marked as missing. -/
structure Variable.Multiplies (d d' : Dataset ℚ) (c : ℚ) (v v' : Variable ℚ) : Prop where
  shape : v'.shape = v.shape
  unmarked : v.Unmarked ∧ v'.Unmarked
  read : Paired (fun a a' => a' = a.map (· * c)) (d.read v.name) (d'.read v'.name)
  readAt : ∀ time,
    Paired (fun a a' => a' = a.map (· * c)) (d.readAt v.name time) (d'.readAt v'.name time)

/-- The term `g'` of `d'` has the grid and the time steps of the term `g` of `d`, and its numbers
multiplied by `k`. -/
structure HorizontalTerm.Multiplies (d d' : Dataset ℚ) (k : ℚ) (g g' : HorizontalTerm ℚ) :
    Prop where
  times : g'.times = g.times
  shape : g'.shape = g.shape
  load : ∀ step, Paired (fun a a' => a' = a.map (· * k)) (g.load d step) (g'.load d' step)

theorem HorizontalTerm.Multiplies.sides {d d' : Dataset ℚ} {k : ℚ} {g g' : HorizontalTerm ℚ}
    (h : g.Multiplies d d' k g') : g'.rows = g.rows ∧ g'.columns = g.columns := by
  simpa [HorizontalTerm.shape] using h.shape

namespace Recipe

/-- A term has variables in both recipes, and the numbers that are read from the second one in the unit
`target'` are `k` times those that are read from the first one in the unit `target`. -/
def Carries (r r' : Recipe ℚ) (target target' : Option String) (k : ℚ) (term : String) : Prop :=
  ∃ v v' c, r.Binds term v ∧ r'.Binds term v' ∧ v.Multiplies r.dataset r'.dataset c v' ∧
    c * unitFactor r'.settings v'.units? target' = unitFactor r.settings v.units? target * k

variable {r r' : Recipe ℚ} {formula : Formula} {target target' : Option String} {k : ℚ}
  {term : String}

theorem clean_unmarked {v : Variable ℚ} (h : v.Unmarked) (factor x : ℚ) :
    clean v.missing factor x = x * factor := by
  refine clean_of_present ?_
  rw [h]
  rfl

theorem clean_mul {v v' : Variable ℚ} (h : v.Unmarked ∧ v'.Unmarked) {c factor factor' : ℚ}
    (hfactor : c * factor' = factor * k) (x : ℚ) :
    clean v'.missing factor' (x * c) = clean v.missing factor x * k := by
  rw [clean_unmarked h.1, clean_unmarked h.2, mul_assoc, hfactor, mul_assoc]

theorem paired_levels (h : r.Carries r' target target' k term) :
    Paired (fun xs xs' => xs' = xs.map (· * k)) (r.levels formula term target)
      (r'.levels formula term target') := by
  obtain ⟨v, v', c, hv, hv', hnumbers, hfactor⟩ := h
  have hrank : v'.rank = v.rank := congrArg List.length hnumbers.shape
  unfold levels
  rw [variableOf_eq_ok.2 hv, variableOf_eq_ok.2 hv', ok_bind, ok_bind, hrank]
  split_ifs
  · exact .error _ _
  · refine hnumbers.read.bind ?_
    rintro data _ rfl
    refine .ok ?_
    simp [Tensor.map, Function.comp_def, clean_mul hnumbers.unmarked hfactor]

theorem paired_number (h : r.Carries r' target target' k term) :
    Paired (fun x x' => x' = x * k) (r.number formula term target)
      (r'.number formula term target') := by
  obtain ⟨v, v', -, hv, hv', -⟩ := id h
  unfold number
  rw [variableOf_eq_ok.2 hv, variableOf_eq_ok.2 hv']
  refine (paired_levels h).bind ?_
  rintro xs _ rfl
  match xs with
  | [] => exact .error _ _
  | [x] => exact .ok rfl
  | x :: y :: xs => exact .error _ _

theorem paired_clean {v v' : Variable ℚ} (h : v.Unmarked ∧ v'.Unmarked) {c factor factor' : ℚ}
    (hfactor : c * factor' = factor * k) (times : Option Nat) (rows columns : Nat)
    (data : Tensor ℚ) : Paired (fun a a' => a' = a.map (· * k))
      (HorizontalTerm.clean ⟨v, times, rows, columns, factor, none⟩ data)
      (HorizontalTerm.clean ⟨v', times, rows, columns, factor', none⟩ (data.map (· * c))) := by
  unfold HorizontalTerm.clean
  rw [Tensor.shape_map]
  show Paired _ (if data.shape = [rows, columns] then _ else _)
    (if data.shape = [rows, columns] then _ else _)
  split_ifs
  · refine .ok ?_
    simp [Tensor.map, Function.comp_def, clean_mul h hfactor]
  · exact .error _ _

/-- A term with horizontal dimensions is read at once or at each time step, and then multiplied. -/
theorem paired_horizontal (h : r.Carries r' target target' k term) :
    Paired (fun g g' => r.Binds term g.var ∧ r'.Binds term g'.var ∧
      g.Multiplies r.dataset r'.dataset k g')
      (r.horizontal formula term target) (r'.horizontal formula term target') := by
  obtain ⟨v, v', c, hv, hv', hnumbers, hfactor⟩ := h
  unfold horizontal HorizontalTerm.declared
  rw [variableOf_eq_ok.2 hv, variableOf_eq_ok.2 hv', ok_bind, ok_bind, hnumbers.shape]
  split
  · rename_i rows columns _
    refine hnumbers.read.bind ?_
    rintro data _ rfl
    refine (paired_clean hnumbers.unmarked hfactor none rows columns data).bind ?_
    rintro cleaned _ rfl
    exact .ok ⟨hv, hv', rfl, rfl, fun step => .ok rfl⟩
  · rename_i times rows columns _
    refine .ok ⟨hv, hv', rfl, rfl, fun step => (hnumbers.readAt step).bind ?_⟩
    rintro data _ rfl
    exact paired_clean hnumbers.unmarked hfactor (some times) rows columns data
  · exact .error _ _

end Recipe

namespace HorizontalTerm

/-- Terms with the same time steps have them in common, or neither do. -/
theorem paired_commonTimes (formula : Formula) {gs gs' : List (HorizontalTerm ℚ)}
    (h : List.Forall₂ (fun g g' => g'.times = g.times) gs gs') :
    Paired Eq (commonTimes formula gs) (commonTimes formula gs') := by
  unfold commonTimes
  -- The induction is on the terms, for any number of time steps that was found before them.
  generalize (none : Option Nat) = found
  induction h generalizing found with
  | nil => exact .ok rfl
  | @cons g g' gs gs' hg _ ih =>
    rw [List.foldlM_cons, List.foldlM_cons]
    refine Paired.bind (R := Eq) ?_ fun next _ hnext => hnext ▸ ih next
    rw [hg]
    split
    · split_ifs
      · exact .ok rfl
      · exact .error _ _
    · exact .ok rfl

theorem paired_sameShape {f f' g g' : HorizontalTerm ℚ} (hf : f'.shape = f.shape)
    (hg : g'.shape = g.shape) : Paired Eq (f.sameShape g) (f'.sameShape g') := by
  unfold sameShape
  rw [hf, hg]
  split_ifs
  · exact .ok rfl
  · exact .error _ _

end HorizontalTerm

/-! ### Sources -/

/-- Sources on the same grid, with the same time steps, whose columns and horizontal terms have numbers
that are multiplied. -/
structure FormulaSource.Multiplies (k m : ℚ) (f f' : FormulaSource ℚ) : Prop where
  shape : f'.base.shape = f.base.shape
  times : f'.base.times = f.base.times
  strictTimeIndex : f'.base.strictTimeIndex = f.base.strictTimeIndex
  column : f.column.Multiplies k m f'.column
  surface : f.surface.Multiplies f.base.dataset f'.base.dataset k f'.surface
  depth : Option.Rel (fun g g' => g.Multiplies f.base.dataset f'.base.dataset k g') f.depth f'.depth

/-- On the same grid and with the same time steps, `t'` fails where `t` fails, and answers the numbers
of `t` multiplied by `m` where `t` answers. If `m` is one, these are the same answers. -/
structure VerticalTransform.Multiplies (m : ℚ) (t t' : VerticalTransform ℚ) : Prop where
  shape : t'.shape = t.shape
  times : t'.times = t.times
  array : ∀ n, Paired (fun a a' => a' = a.map (· * m)) (t.array n) (t'.array n)
  profile : ∀ n x y, Paired (fun column column' => column' = column.map (· * m))
    (t.profile n x y) (t'.profile n x y)

namespace FormulaSource

variable {k m : ℚ} {f f' : FormulaSource ℚ}

theorem Multiplies.paired_planes (h : f.Multiplies k m f') (step : Nat) :
    Paired (fun p p' => p' = (p.1.map (· * k), p.2.map (· * k))) (f.planes step)
      (f'.planes step) := by
  unfold planes
  refine (h.surface.load step).bind ?_
  rintro surface _ rfl
  have hdepth := h.depth
  cases hf : f.depth <;> cases hf' : f'.depth <;> rw [hf, hf'] at hdepth <;> cases hdepth
  case none.none => exact .ok rfl
  case some.some g g' hload =>
    refine (hload.load step).bind ?_
    rintro depth _ rfl
    exact .ok rfl

theorem Multiplies.timeStep_eq (h : f.Multiplies k m f') (n : Nat) :
    f'.base.timeStep n = f.base.timeStep n := by
  unfold VerticalBase.timeStep
  rw [h.times, h.strictTimeIndex]

theorem Multiplies.paired_array (h : f.Multiplies k m f') (hk : k ≠ 0) (n : Nat) :
    Paired (fun a a' => a' = a.map (· * m)) (f.array n) (f'.array n) := by
  unfold array
  rw [h.timeStep_eq]
  refine (Paired.refl (f.base.timeStep n)).bind ?_
  rintro step _ rfl
  refine (h.paired_planes step).bind ?_
  rintro ⟨surface, depth⟩ _ rfl
  refine .ok ?_
  rw [h.shape, Tensor.map_generate3]
  simp only [Tensor.get2_map_mul, h.column.coordinate hk]

theorem Multiplies.paired_profile (h : f.Multiplies k m f') (hk : k ≠ 0) (n x y : Nat) :
    Paired (fun column column' => column' = column.map (· * m)) (f.profile n x y)
      (f'.profile n x y) := by
  have hpoint : f'.base.checkPoint x y = f.base.checkPoint x y := by
    unfold VerticalBase.checkPoint
    rw [h.shape]
  unfold profile
  rw [hpoint, h.timeStep_eq]
  refine (Paired.refl (f.base.checkPoint x y)).bind fun _ _ _ => ?_
  refine (Paired.refl (f.base.timeStep n)).bind ?_
  rintro step _ rfl
  refine (h.paired_planes step).bind ?_
  rintro ⟨surface, depth⟩ _ rfl
  refine .ok ?_
  rw [h.shape, List.map_map]
  simp only [Tensor.get2_map_mul, h.column.coordinate hk, Function.comp_def]

theorem Multiplies.source (h : f.Multiplies k m f') (hk : k ≠ 0) :
    (VerticalTransform.source f.source).Multiplies m (.source f'.source) where
  shape := h.shape
  times := h.times
  array := h.paired_array hk
  profile := h.paired_profile hk

end FormulaSource

/-! ### Makers -/

/-- The unit in which the coordinate is given out, where the reference term has the unit `unit`. -/
def Formula.outputUnit (formula : Formula) (settings : Settings) (unit : Option String) :
    Option String :=
  match formula.isPressure, settings.outputPressureUnit with
  | true, some target =>
    if (conversionFactor? (α := ℚ) (unit.getD "Pa") target).isSome then some target else unit
  | _, _ => unit

theorem Formula.outputUnit_of_height {formula : Formula} {settings : Settings} {unit : Option String}
    (h : formula.isPressure = false) : formula.outputUnit settings unit = unit := by
  rw [outputUnit, h]

namespace Recipe

/-- The terms of `r'` have the numbers of those of `r` in the units that count: the reference terms have
the units `unit` and `unit'`, pressures or lengths that are read in these are multiplied by `k`, pure
numbers are the same, and the factors to the unit of the coordinate make up for it up to `m`. -/
structure Rescales (r r' : Recipe ℚ) (formula : Formula) (unit unit' : Option String) (k m : ℚ) :
    Prop where
  settings : r'.settings = r.settings
  used : formula.usedTerms r'.terms = formula.usedTerms r.terms
  pure : ∀ term ∈ formula.usedTerms r.terms, term ∉ formula.dimensionalTerms →
    r.Carries r' none none 1 term
  dimensional : ∀ term ∈ formula.usedTerms r.terms, term ∈ formula.dimensionalTerms →
    r.Carries r' unit unit' k term
  reference : ∀ term, formula.referenceTerm = some term → r.Carries r' none none k term ∧
    ∀ v v', r.Binds term v → r'.Binds term v' → v.units? = unit ∧ v'.units? = unit'
  output : k * formula.outputFactor r.settings unit' = formula.outputFactor r.settings unit * m
  ne_zero : k ≠ 0

/-- What the two recipes make is multiplied, and given out in the units that belong to those of the
reference terms. -/
structure Multiplies (r : Recipe ℚ) (formula : Formula) (unit unit' : Option String) (k m : ℚ)
    (f f' : FormulaSource ℚ) : Prop where
  source : f.Multiplies k m f'
  unit : f.base.unit = formula.outputUnit r.settings unit
  unit' : f'.base.unit = formula.outputUnit r.settings unit'

theorem pressureOutput_unit_eq (r : Recipe ℚ) {formula : Formula} (h : formula.isPressure = true)
    (unit : Option String) : (r.pressureOutput unit).1 = formula.outputUnit r.settings unit := by
  unfold pressureOutput Formula.outputUnit
  rw [h]
  rcases r.settings.outputPressureUnit with _ | target
  · rfl
  · dsimp only
    cases conversionFactor? (α := ℚ) (unit.getD "Pa") target <;> rfl

variable {r r' : Recipe ℚ} {formula : Formula} {unit unit' : Option String} {k m : ℚ} {term : String}

theorem Rescales.paired_pure_levels (h : r.Rescales r' formula unit unit' k m)
    (hterm : formula.IsUsed term ∧ term ∉ formula.dimensionalTerms) :
    Paired Eq (r.levels formula term none) (r'.levels formula term none) := by
  refine (paired_levels (h.pure term (hterm.1.mem_usedTerms _) hterm.2)).mono ?_
  rintro xs _ rfl
  simp

theorem Rescales.paired_pure_number (h : r.Rescales r' formula unit unit' k m)
    (hterm : formula.IsUsed term ∧ term ∉ formula.dimensionalTerms) :
    Paired Eq (r.number formula term none) (r'.number formula term none) := by
  refine (paired_number (h.pure term (hterm.1.mem_usedTerms _) hterm.2)).mono ?_
  rintro x _ rfl
  exact (mul_one x).symm

theorem Rescales.paired_number (h : r.Rescales r' formula unit unit' k m)
    (hterm : formula.IsUsed term ∧ term ∈ formula.dimensionalTerms) :
    Paired (fun x x' => x' = x * k) (r.number formula term unit) (r'.number formula term unit') :=
  Recipe.paired_number (h.dimensional term (hterm.1.mem_usedTerms _) hterm.2)

/-- Checking lengths gives the same if both pairs of lists are equally long. -/
theorem paired_sameLevels (r r' : Recipe ℚ) (formula : Formula) (term : String)
    {xs ys xs' ys' : List ℚ} (hx : xs'.length = xs.length) (hy : ys'.length = ys.length) :
    Paired Eq (r.sameLevels formula term xs ys) (r'.sameLevels formula term xs' ys') := by
  have herror : ∀ (r : Recipe ℚ) (xs ys : List ℚ), xs.length ≠ ys.length →
      ∃ e, r.sameLevels formula term xs ys = .error e := by
    intro r xs ys hne
    unfold sameLevels
    rw [if_neg hne]
    cases r.variableOf formula term with
    | error e => exact ⟨e, rfl⟩
    | ok v => exact ⟨_, rfl⟩
  by_cases hsame : xs.length = ys.length
  · rw [sameLevels_eq_ok.2 hsame, sameLevels_eq_ok.2 (hx.trans (hsame.trans hy.symm))]
    exact .ok rfl
  · obtain ⟨e, he⟩ := herror r xs ys hsame
    obtain ⟨e', he'⟩ := herror r' xs' ys' (by rwa [hx, hy])
    rw [he, he']
    exact .error e e'

theorem Rescales.pressureOutput_mul (h : r.Rescales r' formula unit unit' k m)
    (hpressure : formula.isPressure = true) :
    k * (r'.pressureOutput unit').2 = (r.pressureOutput unit).2 * m := by
  rw [pressureOutput_eq r' hpressure, pressureOutput_eq r hpressure, h.settings]
  exact h.output

/-- Heights are given out in the unit of the reference term. -/
theorem Rescales.eq_of_height (h : r.Rescales r' formula unit unit' k m)
    (hheight : formula.isPressure = false) : m = k := by
  have houtput := h.output
  rw [Formula.outputFactor_of_height hheight, Formula.outputFactor_of_height hheight, mul_one,
    one_mul] at houtput
  exact houtput.symm

/-! ### Makers over one horizontal term -/

/-- A formula over a single horizontal term, given out in the units `out` and `out'`. -/
theorem multiplies_overSurface {c c' : Column ℚ} (hcolumn : c.Multiplies k m c')
    (hsettings : r'.settings = r.settings) {g g' : HorizontalTerm ℚ}
    (hg : g.Multiplies r.dataset r'.dataset k g') {out out' : Option String}
    (hout : out = formula.outputUnit r.settings unit)
    (hout' : out' = formula.outputUnit r.settings unit') :
    r.Multiplies formula unit unit' k m (r.overSurface formula c g out)
      (r'.overSurface formula c' g' out') := by
  refine ⟨⟨?_, hg.times, ?_, hcolumn, hg, .none⟩, hout, hout'⟩
  · show GridShape.mk c'.size g'.rows g'.columns = ⟨c.size, g.rows, g.columns⟩
    rw [hcolumn.size_eq, hg.sides.1, hg.sides.2]
  · show r'.settings.strictTimeIndex = r.settings.strictTimeIndex
    rw [hsettings]

theorem Rescales.multiplies_overPressure (h : r.Rescales r' formula unit unit' k m)
    (hpressure : formula.isPressure = true) {c c' : Column ℚ} (hcolumn : c.Multiplies k m c')
    {g g' : HorizontalTerm ℚ} (hg : g.Multiplies r.dataset r'.dataset k g') :
    r.Multiplies formula unit unit' k m
      (r.overSurface formula c g (r.pressureOutput unit).1)
      (r'.overSurface formula c' g' (r'.pressureOutput unit').1) := by
  refine multiplies_overSurface hcolumn h.settings hg (pressureOutput_unit_eq r hpressure unit) ?_
  rw [← h.settings]
  exact pressureOutput_unit_eq r' hpressure unit'

theorem Rescales.paired_atmosSigma (h : r.Rescales r' .atmosSigma unit unit' k m) :
    Paired (r.Multiplies .atmosSigma unit unit' k m) r.atmosSigma r'.atmosSigma := by
  obtain ⟨hsurface, hunits⟩ := h.reference "ps" rfl
  unfold atmosSigma
  refine (paired_horizontal hsurface).bind ?_
  rintro g g' ⟨hv, hv', hg⟩
  obtain ⟨hunit, hunit'⟩ := hunits _ _ hv hv'
  rw [hunit, hunit']
  refine (h.paired_pure_levels (by decide)).bind ?_
  rintro sigma _ rfl
  refine (h.paired_number (by decide)).bind ?_
  rintro top _ rfl
  exact .ok (h.multiplies_overPressure rfl (.sigma (h.pressureOutput_mul rfl)) hg)

/-- The pressure offset is multiplied, whichever of its terms are used. -/
theorem Rescales.paired_pressureOffset
    (h : r.Rescales r' .hybridSigmaPressure unit unit' k m) :
    Paired (fun xs xs' => xs' = xs.map (· * k)) (r.pressureOffset unit)
      (r'.pressureOffset unit') := by
  have hused : ∀ f, Formula.hybridSigmaPressure.usedTerms f =
      if f.contains "ap" then ["ap", "b", "ps"] else ["a", "b", "ps", "p0"] := fun _ => rfl
  have hoffsets : r'.terms.contains "ap" = r.terms.contains "ap" := by
    have h := h.used
    rw [hused, hused] at h
    cases hr : r.terms.contains "ap" <;> cases hr' : r'.terms.contains "ap" <;> simp_all
  unfold pressureOffset
  rw [hoffsets]
  split_ifs with hap
  · refine paired_levels (h.dimensional "ap" ?_ (by decide))
    rw [hused, if_pos hap]
    exact .head _
  · have hmem : ∀ term ∈ ["a", "b", "ps", "p0"],
        term ∈ Formula.hybridSigmaPressure.usedTerms r.terms := by
      intro term hterm
      rwa [hused, if_neg hap]
    refine (Recipe.paired_number (h.dimensional "p0" (hmem _ (by decide)) (by decide))).bind ?_
    rintro reference _ rfl
    refine (paired_levels (h.pure "a" (hmem _ (by decide)) (by decide))).bind ?_
    rintro share _ rfl
    have hshare : share.map (· * 1) = share := by simp
    refine .ok ?_
    rw [hshare, List.map_map]
    exact List.map_congr_left fun x _ => (mul_assoc x reference k).symm

theorem Rescales.paired_hybridSigmaPressure
    (h : r.Rescales r' .hybridSigmaPressure unit unit' k m) :
    Paired (r.Multiplies .hybridSigmaPressure unit unit' k m) r.hybridSigmaPressure
      r'.hybridSigmaPressure := by
  obtain ⟨hsurface, hunits⟩ := h.reference "ps" rfl
  unfold hybridSigmaPressure
  refine (paired_horizontal hsurface).bind ?_
  rintro g g' ⟨hv, hv', hg⟩
  obtain ⟨hunit, hunit'⟩ := hunits _ _ hv hv'
  rw [hunit, hunit']
  refine (h.paired_pure_levels (by decide)).bind ?_
  rintro share _ rfl
  refine h.paired_pressureOffset.bind ?_
  rintro offset _ rfl
  refine (paired_sameLevels r r' _ _ (List.length_map _) rfl).bind ?_
  rintro _ _ -
  exact .ok (h.multiplies_overPressure rfl (.hybridPressure (h.pressureOutput_mul rfl)) hg)

theorem Rescales.paired_hybridHeight (h : r.Rescales r' .hybridHeight unit unit' k m) :
    Paired (r.Multiplies .hybridHeight unit unit' k m) r.hybridHeight r'.hybridHeight := by
  obtain ⟨hoffset, hunits⟩ := h.reference "a" rfl
  obtain ⟨v, v', -, hv, hv', -⟩ := id hoffset
  obtain ⟨hunit, hunit'⟩ := hunits v v' hv hv'
  obtain rfl : m = k := h.eq_of_height rfl
  unfold hybridHeight
  rw [variableOf_eq_ok.2 hv, variableOf_eq_ok.2 hv', ok_bind, ok_bind, hunit, hunit']
  refine (paired_levels hoffset).bind ?_
  rintro offset _ rfl
  refine (h.paired_pure_levels (by decide)).bind ?_
  rintro share _ rfl
  refine (paired_sameLevels r r' _ _ (List.length_map _) rfl).bind ?_
  rintro _ _ -
  refine (paired_horizontal (h.dimensional "orog" (List.mem_of_mem_getLast? rfl) (by decide))).bind ?_
  rintro g g' ⟨-, -, hg⟩
  exact .ok (multiplies_overSurface .hybridHeight h.settings hg
    (Formula.outputUnit_of_height rfl).symm (Formula.outputUnit_of_height rfl).symm)

/-! ### Makers over the depth -/

/-- A formula of the ocean is multiplied if its column is. -/
theorem Rescales.paired_overDepth (h : r.Rescales r' formula unit unit' k m)
    (hreference : formula.referenceTerm = some "depth")
    (hterms : formula.horizontalTerms = ["eta", "depth"]) (hheight : formula.isPressure = false)
    {column column' : Option String → Except Error (Column ℚ)}
    (hcolumn : Paired (Column.Multiplies k k) (column unit) (column' unit')) :
    Paired (r.Multiplies formula unit unit' k m) (r.overDepth formula column)
      (r'.overDepth formula column') := by
  obtain ⟨hdepth, hunits⟩ := h.reference "depth" hreference
  obtain ⟨v, v', -, hv, hv', -⟩ := id hdepth
  obtain ⟨hunit, hunit'⟩ := hunits v v' hv hv'
  have heta : formula.IsUsed "eta" ∧ formula.termKind "eta" = .field ∧
      "eta" ∈ formula.dimensionalTerms := by
    refine Formula.isUsed_of_horizontalTerms ?_
    rw [hterms]
    exact .head _
  obtain rfl : m = k := h.eq_of_height hheight
  unfold overDepth
  rw [variableOf_eq_ok.2 hv, variableOf_eq_ok.2 hv', ok_bind, ok_bind, hunit, hunit']
  refine (paired_horizontal hdepth).bind ?_
  rintro depth depth' ⟨-, -, hdepth⟩
  refine (paired_horizontal (h.dimensional "eta" (heta.1.mem_usedTerms _) heta.2.2)).bind ?_
  rintro surface surface' ⟨-, -, hsurface⟩
  refine hcolumn.bind ?_
  rintro c c' hc
  refine (HorizontalTerm.paired_sameShape hsurface.shape hdepth.shape).bind ?_
  rintro _ _ -
  refine (HorizontalTerm.paired_commonTimes formula
    (.cons hsurface.times (.cons hdepth.times .nil))).bind ?_
  rintro times _ rfl
  refine .ok ⟨⟨?_, rfl, ?_, hc, hsurface, .some hdepth⟩, ?_, ?_⟩
  · show GridShape.mk c'.size surface'.rows surface'.columns = ⟨c.size, surface.rows, surface.columns⟩
    rw [hc.size_eq, hsurface.sides.1, hsurface.sides.2]
  · show r'.settings.strictTimeIndex = r.settings.strictTimeIndex
    rw [h.settings]
  · exact (Formula.outputUnit_of_height hheight).symm
  · exact (Formula.outputUnit_of_height hheight).symm

theorem Rescales.paired_oceanSigma (h : r.Rescales r' .oceanSigma unit unit' k m) :
    Paired (r.Multiplies .oceanSigma unit unit' k m) r.oceanSigma r'.oceanSigma := by
  refine h.paired_overDepth rfl rfl rfl ((h.paired_pure_levels (by decide)).map ?_)
  rintro sigma _ rfl
  exact .oceanSigma

theorem Rescales.paired_oceanS [Hyperbolic ℚ] (h : r.Rescales r' .oceanS unit unit' k m) :
    Paired (r.Multiplies .oceanS unit unit' k m) r.oceanS r'.oceanS := by
  refine h.paired_overDepth rfl rfl rfl ?_
  refine (h.paired_pure_levels (by decide)).bind ?_
  rintro s _ rfl
  refine (h.paired_pure_number (by decide)).bind ?_
  rintro a _ rfl
  refine (h.paired_pure_number (by decide)).bind ?_
  rintro b _ rfl
  refine (h.paired_number (by decide)).bind ?_
  rintro critical _ rfl
  exact .ok .stretched

theorem Rescales.paired_readCurve (h : r.Rescales r' formula unit unit' k m)
    (hs : formula.IsUsed "s" ∧ "s" ∉ formula.dimensionalTerms)
    (hcurve : formula.IsUsed "C" ∧ "C" ∉ formula.dimensionalTerms)
    (hcritical : formula.IsUsed "depth_c" ∧ "depth_c" ∈ formula.dimensionalTerms) :
    Paired (fun p p' => p' = (p.1, p.2.1, p.2.2 * k)) (r.readCurve formula unit)
      (r'.readCurve formula unit') := by
  unfold readCurve
  refine (h.paired_pure_levels hs).bind ?_
  rintro s _ rfl
  refine (h.paired_pure_levels hcurve).bind ?_
  rintro curve _ rfl
  refine (paired_sameLevels r r' _ _ rfl rfl).bind ?_
  rintro _ _ -
  refine (h.paired_number hcritical).bind ?_
  rintro critical _ rfl
  exact .ok rfl

theorem Rescales.paired_oceanSG1 (h : r.Rescales r' .oceanSG1 unit unit' k m) :
    Paired (r.Multiplies .oceanSG1 unit unit' k m) r.oceanSG1 r'.oceanSG1 := by
  refine h.paired_overDepth rfl rfl rfl ?_
  refine (h.paired_readCurve (by decide) (by decide) (by decide)).bind ?_
  rintro ⟨s, curve, critical⟩ _ rfl
  exact .ok .stretched

theorem Rescales.paired_oceanSG2 (h : r.Rescales r' .oceanSG2 unit unit' k m) :
    Paired (r.Multiplies .oceanSG2 unit unit' k m) r.oceanSG2 r'.oceanSG2 := by
  refine h.paired_overDepth rfl rfl rfl ?_
  refine (h.paired_readCurve (by decide) (by decide) (by decide)).bind ?_
  rintro ⟨s, curve, critical⟩ _ rfl
  exact .ok .blended

/-- **Every formula is homogeneous in its terms.** Where the terms of the second recipe have the numbers
of those of the first one, multiplied if they are pressures or lengths, neither recipe can be made or
both can, and then the second transform answers the multiplied numbers of the first one. -/
theorem Rescales.paired_make [Hyperbolic ℚ] (h : r.Rescales r' formula unit unit' k m)
    (hformula : formula ≠ .existingField) :
    Paired (fun t t' => t.Multiplies m t' ∧ t.unit = formula.outputUnit r.settings unit ∧
      t'.unit = formula.outputUnit r.settings unit') (r.make formula) (r'.make formula) := by
  have hsource : ∀ {x x' : Except Error (FormulaSource ℚ)},
      Paired (r.Multiplies formula unit unit' k m) x x' →
      Paired (fun t t' => t.Multiplies m t' ∧ t.unit = formula.outputUnit r.settings unit ∧
        t'.unit = formula.outputUnit r.settings unit')
        ((VerticalTransform.source ·.source) <$> x) ((VerticalTransform.source ·.source) <$> x') := by
    intro x x' hx
    exact hx.map fun f f' hf => ⟨hf.source.source h.ne_zero, hf.unit, hf.unit'⟩
  cases formula with
  | atmosSigma => exact hsource h.paired_atmosSigma
  | hybridSigmaPressure => exact hsource h.paired_hybridSigmaPressure
  | hybridHeight => exact hsource h.paired_hybridHeight
  | oceanSigma => exact hsource h.paired_oceanSigma
  | oceanS => exact hsource h.paired_oceanS
  | oceanSG1 => exact hsource h.paired_oceanSG1
  | oceanSG2 => exact hsource h.paired_oceanSG2
  | existingField => exact absurd rfl hformula

end Recipe

end Gridded
