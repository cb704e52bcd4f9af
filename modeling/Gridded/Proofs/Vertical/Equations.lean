import Gridded.Proofs.Vertical.Making
import Gridded.Proofs.Vertical.Units

/-!
# Equations of vertical coordinates

Each formula of vertical coordinates is an equation between the coordinate at a point and the numbers
that its terms have there. What a formula computes at a point, in exact arithmetic, is what the equation
says. A depth of zero is divided by here as everywhere in exact arithmetic, with zero as the result, so
the equations tell nothing of doubles there.

* `Formula.coordinate`: the equations, over the terms that `Formula.usedTerms` lists;
* `FormulaTerms.Binds`, `Dataset.Holds`: the variable of a term and its number at a point;
* `Reading`, `Reading.At`: variables and numbers for all terms of a formula at a point;
* `Reading.value`: their values in the unit of the reference term, with `Reading.At.level`,
  `Reading.At.number_eq` and `Reading.At.exists_load` for what is read;
* `Recipe.Columns.coordinate_eq`: the column of a formula computes its equation.
-/

namespace Gridded

/-! ### Equations -/

/-- What a term has: a number for each level, a single number, or a number for each row and column,
which may vary in time. -/
inductive TermKind
  | level | number | field
  deriving DecidableEq

namespace Formula

/-- The terms with a single number. -/
def numberTerms : Formula → List String
  | .atmosSigma => ["ptop"]
  | .hybridSigmaPressure => ["p0"]
  | .oceanS => ["a", "b", "depth_c"]
  | .oceanSG1 | .oceanSG2 => ["depth_c"]
  | .hybridHeight | .oceanSigma | .existingField => []

/-- What a term of a formula has. -/
def termKind (formula : Formula) (term : String) : TermKind :=
  if term ∈ formula.horizontalTerms then .field
  else if term ∈ formula.numberTerms then .number
  else .level

/-- The terms that are pressures or lengths. The others are pure numbers. -/
def dimensionalTerms : Formula → List String
  | .atmosSigma => ["ps", "ptop"]
  | .hybridSigmaPressure => ["ps", "p0", "ap"]
  | .hybridHeight => ["a", "orog"]
  | .oceanSigma => ["eta", "depth"]
  | .oceanS | .oceanSG1 | .oceanSG2 => ["eta", "depth", "depth_c"]
  | .existingField => []

/-- The terms that are used where `f` says what is bound. A pressure offset of its own counts before a
share of a reference pressure. -/
def usedTerms (formula : Formula) (f : FormulaTerms) : List String :=
  match formula.termLists with
  | [shared, direct] => if f.contains "ap" then direct else shared
  | lists => lists.flatten

/-- The coordinate where the terms have the values `x`. A stored coordinate has no equation. -/
def coordinate [Hyperbolic ℚ] (f : FormulaTerms) (x : String → ℚ) : Formula → ℚ
  | atmosSigma => x "ptop" + x "sigma" * (x "ps" - x "ptop")
  | hybridSigmaPressure =>
    if f.contains "ap" then x "ap" + x "b" * x "ps" else x "a" * x "p0" + x "b" * x "ps"
  | hybridHeight => x "a" + x "b" * x "orog"
  | oceanSigma => x "eta" + x "sigma" * (x "depth" + x "eta")
  | oceanS =>
    let curve := stretching (x "s") (x "a") (x "b")
    x "depth_c" * x "s" + (x "depth" - x "depth_c") * curve +
      x "eta" * (1 + (x "depth_c" * x "s" + (x "depth" - x "depth_c") * curve) / x "depth")
  | oceanSG1 =>
    let share := x "depth_c" * x "s" + (x "depth" - x "depth_c") * x "C"
    share + x "eta" * (1 + share / x "depth")
  | oceanSG2 =>
    let share := (x "depth_c" * x "s" + x "depth" * x "C") / (x "depth_c" + x "depth")
    x "eta" + (x "eta" + x "depth") * share
  | existingField => 0

/-- The factor to the unit in which pressures are given out, where the surface pressure has the unit
`unit`. Without a unit it counts as pascals. -/
def outputFactor (formula : Formula) (settings : Settings) (unit : Option String) : ℚ :=
  match formula.isPressure, settings.outputPressureUnit with
  | true, some target => (conversionFactor? (unit.getD "Pa") target).getD 1
  | _, _ => 1

/-- The term stands in all lists of terms of the formula. -/
def IsUsed (formula : Formula) (term : String) : Prop :=
  formula ≠ .existingField ∧ ∀ terms ∈ formula.termLists, term ∈ terms

instance (formula : Formula) (term : String) : Decidable (formula.IsUsed term) :=
  inferInstanceAs (Decidable (_ ∧ _))

theorem IsUsed.mem_usedTerms {formula : Formula} {term : String} (h : formula.IsUsed term)
    (f : FormulaTerms) : term ∈ formula.usedTerms f := by
  obtain ⟨hne, h⟩ := h
  have hlists : (∃ terms, formula.termLists = [terms]) ∨
      ∃ shared direct, formula.termLists = [shared, direct] := by
    cases formula with
    | hybridSigmaPressure => exact .inr ⟨_, _, rfl⟩
    | existingField => exact absurd rfl hne
    | _ => exact .inl ⟨_, rfl⟩
  unfold usedTerms
  rcases hlists with ⟨terms, hlists⟩ | ⟨shared, direct, hlists⟩ <;> rw [hlists] at h ⊢
  · simpa using h
  · dsimp only
    split_ifs <;> simp_all

theorem isUsed_of_referenceTerm {formula : Formula} {term : String}
    (h : formula.referenceTerm = some term) : formula.IsUsed term := by
  cases formula <;> cases h <;> decide

theorem isUsed_of_horizontalTerms {formula : Formula} {term : String}
    (h : term ∈ formula.horizontalTerms) : formula.IsUsed term ∧ formula.termKind term = .field ∧
      term ∈ formula.dimensionalTerms := by
  have hall : ∀ formula ∈ all, ∀ term ∈ formula.horizontalTerms, formula.IsUsed term ∧
      formula.termKind term = .field ∧ term ∈ formula.dimensionalTerms := by
    decide
  exact hall formula formula.mem_all term h

theorem outputFactor_of_height {formula : Formula} {settings : Settings} {unit : Option String}
    (h : formula.isPressure = false) : formula.outputFactor settings unit = 1 := by
  rw [outputFactor, h]

end Formula

/-! ### Terms at a point -/

/-- The first binding of a term is to that name. -/
def FormulaTerms.Binds (f : FormulaTerms) (term name : String) : Prop :=
  ∃ before after, f.bindings = before ++ (term, name) :: after ∧ ∀ b ∈ before, b.1 ≠ term

theorem FormulaTerms.find?_eq_some {f : FormulaTerms} {term name : String} :
    f.find? term = some name ↔ f.Binds term name := by
  unfold find? Binds
  rw [List.lookup_eq_some_iff]
  simp only [bne_iff_ne, ne_comm]

/-- The number of a variable at a level `k`, a row `j` and a column `i`, at time `n`. A variable of two
dimensions has the same numbers at all times. -/
inductive Dataset.Holds {α : Type} (d : Dataset α) (v : Variable α) (n k j i : Nat) :
    TermKind → α → Prop
  | level {data : Tensor α} {x : α} (hread : d.read v.name = .ok data)
    (hentry : data.entries[k]? = some x) : Holds d v n k j i .level x
  | number {data : Tensor α} {x : α} (hread : d.read v.name = .ok data)
    (hentry : data.entries = #[x]) : Holds d v n k j i .number x
  | static {data : Tensor α} {rows columns : Nat} {x : α} (hshape : v.shape = [rows, columns])
    (hread : d.read v.name = .ok data) (hdata : data.shape = [rows, columns])
    (hentry : data.get2? j i = some x) : Holds d v n k j i .field x
  | timed {data : Tensor α} {times rows columns : Nat} {x : α}
    (hshape : v.shape = [times, rows, columns]) (hread : d.readAt v.name n = .ok data)
    (hdata : data.shape = [rows, columns]) (hentry : data.get2? j i = some x) :
    Holds d v n k j i .field x

/-- Variables and numbers that stand for the terms of a formula. -/
structure Reading where
  var : String → Variable ℚ
  number : String → ℚ

namespace Reading

/-- The bindings `f` give these variables, and they have these numbers at a point. None is missing. -/
structure At (x : Reading) (f : FormulaTerms) (d : Dataset ℚ) (formula : Formula) (n k j i : Nat) :
    Prop where
  bound : ∀ term ∈ formula.usedTerms f, ∃ name, f.Binds term name ∧ d.find? name = some (x.var term)
  holds : ∀ term ∈ formula.usedTerms f,
    d.Holds (x.var term) n k j i (formula.termKind term) (x.number term)
  present : ∀ term ∈ formula.usedTerms f, (x.var term).missing.covers (x.number term) = false

/-- The unit of the reference term. -/
def unit (x : Reading) (formula : Formula) : Option String :=
  formula.referenceTerm.bind fun term => (x.var term).units?

/-- The values of the terms, where those in `converted` are converted to the unit of the reference
term. -/
def value (x : Reading) (settings : Settings) (formula : Formula) (converted : List String)
    (term : String) : ℚ :=
  if term ∈ converted then x.number term * settings.conversion (x.var term).units? (x.unit formula)
  else x.number term

end Reading

namespace Recipe

variable {r : Recipe ℚ} {formula : Formula} {term : String} {target : Option String}

theorem clean_of_present {missing : Missing ℚ} {factor x : ℚ} (h : missing.covers x = false) :
    clean missing factor x = x * factor := by
  rw [clean, h]
  rfl

variable {v : Variable ℚ} {n k j i : Nat} {x : ℚ}

/-- A term with a number for each level has the converted number of its variable at each of them. -/
theorem level_of_levels {xs : List ℚ} (h : r.levels formula term target = .ok xs)
    (hbinds : r.Binds term v) (hx : r.dataset.Holds v n k j i .level x)
    (hpresent : v.missing.covers x = false) :
    k < xs.length ∧ Column.level xs k = x * r.settings.conversion v.units? target := by
  obtain ⟨v', data, hv', -, hread, rfl⟩ := levels_eq_ok.1 h
  cases hbinds.unique hv'
  cases hx with
  | level hread' hentry =>
    cases hread.symm.trans hread'
    obtain ⟨hk, rfl⟩ := Array.getElem?_eq_some_iff.1 hentry
    refine ⟨by simpa using hk, ?_⟩
    rw [← unitFactor_eq, ← clean_of_present hpresent]
    simp [Column.level, List.getD, hk]

/-- A term with one number has the converted number of its variable. -/
theorem number_of_number {y : ℚ} (h : r.number formula term target = .ok y)
    (hbinds : r.Binds term v) (hx : r.dataset.Holds v n k j i .number x)
    (hpresent : v.missing.covers x = false) :
    y = x * r.settings.conversion v.units? target := by
  obtain ⟨v', data, hv', -, hread, hy⟩ := levels_eq_ok.1 (number_eq_ok.1 h)
  cases hbinds.unique hv'
  cases hx with
  | number hread' hentry =>
    cases hread.symm.trans hread'
    rw [hentry] at hy
    rw [← unitFactor_eq, ← clean_of_present hpresent]
    simpa using hy

end Recipe

/-- A term with horizontal dimensions can be loaded where its variable has a number, and has the
converted number there. -/
theorem HorizontalTerm.Loaded.exists_load_of_holds {d : Dataset ℚ} {v : Variable ℚ} {factor x : ℚ}
    {g : HorizontalTerm ℚ} {n k j i step : Nat} (h : g.Loaded d v factor)
    (hx : d.Holds v n k j i .field x) (hpresent : v.missing.covers x = false)
    (hstep : ∀ m, g.times = some m → step = n) :
    ∃ plane, g.load d step = .ok plane ∧ plane.get2 Scalar.nan j i = x * factor := by
  have hentry : ∀ {data : Tensor ℚ}, data.get2? j i = some x →
      (data.map (Recipe.clean v.missing factor)).get2 Scalar.nan j i = x * factor := by
    intro data hdata
    refine Tensor.get2_of_get2? ?_ _
    rw [Tensor.get2?_map, hdata, Option.map_some, Recipe.clean_of_present hpresent]
  cases h with
  | static hshape hread hdata =>
    refine ⟨_, load_static rfl step, ?_⟩
    cases hx with
    | static _ hread' _ hx =>
      cases hread.symm.trans hread'
      exact hentry hx
    | timed hshape' _ _ _ =>
      rw [hshape] at hshape'
      cases hshape'
  | timed hshape =>
    cases hx with
    | static hshape' _ _ _ =>
      rw [hshape] at hshape'
      cases hshape'
    | timed hshape' hread hdata hx =>
      rw [hshape] at hshape'
      cases hshape'
      obtain rfl : step = n := hstep _ rfl
      exact ⟨_, bind_eq_ok.2 ⟨_, hread, clean_eq_ok.2 ⟨hdata, rfl⟩⟩, hentry hx⟩

/-! ### Formulas at a point -/

/-- The planes can be read if each horizontal term can be loaded, and have their values there. -/
theorem FormulaSource.exists_planes_of_values {f : FormulaSource ℚ} {terms : List String}
    {value : String → ℚ} {step j i : Nat}
    (h : List.Forall₂ (fun term g => ∃ plane, HorizontalTerm.load g f.base.dataset step = .ok plane ∧
      plane.get2 Scalar.nan j i = value term) terms f.terms) :
    ∃ surface depth, f.planes step = .ok (surface, depth) ∧
      (∀ term, terms.head? = some term → surface.get2 Scalar.nan j i = value term) ∧
      ∀ term, terms.getLast? = some term → depth.get2 Scalar.nan j i = value term := by
  simp only [planes_eq_ok]
  unfold FormulaSource.terms at h
  obtain ⟨first, rest, ⟨surface, hsurface, hvalue⟩, hrest, rfl⟩ := List.forall₂_cons_right_iff.1 h
  rcases hdepth : f.depth with _ | g <;> rw [hdepth] at hrest
  · obtain rfl := List.forall₂_nil_right_iff.1 hrest
    refine ⟨surface, surface, ⟨hsurface, hsurface⟩, ?_, ?_⟩ <;> rintro _ ⟨⟩ <;> exact hvalue
  · obtain ⟨second, none, ⟨depth, hload, hvalue'⟩, hnone, rfl⟩ :=
      List.forall₂_cons_right_iff.1 hrest
    obtain rfl := List.forall₂_nil_right_iff.1 hnone
    refine ⟨surface, depth, ⟨hsurface, hload⟩, ?_, ?_⟩ <;> rintro _ ⟨⟩
    · exact hvalue
    · exact hvalue'

/-- The array has the coordinate of a point at its place. -/
theorem FormulaSource.exists_array {f : FormulaSource ℚ} {n step k j i : Nat}
    {surface depth : Tensor ℚ} (hstep : f.base.timeStep n = .ok step)
    (hplanes : f.planes step = .ok (surface, depth)) (hk : k < f.base.shape.levels)
    (hj : j < f.base.shape.rows) (hi : i < f.base.shape.columns) :
    ∃ a, f.array n = .ok a ∧ a.get3? k j i = some (f.column.coordinate k
      (surface.get2 Scalar.nan j i) (depth.get2 Scalar.nan j i)) := by
  refine ⟨_, bind_eq_ok.2 ⟨step, hstep, bind_eq_ok.2 ⟨_, hplanes, rfl⟩⟩, ?_⟩
  rw [Tensor.get3?_eq (Tensor.isFull_generate3 _ _ _ _) rfl hk hj hi Scalar.nan,
    Tensor.get3_generate3 hk hj hi]

namespace Reading

variable {x : Reading} {r : Recipe ℚ} {formula : Formula} {n k j i : Nat} {term : String}

theorem At.binds (h : x.At r.terms r.dataset formula n k j i)
    (hterm : term ∈ formula.usedTerms r.terms) : r.Binds term (x.var term) := by
  obtain ⟨name, hname, hfind⟩ := h.bound term hterm
  exact ⟨name, FormulaTerms.find?_eq_some.2 hname, hfind⟩

theorem At.unit_eq [Hyperbolic ℚ] {unit : Option String} {f : FormulaSource ℚ}
    (h : x.At r.terms r.dataset formula n k j i) (hmakes : r.Makes formula unit f) :
    x.unit formula = unit := by
  obtain ⟨term, v, hterm, hbinds, rfl⟩ := hmakes.reference
  rw [unit, hterm, hbinds.unique (h.binds ((Formula.isUsed_of_referenceTerm hterm).mem_usedTerms _))]
  rfl

/-- Terms that are pressures or lengths are converted to the unit of the reference term, and others are
not converted. The reference term itself needs no conversion. -/
theorem value_eq (x : Reading) (settings : Settings) {target : Option String}
    (h : term ∈ formula.dimensionalTerms ∧ target = x.unit formula ∨
      term ∉ formula.dimensionalTerms ∧ target = none ∨
      formula.referenceTerm = some term ∧ target = none) :
    x.number term * settings.conversion (x.var term).units? target =
      x.value settings formula formula.dimensionalTerms term := by
  unfold value
  rcases h with ⟨hterm, rfl⟩ | ⟨hterm, rfl⟩ | ⟨hreference, rfl⟩
  · rw [if_pos hterm]
  · rw [if_neg hterm, Settings.conversion_none, mul_one]
  · have hunit : x.unit formula = (x.var term).units? := by
      rw [unit, hreference]
      rfl
    rw [hunit, Settings.conversion_self, Settings.conversion_none, mul_one, ite_self]

section Values

variable {target : Option String} (h : x.At r.terms r.dataset formula n k j i)
  (hterm : term ∈ formula.usedTerms r.terms)
  (htarget : term ∈ formula.dimensionalTerms ∧ target = x.unit formula ∨
    term ∉ formula.dimensionalTerms ∧ target = none ∨
    formula.referenceTerm = some term ∧ target = none)

include h hterm htarget

theorem At.level {xs : List ℚ} (hread : r.levels formula term target = .ok xs)
    (hkind : formula.termKind term = .level) :
    k < xs.length ∧
      Column.level xs k = x.value r.settings formula formula.dimensionalTerms term := by
  have hholds := h.holds term hterm
  rw [hkind] at hholds
  rw [← x.value_eq r.settings htarget]
  exact Recipe.level_of_levels hread (h.binds hterm) hholds (h.present term hterm)

theorem At.number_eq {y : ℚ} (hread : r.number formula term target = .ok y)
    (hkind : formula.termKind term = .number) :
    y = x.value r.settings formula formula.dimensionalTerms term := by
  have hholds := h.holds term hterm
  rw [hkind] at hholds
  rw [← x.value_eq r.settings htarget]
  exact Recipe.number_of_number hread (h.binds hterm) hholds (h.present term hterm)

theorem At.exists_load {g : HorizontalTerm ℚ} {step : Nat}
    (hread : r.horizontal formula term target = .ok g) (hkind : formula.termKind term = .field)
    (hstep : ∀ m, g.times = some m → step = n) :
    ∃ plane, g.load r.dataset step = .ok plane ∧ plane.get2 Scalar.nan j i =
      x.value r.settings formula formula.dimensionalTerms term := by
  obtain ⟨v, hbinds, hloaded⟩ := Recipe.horizontal_eq_ok.1 hread
  cases hbinds.unique (h.binds hterm)
  have hholds := h.holds term hterm
  rw [hkind] at hholds
  rw [← x.value_eq r.settings htarget, ← Recipe.unitFactor_eq]
  exact hloaded.exists_load_of_holds hholds (h.present term hterm) hstep

end Values

end Reading

namespace Recipe

variable {r : Recipe ℚ} {formula : Formula} {unit : Option String} {n k j i : Nat} {x : Reading}

theorem pressureOutput_eq (r : Recipe ℚ) {formula : Formula} (h : formula.isPressure = true)
    (unit : Option String) :
    (r.pressureOutput unit).2 = formula.outputFactor r.settings unit := by
  unfold pressureOutput Formula.outputFactor
  rw [h]
  rcases r.settings.outputPressureUnit with _ | target
  · rfl
  · dsimp only
    cases conversionFactor? (α := ℚ) (unit.getD "Pa") target <;> rfl

theorem level_map {α : Type} [Scalar α] {xs : List α} (f : α → α) (h : k < xs.length) :
    Column.level (xs.map f) k = f (Column.level xs k) := by
  simp [Column.level, List.getD, h]

/-- The offset is that of the equation, which depends on what is bound. -/
theorem level_of_pressureOffset {offset : List ℚ} (h : r.pressureOffset unit = .ok offset)
    (hx : x.At r.terms r.dataset .hybridSigmaPressure n k j i)
    (hunit : unit = x.unit .hybridSigmaPressure) (value : String → ℚ)
    (hvalue : value = x.value r.settings .hybridSigmaPressure
      Formula.hybridSigmaPressure.dimensionalTerms) :
    Column.level offset k =
      if r.terms.contains "ap" then value "ap" else value "a" * value "p0" := by
  unfold pressureOffset at h
  split_ifs at h with hap
  · rw [if_pos hap, hvalue]
    exact (hx.level (by simp [Formula.usedTerms, Formula.termLists, hap])
      (.inl ⟨by decide, hunit⟩) h rfl).2
  · obtain ⟨reference, hreference, h⟩ := bind_eq_ok.1 h
    obtain ⟨share, hshare, h⟩ := bind_eq_ok.1 h
    cases h
    obtain ⟨hk, hlevel⟩ := hx.level (by simp [Formula.usedTerms, Formula.termLists, hap])
      (.inr (.inl ⟨by decide, rfl⟩)) hshare rfl
    have hnumber := hx.number_eq (by simp [Formula.usedTerms, Formula.termLists, hap])
      (.inl ⟨by decide, hunit⟩) hreference rfl
    rw [if_neg hap, hvalue, level_map _ hk, hlevel, hnumber]

/-- The column of a formula gives the coordinate of its equation. -/
theorem Columns.coordinate_eq [Hyperbolic ℚ] {c : Column ℚ} (h : r.Columns unit formula c)
    (hx : x.At r.terms r.dataset formula n k j i) (hunit : unit = x.unit formula)
    {value : String → ℚ} (hvalue : value = x.value r.settings formula formula.dimensionalTerms)
    {surface depth : ℚ}
    (hsurface : ∀ term, formula.horizontalTerms.head? = some term → surface = value term)
    (hdepth : ∀ term, formula.horizontalTerms.getLast? = some term → depth = value term) :
    c.coordinate k surface depth =
      formula.coordinate r.terms value * formula.outputFactor r.settings unit := by
  -- Where the terms stand in the tables of terms is decided for each of them.
  have hlevel : ∀ {term xs}, r.levels formula term none = .ok xs →
      (formula.IsUsed term ∧ formula.termKind term = .level) ∧
        (term ∉ formula.dimensionalTerms ∨ formula.referenceTerm = some term) →
      k < xs.length ∧ Column.level xs k = value term := by
    rintro term xs hread ⟨⟨hterm, hkind⟩, hpure⟩
    rw [hvalue]
    exact hx.level (hterm.mem_usedTerms _) (.inr (hpure.imp (⟨·, rfl⟩) (⟨·, rfl⟩))) hread hkind
  have hnumber : ∀ {term target y}, r.number formula term target = .ok y →
      formula.IsUsed term ∧ formula.termKind term = .number →
      term ∈ formula.dimensionalTerms ∧ target = unit ∨
        term ∉ formula.dimensionalTerms ∧ target = none → y = value term := by
    rintro term target y hread ⟨hterm, hkind⟩ htarget
    rw [hvalue]
    rw [hunit] at htarget
    exact hx.number_eq (hterm.mem_usedTerms _) (htarget.imp id .inl) hread hkind
  cases h with
  | atmosSigma hsigma htop =>
    rw [Column.coordinate, (hlevel hsigma (by decide)).2,
      hnumber htop (by decide) (.inl ⟨by decide, rfl⟩), hsurface "ps" rfl,
      pressureOutput_eq r (show Formula.atmosSigma.isPressure = true from rfl)]
    rfl
  | hybridSigmaPressure hoffset hshare hlength =>
    rw [Column.coordinate, level_of_pressureOffset hoffset hx hunit value hvalue,
      (hlevel hshare (by decide)).2, hsurface "ps" rfl,
      pressureOutput_eq r (show Formula.hybridSigmaPressure.isPressure = true from rfl),
      Formula.coordinate]
    split_ifs <;> rfl
  | hybridHeight hoffset hshare hlength =>
    rw [Column.coordinate, (hlevel hoffset (by decide)).2, (hlevel hshare (by decide)).2,
      hsurface "orog" rfl, Formula.outputFactor_of_height rfl, mul_one]
    rfl
  | oceanSigma hsigma =>
    rw [Column.coordinate, (hlevel hsigma (by decide)).2, hsurface "eta" rfl, hdepth "depth" rfl,
      Formula.outputFactor_of_height rfl, mul_one]
    rfl
  | oceanS hs ha hb hcritical =>
    obtain ⟨hk, hs⟩ := hlevel hs (by decide)
    rw [Column.coordinate, level_map _ hk, hs, hnumber ha (by decide) (.inr ⟨by decide, rfl⟩),
      hnumber hb (by decide) (.inr ⟨by decide, rfl⟩),
      hnumber hcritical (by decide) (.inl ⟨by decide, rfl⟩), hsurface "eta" rfl,
      hdepth "depth" rfl, Formula.outputFactor_of_height rfl, mul_one]
    rfl
  | oceanSG1 hs hcurve hlength hcritical =>
    rw [Column.coordinate, (hlevel hs (by decide)).2, (hlevel hcurve (by decide)).2,
      hnumber hcritical (by decide) (.inl ⟨by decide, rfl⟩), hsurface "eta" rfl,
      hdepth "depth" rfl, Formula.outputFactor_of_height rfl, mul_one]
    rfl
  | oceanSG2 hs hcurve hlength hcritical =>
    rw [Column.coordinate, (hlevel hs (by decide)).2, (hlevel hcurve (by decide)).2,
      hnumber hcritical (by decide) (.inl ⟨by decide, rfl⟩), hsurface "eta" rfl,
      hdepth "depth" rfl, Formula.outputFactor_of_height rfl, mul_one]
    rfl

end Recipe

end Gridded
