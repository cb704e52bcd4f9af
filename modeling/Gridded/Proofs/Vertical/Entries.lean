import Gridded.Proofs.Data.Indexing
import Gridded.Proofs.Vertical.Answering
import Gridded.Proofs.Vertical.Equations

/-!
# Which entries count

A coordinate is computed for a time index, a level, a row and a column from arrays that are held in
memory. Each term of its formula has one entry there, and so has a coordinate that is stored. Whatever
way a term is read, what is read is that entry, cleaned.

* `GridPoint`: where a coordinate is computed;
* `TermKind.index`, `GridPoint.storedIndex`: the indices of the entries;
* `Recipe.Uses`: the entries that count for a formula at a point;
* `Recipe.Cleaned`: a number is the entry of a term, cleaned, with `Recipe.cleaned_level`,
  `Recipe.cleaned_number` and `Recipe.cleaned_field` for the ways in which terms are read;
* `Variable.cleared`, `Recipe.cleared_stored`: the same for a stored coordinate;
* `VerticalTransform.Coherent.coordinateAt_eq`, `Recipe.answers_of_make`: single coordinates.
-/

namespace Gridded

/-! ### Points and indices -/

/-- A time index, a level, a row and a column. -/
structure GridPoint where
  time : Nat
  level : Nat
  row : Nat
  column : Nat

/-- The index at which the variable of a term, of that many dimensions, has its number for a point. All
levels are at the only index of a variable without dimensions, and without time steps the numbers are
the same at all times. -/
def TermKind.index (p : GridPoint) (rank : Nat) : TermKind → List Nat
  | .level => [p.level].take rank
  | .number => [0].take rank
  | .field => [p.time, p.row, p.column].drop (3 - rank)

/-- The index at which the variable of a stored coordinate has its number for a point. -/
def GridPoint.storedIndex (p : GridPoint) (rank : Nat) : List Nat :=
  [p.time, p.level, p.row, p.column].drop (4 - rank)

/-- The point lies on the grid of a transform, and its time index is accepted. -/
structure VerticalTransform.Has {α : Type} (t : VerticalTransform α) (strict : Bool) (p : GridPoint) :
    Prop where
  time : TimeAccepted strict t.times p.time
  level : p.level < t.shape.levels
  row : p.row < t.shape.rows
  column : p.column < t.shape.columns

section Entries

variable {α : Type} [Scalar α]

/-- The number is none in the data of the variable: it is not a number, or it is one of those that mark
what is missing. -/
def Variable.Lacks (v : Variable α) (x : α) : Prop :=
  Scalar.isNaN x = true ∨ ∃ mark, (v.attributes.number? Attributes.Name.fillValue = some mark ∨
    v.attributes.number? Attributes.Name.missingValue = some mark) ∧ (mark == x) = true

theorem Variable.covers_iff {v : Variable α} {x : α} : v.missing.covers x = true ↔ v.Lacks x := by
  have hmark : ∀ mark? : Option α, Missing.matchesMark x mark? = true ↔
      ∃ mark, mark? = some mark ∧ (mark == x) = true := by
    rintro (_ | mark) <;> simp [Missing.matchesMark]
  simp only [Missing.covers, Variable.missing, Bool.or_eq_true, hmark, Variable.Lacks, or_assoc,
    or_and_right, exists_or]

namespace Recipe

/-- The control of the bottom of the stretching curve does not count where that of the surface is
present and next to zero. -/
def Idle (r : Recipe α) (lib : Library α) (formula : Formula) (term : String) : Prop :=
  formula = .oceanS ∧ term = "b" ∧ ∃ v x, r.Binds "a" v ∧
    lib.at? v.name ([0].take v.rank) = some x ∧ ¬v.Lacks x ∧ Scalar.abs x < 1e-12

/-- The entry of a variable counts for the coordinate of a point: it is that of a term, or that of the
stored coordinate. -/
inductive Uses (r : Recipe α) (lib : Library α) (p : GridPoint) :
    Formula → Variable α → List Nat → Prop
  | term {formula : Formula} {term : String} {v : Variable α}
    (hterm : term ∈ formula.usedTerms r.terms) (hbinds : r.Binds term v)
    (hcounts : ¬r.Idle lib formula term) :
    Uses r lib p formula v ((formula.termKind term).index p v.rank)
  | stored {v : Variable α} (hv : r.storedVariable = .ok v) :
    Uses r lib p .existingField v (p.storedIndex v.rank)

/-- The number is the entry that a term has at a point, converted to the unit `target`, or none where
the entry is missing. -/
def Cleaned (r : Recipe α) (lib : Library α) (p : GridPoint) (kind : TermKind)
    (target : Option String) (term : String) (z : α) : Prop :=
  ∃ v x, r.Binds term v ∧ lib.at? v.name (kind.index p v.rank) = some x ∧
    z = clean v.missing (unitFactor r.settings v.units? target) x

/-! ### Terms -/

variable {r : Recipe α} {lib : Library α} {p : GridPoint} {formula : Formula} {term : String}
  {target : Option String}

/-- A list of numbers has the cleaned entries of its variable. -/
theorem exists_entry_of_levels (hlib : lib.Built) (hr : r.dataset = lib.toDataset) {xs : List α}
    (h : r.levels formula term target = .ok xs) {k : Nat} (hk : k < xs.length) :
    ∃ v x, r.Binds term v ∧ lib.at? v.name ([k].take v.rank) = some x ∧
      xs[k]? = some (clean v.missing (unitFactor r.settings v.units? target) x) := by
  obtain ⟨v, data, hbinds, hrank, hread, rfl⟩ := levels_eq_ok.1 h
  have hk : k < data.entries.size := by simpa using hk
  obtain ⟨name, -, hfind⟩ := id hbinds
  rw [hr] at hread hfind
  obtain ⟨data', hread', hshape, hfull⟩ := hlib.read hfind
  cases hread.symm.trans hread'
  refine ⟨v, data.entries[k], hbinds, ?_, by simp [hk]⟩
  rw [Variable.rank, ← hshape] at hrank ⊢
  rw [Library.at?_eq hread, Tensor.at?_take hfull hrank hk, Array.getElem?_eq_getElem hk]

theorem cleaned_level (hlib : lib.Built) (hr : r.dataset = lib.toDataset) {xs : List α}
    (h : r.levels formula term target = .ok xs) (hk : p.level < xs.length) :
    r.Cleaned lib p .level target term (Column.level xs p.level) := by
  obtain ⟨v, x, hbinds, hentry, hlevel⟩ := exists_entry_of_levels hlib hr h hk
  refine ⟨v, x, hbinds, hentry, ?_⟩
  rw [Column.level, List.getD_eq_getElem?_getD, hlevel]
  rfl

theorem cleaned_number (hlib : lib.Built) (hr : r.dataset = lib.toDataset) {z : α}
    (h : r.number formula term target = .ok z) : r.Cleaned lib p .number target term z := by
  obtain ⟨v, x, hbinds, hentry, hnumber⟩ :=
    exists_entry_of_levels (k := 0) hlib hr (number_eq_ok.1 h) Nat.one_pos
  exact ⟨v, x, hbinds, hentry, Option.some.inj hnumber⟩

/-- What is loaded for a time step has the cleaned entries of that time step. -/
theorem cleaned_field (hlib : lib.Built) (hr : r.dataset = lib.toDataset) {g : HorizontalTerm α}
    (h : r.horizontal formula term target = .ok g) {step : Nat} {plane : Tensor α}
    (hload : g.load r.dataset step = .ok plane) (hstep : ∀ m, g.times = some m → step = p.time)
    (hrow : p.row < g.rows) (hcolumn : p.column < g.columns) :
    r.Cleaned lib p .field target term (plane.get2 Scalar.nan p.row p.column) := by
  obtain ⟨v, hbinds, hloaded⟩ := horizontal_eq_ok.1 h
  rw [hr] at hload hloaded
  cases hloaded with
  | static hshape hread hdata =>
    rename_i data
    obtain ⟨x, hx⟩ : ∃ x, data.at? [p.row, p.column] = some x := by
      rw [← Tensor.get2?_eq_at?]
      exact ⟨_, Tensor.get2?_eq (hlib.full.read hread) hdata hrow hcolumn Scalar.nan⟩
    rw [HorizontalTerm.load_static rfl] at hload
    cases hload
    refine ⟨v, x, hbinds, ?_, Tensor.get2_map_of_at? hx _ _⟩
    rw [Variable.rank, hshape, ← hx]
    exact Library.at?_eq hread _
  | timed hshape =>
    obtain rfl : step = p.time := hstep _ rfl
    obtain ⟨part, hread, hclean⟩ := bind_eq_ok.1 hload
    obtain ⟨hpart, rfl⟩ := HorizontalTerm.clean_eq_ok.1 hclean
    obtain ⟨x, hx⟩ : ∃ x, part.at? [p.row, p.column] = some x := by
      rw [← Tensor.get2?_eq_at?]
      exact ⟨_, Tensor.get2?_eq (hlib.full.readAt hread) hpart hrow hcolumn Scalar.nan⟩
    refine ⟨v, x, hbinds, ?_, Tensor.get2_map_of_at? hx _ _⟩
    rw [Variable.rank, hshape, ← hx]
    exact Library.at?_eq_of_readAt hread _

/-! ### Formulas -/

namespace Makes

variable [Hyperbolic α] {unit : Option String} {f : FormulaSource α}

theorem size_eq (h : r.Makes formula unit f) : f.base.shape.levels = f.column.size := by
  obtain ⟨times, outUnit, hbase, -⟩ := h.base
  rw [hbase]
  rfl

/-- The first horizontal term is that of the surface, and the last one that of the depth. -/
theorem horizontal_eq (h : r.Makes formula unit f) :
    (∀ term, formula.horizontalTerms.head? = some term →
      r.horizontal formula term unit = .ok f.surface) ∧
    ∀ term, formula.horizontalTerms.getLast? = some term →
      r.horizontal formula term unit = .ok (f.depth.getD f.surface) := by
  have hterms := h.terms
  unfold FormulaSource.terms at hterms
  generalize formula.horizontalTerms = terms at hterms ⊢
  obtain ⟨first, rest, hsurface, hrest, rfl⟩ := List.forall₂_cons_right_iff.1 hterms
  rcases hdepth : f.depth with _ | g <;> rw [hdepth] at hrest
  · obtain rfl := List.forall₂_nil_right_iff.1 hrest
    constructor <;> rintro _ ⟨⟩ <;> exact hsurface
  · obtain ⟨last, none, hlast, hnone, rfl⟩ := List.forall₂_cons_right_iff.1 hrest
    obtain rfl := List.forall₂_nil_right_iff.1 hnone
    constructor <;> rintro _ ⟨⟩
    · exact hsurface
    · exact hlast

/-- A coordinate in an array is computed from the cleaned entries of the horizontal terms. -/
theorem exists_cleaned (h : r.Makes formula unit f) (hlib : lib.Built)
    (hr : r.dataset = lib.toDataset) (hlevel : p.level < f.base.shape.levels)
    (hrow : p.row < f.base.shape.rows) (hcolumn : p.column < f.base.shape.columns) {a : Tensor α}
    (ha : f.array p.time = .ok a) :
    ∃ surface depth, a.get3 Scalar.nan p.level p.row p.column =
        f.column.coordinate p.level surface depth ∧
      (∀ term, formula.horizontalTerms.head? = some term →
        r.Cleaned lib p .field unit term surface) ∧
      ∀ term, formula.horizontalTerms.getLast? = some term →
        r.Cleaned lib p .field unit term depth := by
  obtain ⟨step, hstep, ha⟩ := bind_eq_ok.1 ha
  obtain ⟨⟨surface, depth⟩, hplanes, ha⟩ := bind_eq_ok.1 ha
  cases ha
  obtain ⟨hsurface, hdepth⟩ := FormulaSource.planes_eq_ok.1 hplanes
  obtain ⟨hfirst, hlast⟩ := h.horizontal_eq
  have hcleaned : ∀ g ∈ f.terms, ∀ plane, g.load f.base.dataset step = .ok plane → ∀ term,
      r.horizontal formula term unit = .ok g →
        r.Cleaned lib p .field unit term (plane.get2 Scalar.nan p.row p.column) := by
    intro g hg plane hload term hread
    obtain ⟨hrows, hcolumns⟩ := h.sound.extent g hg
    rw [h.dataset_eq] at hload
    exact cleaned_field hlib hr hread hload (h.eq_of_timeStep hstep g hg) (hrows ▸ hrow)
      (hcolumns ▸ hcolumn)
  refine ⟨_, _, Tensor.get3_generate3 hlevel hrow hcolumn, fun term hterm => ?_,
    fun term hterm => ?_⟩
  · exact hcleaned _ (FormulaSource.mem_terms.2 (.inl rfl)) _ hsurface _ (hfirst term hterm)
  · exact hcleaned _ (FormulaSource.mem_terms.2 (.inr rfl)) _ hdepth _ (hlast term hterm)

end Makes

end Recipe

/-! ### Stored coordinates -/

/-- A stored number, or none where it is missing. -/
def Variable.cleared (v : Variable α) (x : α) : α :=
  if v.missing.isSome ∧ v.missing.covers x then Scalar.nan else x

theorem StoredSource.cleared_of_clean {f : StoredSource α} {data cleaned : Tensor α}
    (h : f.clean data = .ok cleaned) {k j i : Nat} {x : α} (hx : data.at? [k, j, i] = some x) :
    cleaned.get3 Scalar.nan k j i = f.var.cleared x := by
  unfold clean at h
  split_ifs at h
  dsimp only at h
  split_ifs at h with hmarks <;> cases h
  · refine Tensor.get3_of_at? ?_ _
    rw [Tensor.at?_map, hx, Variable.cleared, hmarks]
    simp
  · rw [Variable.cleared, if_neg fun hcovers => hmarks hcovers.1]
    exact Tensor.get3_of_at? hx _

theorem StoredSource.shape_eq_of_clean {f : StoredSource α} {data cleaned : Tensor α}
    (h : f.clean data = .ok cleaned) : data.shape = f.base.shape.toList := by
  by_contra hshape
  rw [clean, if_neg hshape] at h
  cases h

/-- An array of a stored coordinate has the cleared entries of its time step. -/
theorem Recipe.cleared_stored {r : Recipe α} {lib : Library α} {p : GridPoint} (hlib : lib.Built)
    (hr : r.dataset = lib.toDataset) {f : StoredSource α} (h : r.existingField = .ok f) {a : Tensor α}
    (ha : f.array p.time = .ok a) (hlevel : p.level < f.base.shape.levels)
    (hrow : p.row < f.base.shape.rows) (hcolumn : p.column < f.base.shape.columns) :
    ∃ v x, r.storedVariable = .ok v ∧ lib.at? v.name (p.storedIndex v.rank) = some x ∧
      a.get3 Scalar.nan p.level p.row p.column = v.cleared x := by
  have hentry : ∀ {data : Tensor α}, data.IsFull → data.shape = f.base.shape.toList →
      ∃ x, data.at? [p.level, p.row, p.column] = some x := by
    intro data hfull hshape
    rw [← Tensor.get3?_eq_at?]
    exact ⟨_, Tensor.get3?_eq hfull hshape hlevel hrow hcolumn Scalar.nan⟩
  obtain ⟨v, hv, h⟩ := bind_eq_ok.1 h
  obtain ⟨step, hstep, ha⟩ := bind_eq_ok.1 ha
  rw [hr] at h
  split at h
  · rename_i hshape
    obtain ⟨data, hread, h⟩ := bind_eq_ok.1 h
    obtain ⟨cleaned, hclean, h⟩ := bind_eq_ok.1 h
    cases h
    cases ha
    obtain ⟨x, hx⟩ := hentry (hlib.full.read hread) (StoredSource.shape_eq_of_clean hclean)
    refine ⟨v, x, hv, ?_, StoredSource.cleared_of_clean hclean hx⟩
    rw [Variable.rank, hshape, ← hx]
    exact Library.at?_eq hread _
  · rename_i hshape
    cases h
    obtain rfl : step = p.time := VerticalBase.eq_of_timeStep hstep rfl
    obtain ⟨part, hread, hclean⟩ := bind_eq_ok.1 ha
    have hread : lib.toDataset.readAt v.name p.time = .ok part := hr ▸ hread
    obtain ⟨x, hx⟩ := hentry (hlib.full.readAt hread) (StoredSource.shape_eq_of_clean hclean)
    refine ⟨v, x, hv, ?_, StoredSource.cleared_of_clean hclean hx⟩
    rw [Variable.rank, hshape, ← hx]
    exact Library.at?_eq_of_readAt hread _
  · cases h

/-! ### Single coordinates -/

/-- The column above a point has the entries of the array, so both ways of looking up a coordinate give
the same. -/
theorem VerticalTransform.Coherent.coordinateAt_eq {t : VerticalTransform α} (h : t.Coherent)
    {strict : Bool} {p : GridPoint} (hp : t.Has strict p) (lookup : Lookup) :
    t.coordinateAt lookup p.time p.level p.row p.column =
      (fun a => a.get3 Scalar.nan p.level p.row p.column) <$> t.array p.time := by
  cases lookup with
  | array => rfl
  | column =>
    rw [coordinateAt, h.inside p.time p.column p.row hp.column hp.row, Functor.map_map]
    simp [Tensor.columnAt, hp.level]

/-- A transform that is made from a library refuses nothing but time indices. -/
theorem Recipe.answers_of_make [Hyperbolic α] {r : Recipe α} {lib : Library α} (hlib : lib.Built)
    (hr : r.dataset = lib.toDataset) {formula : Formula} {t : VerticalTransform α}
    (h : r.make formula = .ok t) : t.Answers r.settings.strictTimeIndex := by
  obtain ⟨c, rfl, hsound, hdataset, hstrict⟩ := exists_coordinates h
  rw [hr] at hsound hdataset
  rw [← hstrict]
  cases c with
  | formula f => exact hsound.answers hlib hdataset
  | stored f => exact hsound.answers hlib hdataset

end Entries

end Gridded
