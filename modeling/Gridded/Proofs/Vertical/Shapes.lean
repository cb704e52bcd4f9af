import Gridded.Proofs.Vertical.Answering
import Gridded.Proofs.Vertical.Equations

/-!
# Declared shapes

A variable declares a shape, and the array that is read for it may have another one. Terms with
horizontal dimensions and stored coordinates are compared with what they declare. Terms without horizontal
dimensions are not: of these only the numbers of entries count, one for a term with a single number, and as
many as in the other lists for a term with a number for each level.

* `IsMismatch`, `ChecksShape`: computations that fail since shapes do not match, and that do so exactly if
  a condition does not hold, with rules for going on;
* `Recipe.Ready`: a recipe in which nothing else can fail;
* `Recipe.Fits`, `Recipe.AsDeclared`: what the arrays that are read at once have to be for the formula to
  be made, and what they are declared to be;
* `Recipe.checks_make`, `Recipe.checks_evaluation`: making and evaluating;
* `Recipe.mismatch_iff`: when arrays that are not as declared are noticed.
-/

namespace Gridded

/-! ### Computations that check shapes -/

/-- The computation fails since shapes do not match. -/
def IsMismatch {α : Type} (x : Except Error α) : Prop :=
  ∃ name expected found, x = .error (.shapeMismatch name expected found)

/-- The computation has a result if `P` holds, and otherwise fails since shapes do not match. -/
structure ChecksShape {α : Type} (P : Prop) (x : Except Error α) : Prop where
  ok : P → ∃ a, x = .ok a
  error : ¬ P → IsMismatch x

namespace ChecksShape

variable {α β : Type} {P Q : Prop} {x : Except Error α}

theorem of_ok {a : α} (h : x = .ok a) : ChecksShape True x :=
  ⟨fun _ => ⟨a, h⟩, fun hfalse => absurd trivial hfalse⟩

theorem of_ite {name : String} {expected found : List Nat} [Decidable P] {a : α}
    (h : x = if P then .ok a else .error (.shapeMismatch name expected found)) : ChecksShape P x where
  ok hp := ⟨a, by rw [h, if_pos hp]⟩
  error hp := ⟨name, expected, found, by rw [h, if_neg hp]⟩

theorem congr (h : ChecksShape P x) (hPQ : P ↔ Q) : ChecksShape Q x where
  ok hq := h.ok (hPQ.2 hq)
  error hq := h.error fun hp => hq (hPQ.1 hp)

/-- A further check counts if the first one was passed. -/
theorem bind (h : ChecksShape P x) {f : α → Except Error β}
    (hf : ∀ a, x = .ok a → ChecksShape Q (f a)) : ChecksShape (P ∧ Q) (x >>= f) where
  ok := by
    rintro ⟨hp, hq⟩
    obtain ⟨a, ha⟩ := h.ok hp
    obtain ⟨b, hb⟩ := (hf a ha).ok hq
    exact ⟨b, bind_eq_ok.2 ⟨a, ha, hb⟩⟩
  error := by
    intro hpq
    by_cases hp : P
    · obtain ⟨a, ha⟩ := h.ok hp
      obtain ⟨name, expected, found, herror⟩ := (hf a ha).error fun hq => hpq ⟨hp, hq⟩
      exact ⟨name, expected, found, bind_eq_error.2 (.inr ⟨a, ha, herror⟩)⟩
    · obtain ⟨name, expected, found, herror⟩ := h.error hp
      exact ⟨name, expected, found, bind_eq_error.2 (.inl herror)⟩

/-- Go on from a step that cannot fail. -/
theorem bindOk {a : α} (h : x = .ok a) {f : α → Except Error β} (hf : ChecksShape Q (f a)) :
    ChecksShape Q (x >>= f) := by
  rw [h, ok_bind]
  exact hf

theorem map (h : ChecksShape P x) (f : α → β) : ChecksShape P (f <$> x) where
  ok hp := by
    obtain ⟨a, ha⟩ := h.ok hp
    exact ⟨f a, map_eq_ok.2 ⟨a, ha, rfl⟩⟩
  error hp := by
    obtain ⟨name, expected, found, herror⟩ := h.error hp
    exact ⟨name, expected, found, map_eq_error.2 herror⟩

end ChecksShape

/-! ### What is read at once -/

namespace Recipe

variable {α : Type}

/-- The number of entries of the array of a term, or zero if there is no such array. -/
def entryCount (r : Recipe α) (term : String) : Nat :=
  match (r.terms.find? term).bind r.dataset.find? with
  | none => 0
  | some v =>
    match r.dataset.read v.name with
    | .ok data => data.entries.size
    | .error _ => 0

theorem entryCount_eq {r : Recipe α} {term : String} {v : Variable α} {data : Tensor α}
    (hbinds : r.Binds term v) (hread : r.dataset.read v.name = .ok data) :
    r.entryCount term = data.entries.size := by
  obtain ⟨name, hname, hv⟩ := hbinds
  simp only [entryCount, hname, Option.bind_some, hv, hread]

/-- The terms of a kind that are used. -/
def termsOf (r : Recipe α) (formula : Formula) (kind : TermKind) : List String :=
  (formula.usedTerms r.terms).filter (formula.termKind · = kind)

/-- Nothing but the shapes of arrays can fail: all terms are bound to variables of a suitable number of
dimensions, those with horizontal dimensions declare the same grid and time steps, and whatever is read at
once can be read. -/
structure Ready (r : Recipe α) (formula : Formula) : Prop where
  numbers : ∀ kind, kind ≠ .field → ∀ term ∈ r.termsOf formula kind,
    ∃ v data, r.Binds term v ∧ v.rank ≤ 1 ∧ r.dataset.read v.name = .ok data
  fields : ∃ times rows columns, ∀ term ∈ formula.horizontalTerms, ∃ v, r.Binds term v ∧
    (v.shape = [times, rows, columns] ∨
      v.shape = [rows, columns] ∧ ∃ data, r.dataset.read v.name = .ok data)
  stored : formula = .existingField → ∃ v, r.storedVariable = .ok v ∧
    (v.rank = 4 ∨ v.rank = 3 ∧ ∃ data, r.dataset.read v.name = .ok data)

/-- The array of a term without time steps has the shape that is declared. -/
def FieldFits (r : Recipe α) (term : String) : Prop :=
  ∀ v data, r.Binds term v → v.rank = 2 → r.dataset.read v.name = .ok data → data.shape = v.shape

/-- The array of a stored coordinate without time steps has the shape that is declared. -/
def StoredFits (r : Recipe α) : Prop :=
  ∀ v data, r.storedVariable = .ok v → v.rank = 3 → r.dataset.read v.name = .ok data →
    data.shape = v.shape

/-- The arrays that are read at once have the declared shape if they have horizontal dimensions, and
otherwise the right number of entries. -/
structure Fits (r : Recipe α) (formula : Formula) : Prop where
  fields : ∀ term ∈ formula.horizontalTerms, r.FieldFits term
  numbers : ∀ term ∈ r.termsOf formula .number, r.entryCount term = 1
  levels : (r.termsOf formula .level).Pairwise fun term other => r.entryCount term = r.entryCount other
  stored : formula = .existingField → r.StoredFits

/-- The arrays that are read at once have the declared shape. -/
structure AsDeclared (r : Recipe α) (formula : Formula) : Prop where
  fields : ∀ term ∈ formula.horizontalTerms, r.FieldFits term
  numbers : ∀ kind, kind ≠ .field → ∀ term ∈ r.termsOf formula kind, ∀ v data, r.Binds term v →
    r.dataset.read v.name = .ok data → data.shape = v.shape
  stored : formula = .existingField → r.StoredFits

/-! ### Reading terms -/

section Terms

variable [Scalar α] {r : Recipe α} {formula : Formula} {term : String} {target : Option String}

omit [Scalar α] in
theorem Ready.exists_variableOf (h : r.Ready formula) {kind : TermKind} (hkind : kind ≠ .field)
    (hterm : term ∈ r.termsOf formula kind) : ∃ v, r.variableOf formula term = .ok v := by
  obtain ⟨v, data, hbinds, -, -⟩ := h.numbers kind hkind term hterm
  exact ⟨v, variableOf_eq_ok.2 hbinds⟩

theorem length_of_levels {xs : List α} (h : r.levels formula term target = .ok xs) :
    xs.length = r.entryCount term := by
  obtain ⟨v, data, hbinds, -, hread, rfl⟩ := levels_eq_ok.1 h
  rw [entryCount_eq hbinds hread, List.length_map, Array.length_toList]

theorem Ready.exists_levels (h : r.Ready formula) {kind : TermKind} (hkind : kind ≠ .field)
    (hterm : term ∈ r.termsOf formula kind) (target : Option String) :
    ∃ xs, r.levels formula term target = .ok xs := by
  obtain ⟨v, data, hbinds, hrank, hread⟩ := h.numbers kind hkind term hterm
  exact ⟨_, levels_eq_ok.2 ⟨v, data, hbinds, hrank, hread, rfl⟩⟩

/-- The numbers by level are read as they come, whatever shape is declared. -/
theorem Ready.checks_levels (h : r.Ready formula) (hterm : term ∈ r.termsOf formula .level)
    (target : Option String) : ChecksShape True (r.levels formula term target) := by
  obtain ⟨xs, hxs⟩ := h.exists_levels (by decide) hterm target
  exact .of_ok hxs

theorem Ready.checks_number (h : r.Ready formula) (hterm : term ∈ r.termsOf formula .number)
    (target : Option String) :
    ChecksShape (r.entryCount term = 1) (r.number formula term target) := by
  obtain ⟨xs, hxs⟩ := h.exists_levels (by decide) hterm target
  obtain ⟨v, hv⟩ := h.exists_variableOf (by decide) hterm
  have hlength : xs.length = r.entryCount term := length_of_levels hxs
  rw [← hlength]
  refine ⟨fun hone => ?_, fun hne => ?_⟩
  · obtain ⟨x, rfl⟩ := List.length_eq_one_iff.1 hone
    exact ⟨x, number_eq_ok.2 hxs⟩
  · refine ⟨v.name, [1], [xs.length], ?_⟩
    unfold number
    rw [hxs, ok_bind]
    split
    · exact absurd rfl hne
    · rw [hv, ok_bind]

omit [Scalar α] in
theorem Ready.checks_sameLevels (h : r.Ready formula)
    (hterm : term ∈ r.termsOf formula .level) {xs ys : List α} {m n : Nat} (hm : xs.length = m)
    (hn : ys.length = n) : ChecksShape (m = n) (r.sameLevels formula term xs ys) := by
  obtain ⟨v, hv⟩ := h.exists_variableOf (by decide) hterm
  have hcheck : r.sameLevels formula term xs ys =
      if m = n then .ok () else .error (.shapeMismatch v.name [m] [n]) := by
    unfold sameLevels
    rw [hv, ok_bind, hm, hn]
  exact .of_ite hcheck

theorem checks_clean (f : HorizontalTerm α) (data : Tensor α) :
    ChecksShape (data.shape = f.shape) (f.clean data) :=
  .of_ite rfl

/-- A term without time steps is compared with the shape that it declares. -/
theorem Ready.checks_horizontal (h : r.Ready formula) (hterm : term ∈ formula.horizontalTerms)
    (target : Option String) : ChecksShape (r.FieldFits term) (r.horizontal formula term target) := by
  obtain ⟨times, rows, columns, hfields⟩ := h.fields
  obtain ⟨v, hbinds, hshape⟩ := hfields term hterm
  refine .bindOk (variableOf_eq_ok.2 hbinds) ?_
  rcases hshape with hshape | ⟨hshape, data, hread⟩
  · refine .bindOk (by rw [HorizontalTerm.declared, hshape]) ((ChecksShape.of_ok rfl).congr ?_)
    refine iff_of_true trivial fun v' data hbinds' hrank => ?_
    rw [hbinds'.unique hbinds, Variable.rank, hshape] at hrank
    cases hrank
  · refine .bindOk (by rw [HorizontalTerm.declared, hshape]) ?_
    refine .bindOk hread (((checks_clean _ data).bind fun cleaned _ => .of_ok rfl).congr ?_)
    rw [and_true]
    constructor
    · intro hdata v' data' hbinds' _ hread'
      cases hbinds'.unique hbinds
      cases hread.symm.trans hread'
      exact hdata.trans hshape.symm
    · intro hfits
      exact (hfits v data hbinds (by rw [Variable.rank, hshape]; rfl) hread).trans hshape

end Terms

/-! ### Making formulas -/

section Makers

variable [Scalar α] {r : Recipe α} {formula : Formula}

omit [Scalar α] in
/-- What fits a formula, from the lists of its terms. -/
theorem fits_iff (r : Recipe α) {formula : Formula} (numbers levels : List String)
    (hnumbers : r.termsOf formula .number = numbers) (hlevels : r.termsOf formula .level = levels)
    (hformula : formula ≠ .existingField) :
    r.Fits formula ↔ (∀ term ∈ formula.horizontalTerms, r.FieldFits term) ∧
      (∀ term ∈ numbers, r.entryCount term = 1) ∧
      levels.Pairwise fun term other => r.entryCount term = r.entryCount other := by
  subst hnumbers hlevels
  constructor
  · intro h
    exact ⟨h.fields, h.numbers, h.levels⟩
  · rintro ⟨hfields, hnumbers, hlevels⟩
    exact ⟨hfields, hnumbers, hlevels, fun h => absurd h hformula⟩

theorem checks_atmosSigma (h : r.Ready .atmosSigma) :
    ChecksShape (r.Fits .atmosSigma) r.atmosSigma := by
  refine ((h.checks_horizontal (.head _) _).bind fun surface _ =>
    (h.checks_levels (.head _) _).bind fun sigma _ =>
      (h.checks_number (.head _) _).bind fun top _ => .of_ok rfl).congr ?_
  rw [r.fits_iff ["ptop"] ["sigma"] rfl rfl (by decide)]
  simp [Formula.horizontalTerms]

omit [Scalar α] in
/-- Which terms are used depends on whether there is a pressure offset by level. -/
theorem termsOf_hybridSigmaPressure (r : Recipe α) :
    r.termsOf .hybridSigmaPressure .number = (if r.terms.contains "ap" then [] else ["p0"]) ∧
    r.termsOf .hybridSigmaPressure .level =
      [if r.terms.contains "ap" then "ap" else "a", "b"] := by
  have hused : Formula.hybridSigmaPressure.usedTerms r.terms =
    if r.terms.contains "ap" then ["ap", "b", "ps"] else ["a", "b", "ps", "p0"] := rfl
  unfold termsOf
  rw [hused]
  split_ifs <;> exact ⟨rfl, rfl⟩

theorem checks_pressureOffset (h : r.Ready .hybridSigmaPressure) (unit : Option String) :
    ChecksShape (∀ term ∈ r.termsOf .hybridSigmaPressure .number, r.entryCount term = 1)
      (r.pressureOffset unit) := by
  obtain ⟨hnumber, hlevel⟩ := r.termsOf_hybridSigmaPressure
  unfold pressureOffset
  split_ifs at hnumber hlevel ⊢ with hap
  · rw [hnumber]
    exact (h.checks_levels (by rw [hlevel]; exact .head _) _).congr (by simp)
  · rw [hnumber]
    exact ((h.checks_number (by rw [hnumber]; exact .head _) _).bind fun reference _ =>
      (h.checks_levels (by rw [hlevel]; exact .head _) _).bind fun share _ => .of_ok rfl).congr
        (by simp)

theorem length_of_pressureOffset {unit : Option String} {offset : List α}
    (h : r.pressureOffset unit = .ok offset) :
    offset.length = r.entryCount (if r.terms.contains "ap" then "ap" else "a") := by
  unfold pressureOffset at h
  split_ifs at h ⊢
  · exact length_of_levels h
  · obtain ⟨reference, -, h⟩ := bind_eq_ok.1 h
    obtain ⟨share, hshare, h⟩ := bind_eq_ok.1 h
    cases h
    rw [List.length_map, length_of_levels hshare]

theorem checks_hybridSigmaPressure (h : r.Ready .hybridSigmaPressure) :
    ChecksShape (r.Fits .hybridSigmaPressure) r.hybridSigmaPressure := by
  obtain ⟨-, hlevel⟩ := r.termsOf_hybridSigmaPressure
  have hshare : "b" ∈ r.termsOf .hybridSigmaPressure .level := by
    rw [hlevel]
    exact .tail _ (.head _)
  refine ((h.checks_horizontal (.head _) _).bind fun surface _ =>
    (h.checks_levels hshare _).bind fun share hread =>
      (checks_pressureOffset h _).bind fun offset hoffset =>
        (h.checks_sameLevels hshare (length_of_pressureOffset hoffset)
          (length_of_levels hread)).bind fun _ _ => .of_ok rfl).congr ?_
  rw [r.fits_iff _ _ rfl hlevel (by decide)]
  simp [Formula.horizontalTerms]

theorem checks_hybridHeight (h : r.Ready .hybridHeight) :
    ChecksShape (r.Fits .hybridHeight) r.hybridHeight := by
  obtain ⟨v, hv⟩ := h.exists_variableOf (by decide)
    (show "a" ∈ r.termsOf .hybridHeight .level from .head _)
  refine (ChecksShape.bindOk hv <| (h.checks_levels (.head _) _).bind fun offset hoffset =>
    (h.checks_levels (.tail _ (.head _)) _).bind fun share hshare =>
      (h.checks_sameLevels (show "b" ∈ r.termsOf .hybridHeight .level from .tail _ (.head _))
        (length_of_levels hoffset) (length_of_levels hshare)).bind fun _ _ =>
        (h.checks_horizontal (.head _) _).bind fun ground _ => .of_ok rfl).congr ?_
  rw [r.fits_iff [] ["a", "b"] rfl rfl (by decide)]
  simp [Formula.horizontalTerms, and_comm]

/-- All horizontal terms that can be read have the grid that they declare. -/
theorem Ready.exists_grid (h : r.Ready formula) : ∃ times rows columns,
    ∀ term ∈ formula.horizontalTerms, ∀ target g, r.horizontal formula term target = .ok g →
      (g.times = none ∨ g.times = some times) ∧ g.rows = rows ∧ g.columns = columns := by
  obtain ⟨times, rows, columns, hfields⟩ := h.fields
  refine ⟨times, rows, columns, fun term hterm target g hread => ?_⟩
  obtain ⟨v, hbinds, hshape⟩ := hfields term hterm
  obtain ⟨v', hbinds', hloaded⟩ := horizontal_eq_ok.1 hread
  cases hbinds'.unique hbinds
  cases hloaded with
  | static hstatic _ _ =>
    rcases hshape with hshape | ⟨hshape, -⟩ <;> rw [hstatic] at hshape <;> cases hshape
    exact ⟨.inl rfl, rfl, rfl⟩
  | timed htimed =>
    rcases hshape with hshape | ⟨hshape, -⟩ <;> rw [htimed] at hshape <;> cases hshape
    exact ⟨.inr rfl, rfl, rfl⟩

omit [Scalar α] in
/-- Two terms share their time steps if both have the same ones or none. -/
theorem exists_commonTimes {f g : HorizontalTerm α} {n : Nat} (hf : f.times = none ∨ f.times = some n)
    (hg : g.times = none ∨ g.times = some n) :
    ∃ times, HorizontalTerm.commonTimes formula [f, g] = .ok times := by
  rcases hf with hf | hf <;> rcases hg with hg | hg <;>
    simp [HorizontalTerm.commonTimes, hf, hg, pure, Except.pure]

/-- A formula of the ocean is made if its column is and both horizontal terms fit. -/
theorem checks_overDepth (h : r.Ready formula) {column : Option String → Except Error (Column α)}
    (hfield : formula.horizontalTerms = ["eta", "depth"]) {P : Prop}
    (hcolumn : ∀ unit, ChecksShape P (column unit)) :
    ChecksShape ((∀ term ∈ formula.horizontalTerms, r.FieldFits term) ∧ P)
      (r.overDepth formula column) := by
  obtain ⟨times, rows, columns, hgrid⟩ := h.exists_grid
  have heta : "eta" ∈ formula.horizontalTerms := by
    rw [hfield]
    exact .head _
  have hdepth : "depth" ∈ formula.horizontalTerms := by
    rw [hfield]
    exact .tail _ (.head _)
  obtain ⟨_, _, _, hfields⟩ := h.fields
  obtain ⟨v, hbinds, -⟩ := hfields "depth" hdepth
  refine (ChecksShape.bindOk (variableOf_eq_ok.2 hbinds) <| (h.checks_horizontal hdepth _).bind fun depth hreadDepth =>
    (h.checks_horizontal heta _).bind fun surface hreadSurface =>
      (hcolumn v.units?).bind fun c _ => ?_).congr
        (show r.FieldFits "depth" ∧ r.FieldFits "eta" ∧ P ∧ True ↔ _ by
          simp [hfield, and_comm, and_left_comm])
  obtain ⟨htimesDepth, hrowsDepth, hcolumnsDepth⟩ := hgrid "depth" hdepth _ _ hreadDepth
  obtain ⟨htimesSurface, hrowsSurface, hcolumnsSurface⟩ := hgrid "eta" heta _ _ hreadSurface
  have hsame : surface.sameShape depth = .ok () :=
    HorizontalTerm.sameShape_eq_ok.2 ⟨hrowsDepth.trans hrowsSurface.symm,
      hcolumnsDepth.trans hcolumnsSurface.symm⟩
  obtain ⟨common, hcommon⟩ : ∃ common, HorizontalTerm.commonTimes formula [surface, depth] = .ok common :=
    exists_commonTimes htimesSurface htimesDepth
  exact .bindOk hsame (.bindOk hcommon (.of_ok rfl))

theorem checks_oceanSigma (h : r.Ready .oceanSigma) :
    ChecksShape (r.Fits .oceanSigma) r.oceanSigma := by
  refine (checks_overDepth h rfl fun _ => (h.checks_levels (.head _) _).map _).congr ?_
  rw [r.fits_iff [] ["sigma"] rfl rfl (by decide)]
  simp

theorem checks_oceanS [Hyperbolic α] (h : r.Ready .oceanS) :
    ChecksShape (r.Fits .oceanS) r.oceanS := by
  refine (checks_overDepth h rfl fun _ => (h.checks_levels (.head _) _).bind fun _ _ =>
    (h.checks_number (.head _) _).bind fun _ _ =>
      (h.checks_number (.tail _ (.head _)) _).bind fun _ _ =>
        (h.checks_number (.tail _ (.tail _ (.head _))) _).bind fun _ _ => .of_ok rfl).congr ?_
  rw [r.fits_iff ["a", "b", "depth_c"] ["s"] rfl rfl (by decide)]
  simp

/-- The curve is read if it has as many numbers as there are levels. -/
theorem checks_readCurve (h : r.Ready formula) (hlevel : r.termsOf formula .level = ["s", "C"])
    (hnumber : r.termsOf formula .number = ["depth_c"]) (unit : Option String) :
    ChecksShape (r.entryCount "s" = r.entryCount "C" ∧ r.entryCount "depth_c" = 1)
      (r.readCurve formula unit) := by
  have hs : "s" ∈ r.termsOf formula .level := by
    rw [hlevel]
    exact .head _
  have hcurve : "C" ∈ r.termsOf formula .level := by
    rw [hlevel]
    exact .tail _ (.head _)
  have hcritical : "depth_c" ∈ r.termsOf formula .number := by
    rw [hnumber]
    exact .head _
  refine ((h.checks_levels hs _).bind fun s hreadS =>
    (h.checks_levels hcurve _).bind fun curve hreadCurve =>
      (h.checks_sameLevels hcurve (length_of_levels hreadS) (length_of_levels hreadCurve)).bind
        fun _ _ => (h.checks_number hcritical _).bind fun critical _ => .of_ok rfl).congr ?_
  simp

theorem checks_oceanSG1 (h : r.Ready .oceanSG1) : ChecksShape (r.Fits .oceanSG1) r.oceanSG1 := by
  refine (checks_overDepth h rfl fun unit => (checks_readCurve h rfl rfl unit).bind
    fun _ _ => .of_ok rfl).congr ?_
  rw [r.fits_iff ["depth_c"] ["s", "C"] rfl rfl (by decide)]
  simp [and_comm]

theorem checks_oceanSG2 (h : r.Ready .oceanSG2) : ChecksShape (r.Fits .oceanSG2) r.oceanSG2 := by
  refine (checks_overDepth h rfl fun unit => (checks_readCurve h rfl rfl unit).bind
    fun _ _ => .of_ok rfl).congr ?_
  rw [r.fits_iff ["depth_c"] ["s", "C"] rfl rfl (by decide)]
  simp [and_comm]

theorem checks_storedClean (f : StoredSource α) (data : Tensor α) :
    ChecksShape (data.shape = f.base.shape.toList) (f.clean data) where
  ok hshape := StoredSource.exists_clean hshape
  error hshape := ⟨_, _, _, if_neg hshape⟩

omit [Scalar α] in
theorem fits_existingField_iff : r.Fits .existingField ↔ r.StoredFits := by
  constructor
  · exact fun h => h.stored rfl
  · refine fun h => ⟨?_, ?_, .nil, fun _ => h⟩ <;> exact fun term hterm => by cases hterm

/-- A stored coordinate without time steps is compared with the shape that it declares. -/
theorem checks_existingField (h : r.Ready .existingField) :
    ChecksShape (r.Fits .existingField) r.existingField := by
  obtain ⟨v, hv, hrank⟩ := h.stored rfl
  refine (ChecksShape.bindOk hv ?_).congr fits_existingField_iff.symm
  rcases hrank with hrank | ⟨hrank, data, hread⟩
  · obtain ⟨times, levels, rows, columns, hshape⟩ := List.length_eq_four.1 hrank
    rw [hshape]
    refine (ChecksShape.of_ok rfl).congr (iff_of_true trivial fun v' _ hv' hrank' => ?_)
    cases hv.symm.trans hv'
    rw [hrank] at hrank'
    cases hrank'
  · obtain ⟨levels, rows, columns, hshape⟩ := List.length_eq_three.1 hrank
    rw [hshape]
    refine .bindOk hread (((checks_storedClean _ data).bind fun cleaned _ => .of_ok rfl).congr ?_)
    rw [and_true]
    constructor
    · intro hdata v' data' hv' _ hread'
      cases hv.symm.trans hv'
      cases hread.symm.trans hread'
      exact hdata.trans hshape.symm
    · intro hfits
      exact (hfits v data hv hrank hread).trans hshape

/-- **Whatever fits is made, and nothing else.** -/
theorem checks_make [Hyperbolic α] (h : r.Ready formula) :
    ChecksShape (r.Fits formula) (r.make formula) := by
  cases formula with
  | atmosSigma => exact (checks_atmosSigma h).map _
  | hybridSigmaPressure => exact (checks_hybridSigmaPressure h).map _
  | hybridHeight => exact (checks_hybridHeight h).map _
  | oceanSigma => exact (checks_oceanSigma h).map _
  | oceanS => exact (checks_oceanS h).map _
  | oceanSG1 => exact (checks_oceanSG1 h).map _
  | oceanSG2 => exact (checks_oceanSG2 h).map _
  | existingField => exact (checks_existingField h).map _

end Makers

/-! ### Evaluating -/

/-- The variable is read at each time step. -/
inductive Varies (r : Recipe α) (formula : Formula) (v : Variable α) : Prop
  | term {term : String} (hterm : term ∈ formula.horizontalTerms) (hbinds : r.Binds term v)
    (hrank : v.rank = 3)
  | stored (hformula : formula = .existingField) (hv : r.storedVariable = .ok v) (hrank : v.rank = 4)

/-- What is read at a time step has the shape that is declared but for the first dimension. -/
def SlicesFit (r : Recipe α) (formula : Formula) (n : Nat) : Prop :=
  ∀ v data, r.Varies formula v → r.dataset.readAt v.name n = .ok data → data.shape = v.shape.tail

section Evaluating

variable [Scalar α] {r : Recipe α} {formula : Formula} {n : Nat}

/-- The part of a term in what is read at a time step. -/
def SliceFits (r : Recipe α) (n : Nat) (term : String) : Prop :=
  ∀ v data, r.Binds term v → v.rank = 3 → r.dataset.readAt v.name n = .ok data →
    data.shape = v.shape.tail

omit [Scalar α] in
theorem slicesFit_iff (hformula : formula ≠ .existingField) :
    r.SlicesFit formula n ↔ ∀ term ∈ formula.horizontalTerms, r.SliceFits n term := by
  constructor
  · intro h term hterm v data hbinds hrank hread
    exact h v data (.term hterm hbinds hrank) hread
  · intro h v data hvaries hread
    cases hvaries with
    | term hterm hbinds hrank => exact h _ hterm v data hbinds hrank hread
    | stored hstored _ _ => exact absurd hstored hformula

/-- A term that varies in time is compared with the shape that it declares, at each time step. -/
theorem checks_load (hreads : ∀ v, r.Varies formula v → ∃ data, r.dataset.readAt v.name n = .ok data)
    {term : String} {target : Option String} {g : HorizontalTerm α}
    (hterm : term ∈ formula.horizontalTerms) (hg : r.horizontal formula term target = .ok g)
    {step : Nat} (hstep : ∀ m, g.times = some m → step = n) :
    ChecksShape (r.SliceFits n term) (g.load r.dataset step) := by
  obtain ⟨v, hbinds, hloaded⟩ := horizontal_eq_ok.1 hg
  cases hloaded with
  | static hshape _ _ =>
    refine (ChecksShape.of_ok (HorizontalTerm.load_static rfl step)).congr ?_
    refine iff_of_true trivial fun v' data hbinds' hrank => ?_
    rw [hbinds'.unique hbinds, Variable.rank, hshape] at hrank
    cases hrank
  | timed hshape =>
    have hrank : v.rank = 3 := by
      rw [Variable.rank, hshape]
      rfl
    obtain rfl : step = n := hstep _ rfl
    obtain ⟨data, hread⟩ := hreads v (.term hterm hbinds hrank)
    rw [HorizontalTerm.load_timed rfl]
    refine .bindOk hread ((checks_clean _ data).congr ?_)
    constructor
    · intro hdata v' data' hbinds' _ hread'
      cases hbinds'.unique hbinds
      cases hread.symm.trans hread'
      rw [hshape]
      exact hdata
    · intro hfits
      have hdata := hfits v data hbinds hrank hread
      rwa [hshape] at hdata

/-- The planes are those of the horizontal terms, one after the other. -/
theorem Makes.checks_planes [Hyperbolic α] {unit : Option String} {f : FormulaSource α}
    (h : r.Makes formula unit f)
    (hreads : ∀ v, r.Varies formula v → ∃ data, r.dataset.readAt v.name n = .ok data)
    {step : Nat} (hstep : f.base.timeStep n = .ok step) :
    ChecksShape (∀ term ∈ formula.horizontalTerms, r.SliceFits n term) (f.planes step) := by
  have hload : ∀ term ∈ formula.horizontalTerms, ∀ g ∈ f.terms,
      r.horizontal formula term unit = .ok g →
        ChecksShape (r.SliceFits n term) (g.load f.base.dataset step) := by
    intro term hterm g hg hread
    rw [h.dataset_eq]
    exact checks_load hreads hterm hread (h.eq_of_timeStep hstep g hg)
  have hloads := forall₂_imp_mem (fun term hterm g hg hread => hload term hterm g hg hread) h.terms
  unfold FormulaSource.terms at hloads
  unfold FormulaSource.planes
  obtain ⟨first, rest, hsurface, hrest, hterms⟩ := List.forall₂_cons_right_iff.1 hloads
  rw [hterms]
  rcases hdepth : f.depth with _ | g <;> rw [hdepth] at hrest
  · obtain rfl := List.forall₂_nil_right_iff.1 hrest
    refine (hsurface.bind fun plane _ => .of_ok rfl).congr ?_
    simp
  · obtain ⟨second, none, hother, hnone, rfl⟩ := List.forall₂_cons_right_iff.1 hrest
    obtain rfl := List.forall₂_nil_right_iff.1 hnone
    refine (hsurface.bind fun plane _ => hother.bind fun other _ => .of_ok rfl).congr ?_
    simp

/-- A stored coordinate that varies in time is compared with the shape that it declares, at each time
step. -/
theorem checks_storedArray {f : StoredSource α} (h : r.existingField = .ok f)
    (hreads : ∀ v, r.Varies .existingField v → ∃ data, r.dataset.readAt v.name n = .ok data)
    (htime : VerticalTransform.TimeAccepted f.base.strictTimeIndex f.base.times n) :
    ChecksShape (r.SlicesFit .existingField n) (f.array n) := by
  obtain ⟨step, hstep, -⟩ := VerticalBase.timeStep_of_accepted htime
  obtain ⟨v, hv, h⟩ := bind_eq_ok.1 h
  split at h
  · rename_i levels rows columns hshape
    obtain ⟨data, -, h⟩ := bind_eq_ok.1 h
    obtain ⟨cleaned, -, h⟩ := bind_eq_ok.1 h
    cases h
    refine .congr (P := True) (.bindOk hstep (.of_ok rfl)) (iff_of_true trivial ?_)
    intro v' data' hvaries
    cases hvaries with
    | term hterm _ _ => cases hterm
    | stored _ hv' hrank =>
      cases hv.symm.trans hv'
      rw [Variable.rank, hshape] at hrank
      cases hrank
  · rename_i times levels rows columns hshape
    cases h
    have hrank : v.rank = 4 := by
      rw [Variable.rank, hshape]
      rfl
    obtain rfl : step = n := VerticalBase.eq_of_timeStep hstep rfl
    obtain ⟨data, hread⟩ := hreads v (.stored rfl hv hrank)
    refine .bindOk hstep (.bindOk hread ((checks_storedClean _ data).congr ?_))
    constructor
    · intro hdata v' data' hvaries hread'
      cases hvaries with
      | term hterm _ _ => cases hterm
      | stored _ hv' _ =>
        cases hv.symm.trans hv'
        cases hread.symm.trans hread'
        rw [hshape]
        exact hdata
    · intro hfits
      have hdata := hfits v data (.stored rfl hv hrank) hread
      rwa [hshape] at hdata
  · cases h

/-- **At each time step, whatever fits is evaluated, and nothing else.** -/
theorem checks_evaluation [Hyperbolic α] {t : VerticalTransform α} (hmake : r.make formula = .ok t)
    (htime : VerticalTransform.TimeAccepted r.settings.strictTimeIndex t.times n)
    (hreads : ∀ v, r.Varies formula v → ∃ data, r.dataset.readAt v.name n = .ok data) :
    ChecksShape (r.SlicesFit formula n) (t.array n) ∧
    ∀ x y, x < t.shape.columns → y < t.shape.rows →
      ChecksShape (r.SlicesFit formula n) (t.profile n x y) := by
  by_cases hformula : formula = .existingField
  · subst hformula
    obtain ⟨f, hf, rfl⟩ := map_eq_ok.1 hmake
    obtain ⟨-, shape, times, unit, hbase⟩ := sound_of_existingField hf
    have hstrict : f.base.strictTimeIndex = r.settings.strictTimeIndex := by
      rw [hbase]
      rfl
    have harray := checks_storedArray hf hreads (hstrict ▸ htime)
    refine ⟨harray, fun x y hx hy => ?_⟩
    refine .bindOk (VerticalBase.checkPoint_inside hx hy) ?_
    exact (harray.bind fun data _ => .of_ok rfl).congr (iff_of_eq (and_true _))
  · obtain ⟨unit, f, rfl, hmakes⟩ := exists_makes hmake hformula
    obtain ⟨times, outUnit, hbase, -⟩ := hmakes.base
    have hstrict : f.base.strictTimeIndex = r.settings.strictTimeIndex := by
      rw [hbase]
      rfl
    obtain ⟨step, hstep, -⟩ := VerticalBase.timeStep_of_accepted (b := f.base) (hstrict ▸ htime)
    have hplanes := (hmakes.checks_planes hreads hstep).congr (slicesFit_iff hformula).symm
    constructor
    · refine .bindOk hstep ?_
      exact (hplanes.bind fun planes _ => .of_ok rfl).congr (iff_of_eq (and_true _))
    · intro x y hx hy
      refine .bindOk (VerticalBase.checkPoint_inside hx hy) (.bindOk hstep ?_)
      exact (hplanes.bind fun planes _ => .of_ok rfl).congr (iff_of_eq (and_true _))

/-- **When arrays that are not as declared are noticed.** A formula is made exactly from arrays that
fit, and fails with a mismatch otherwise. So what is not as declared is noticed if and only if it does not
fit, which depends on the numbers of entries alone where there are no horizontal dimensions. Once it is
made, a formula is evaluated at each time step, also through a window, exactly if what is read then has
the declared shape, and fails with a mismatch otherwise. -/
theorem mismatch_iff [Hyperbolic α] (h : r.Ready formula) :
    ((¬ r.AsDeclared formula → IsMismatch (r.make formula)) ↔
      (r.Fits formula → r.AsDeclared formula)) ∧
    ChecksShape (r.Fits formula) (r.make formula) ∧
    ∀ t, r.make formula = .ok t → ∀ n,
      VerticalTransform.TimeAccepted r.settings.strictTimeIndex t.times n →
      (∀ v, r.Varies formula v → ∃ data, r.dataset.readAt v.name n = .ok data) →
        ChecksShape (r.SlicesFit formula n) (t.array n) ∧
        (∀ x y, x < t.shape.columns → y < t.shape.rows →
          ChecksShape (r.SlicesFit formula n) (t.profile n x y)) ∧
        ∀ (w : Window) (m : Nat), w.innerTime m = .ok n →
          ChecksShape (r.SlicesFit formula n) ((VerticalTransform.view t w).array m) := by
  have hchecks := checks_make h
  refine ⟨⟨fun hnoticed hfits => ?_, fun hdeclared hnot => ?_⟩, hchecks, ?_⟩
  · obtain ⟨t, ht⟩ := hchecks.ok hfits
    by_contra hnot
    obtain ⟨name, expected, found, herror⟩ := hnoticed hnot
    rw [ht] at herror
    cases herror
  · exact hchecks.error fun hfits => hnot (hdeclared hfits)
  · intro t ht n htime hreads
    obtain ⟨harray, hprofile⟩ := checks_evaluation ht htime hreads
    refine ⟨harray, hprofile, fun w m hm => ?_⟩
    exact .bindOk hm (harray.map _)

end Evaluating

section Examples

open VerticalTransform

/-- The air, where the array of a variable is another one. -/
def misread (lib : Library ℚ) (name : String) (data : Tensor ℚ) : Dataset ℚ :=
  lib.toDataset.replacing (Dictionary.empty.insert name (.ok data))

theorem ready_atmosSigma {r : Recipe ℚ} {sigma ptop ps : Variable ℚ} {levels top : Tensor ℚ}
    {times rows columns : Nat} (hsigma : r.Binds "sigma" sigma) (hptop : r.Binds "ptop" ptop)
    (hps : r.Binds "ps" ps) (hrank : sigma.rank ≤ 1 ∧ ptop.rank ≤ 1)
    (hshape : ps.shape = [times, rows, columns]) (hlevels : r.dataset.read sigma.name = .ok levels)
    (htop : r.dataset.read ptop.name = .ok top) : r.Ready .atmosSigma where
  numbers kind hkind term hterm := by
    cases kind with
    | field => exact absurd rfl hkind
    | level =>
      cases List.mem_singleton.1 hterm
      exact ⟨sigma, levels, hsigma, hrank.1, hlevels⟩
    | number =>
      cases List.mem_singleton.1 hterm
      exact ⟨ptop, top, hptop, hrank.2, htop⟩
  fields := by
    refine ⟨times, rows, columns, fun term hterm => ?_⟩
    cases List.mem_singleton.1 hterm
    exact ⟨ps, hps, .inl hshape⟩
  stored h := by cases h

/-- The pressure at the ground, as it is declared. -/
def ground : Variable ℚ := ⟨"ps", ["t", "y", "x"], [2, 1, 1], Dictionary.empty⟩

theorem wideGround_eq : ∃ lib r f, air = .ok lib ∧
    Recipe.of Blueprint.defaultName (misread lib "ps" ⟨[2, 1, 2], #[1000, 990, 980, 970]⟩)
      airPressure.attributes {} = .ok r ∧
    r.atmosSigma = .ok f ∧ f.base.times = some 2 ∧
    r.Binds "sigma" ⟨"sigma", ["z"], [2], Dictionary.empty⟩ ∧
    r.Binds "ptop" ⟨"ptop", [], [], Dictionary.empty⟩ ∧ r.Binds "ps" ground ∧
    r.dataset.read "sigma" = .ok (.ofList [0, 1]) ∧ r.dataset.read "ptop" = .ok (.scalar 10) ∧
    r.dataset.readAt "ps" 0 = .ok ⟨[1, 2], #[1000, 990]⟩ :=
  ⟨_, _, _, rfl, rfl, rfl, rfl, ⟨_, rfl, rfl⟩, ⟨_, rfl, rfl⟩, ⟨_, rfl, rfl⟩, rfl, rfl, rfl⟩

/-- The array of the ground has two columns, where one is declared. The pressure in the layers can be
made, as it reads the ground only later, but not evaluated. -/
theorem mismatch_iff_wideGround :
    ∃ lib r t, air = .ok lib ∧
      Recipe.of Blueprint.defaultName (misread lib "ps" ⟨[2, 1, 2], #[1000, 990, 980, 970]⟩)
        airPressure.attributes {} = .ok r ∧
      @Recipe.make ℚ _ nearZero r .atmosSigma = .ok t ∧ IsMismatch (t.array 0) := by
  obtain ⟨lib, r, f, hlib, hr, hf, htimes, hsigma, hptop, hps, hlevels, htop, hread⟩ := wideGround_eq
  have hready : r.Ready .atmosSigma :=
    ready_atmosSigma hsigma hptop hps ⟨by decide, by decide⟩ rfl hlevels htop
  have hmake : @Recipe.make ℚ _ nearZero r .atmosSigma = .ok (.source f.source) :=
    map_eq_ok.2 ⟨f, hf, rfl⟩
  have htime : TimeAccepted r.settings.strictTimeIndex (source f.source).times 0 := by
    show TimeAccepted _ f.base.times 0
    rw [htimes]
    exact Nat.two_pos
  have hreads : ∀ v, r.Varies .atmosSigma v → ∃ data, r.dataset.readAt v.name 0 = .ok data := by
    intro v hv
    cases hv with
    | term hterm hbinds _ =>
      cases List.mem_singleton.1 hterm
      rw [hbinds.unique hps]
      exact ⟨_, hread⟩
    | stored hformula _ _ => cases hformula
  obtain ⟨-, -, hevaluate⟩ := @mismatch_iff ℚ _ r .atmosSigma nearZero hready
  obtain ⟨harray, -⟩ := hevaluate _ hmake 0 htime hreads
  refine ⟨lib, r, _, hlib, hr, hmake, harray.error fun hfits => ?_⟩
  -- A row has two columns in what is read.
  have hshape := hfits ground _ (.term (.head _) hps rfl) hread
  cases hshape

theorem singleLayer_eq : ∃ lib r f, air = .ok lib ∧
    Recipe.of Blueprint.defaultName (misread lib "sigma" (.ofList [0])) airPressure.attributes {} =
      .ok r ∧
    r.atmosSigma = .ok f ∧ f.base.shape = ⟨1, 1, 1⟩ ∧
    r.Binds "sigma" ⟨"sigma", ["z"], [2], Dictionary.empty⟩ ∧
    r.Binds "ptop" ⟨"ptop", [], [], Dictionary.empty⟩ ∧ r.Binds "ps" ground ∧
    r.dataset.read "sigma" = .ok (.ofList [0]) ∧ r.dataset.read "ptop" = .ok (.scalar 10) :=
  ⟨_, _, _, rfl, rfl, rfl, rfl, ⟨_, rfl, rfl⟩, ⟨_, rfl, rfl⟩, ⟨_, rfl, rfl⟩, rfl, rfl⟩

/-- Two layers are declared, but there is a number for one layer only. This is not noticed. -/
theorem not_mismatch_singleLayer :
    ∃ lib r v data t, air = .ok lib ∧
      Recipe.of Blueprint.defaultName (misread lib "sigma" (.ofList [0])) airPressure.attributes {} =
        .ok r ∧
      r.Ready .atmosSigma ∧ "sigma" ∈ r.termsOf .atmosSigma .level ∧ r.Binds "sigma" v ∧
      r.dataset.read v.name = .ok data ∧ v.shape = [2] ∧ data.shape = [1] ∧
      @Recipe.make ℚ _ nearZero r .atmosSigma = .ok t ∧ t.shape = ⟨1, 1, 1⟩ := by
  obtain ⟨lib, r, f, hlib, hr, hf, hshape, hsigma, hptop, hps, hlevels, htop⟩ := singleLayer_eq
  have hready : r.Ready .atmosSigma :=
    ready_atmosSigma hsigma hptop hps ⟨by decide, by decide⟩ rfl hlevels htop
  have hmake : @Recipe.make ℚ _ nearZero r .atmosSigma = .ok (.source f.source) :=
    map_eq_ok.2 ⟨f, hf, rfl⟩
  exact ⟨lib, r, _, _, _, hlib, hr, hready, .head _, hsigma, hlevels, rfl, rfl, hmake, hshape⟩

end Examples

end Recipe

end Gridded
