import Gridded.Proofs.Vertical.Answering
import Gridded.Proofs.Vertical.Bounds

/-!
# Read errors

A source of arrays may fail to read. To say that transforms hand such an error on as it is, and do not
hide it or make up numbers instead, a source that fails is compared with one in which those reads are
mended: whatever the mended reads answer, the result is the same, unless it is the read error.

* `UpTo`: computations that do the same until the first one fails with a given error, with a rule for
  each way to go on;
* `Dataset.Mends`: a source in which the reads that fail with a given error are mended;
* `Recipe.upTo_make`: makers over the two sources do the same up to the error;
* `VerticalTransform.Mirrors`: transforms that do, with `VerticalTransform.Mirrors.upTo_foldlM` for cuts;
* `VerticalTransform.reading_is_safe`: together with the bounds of all indices.
-/

namespace Gridded

/-! ### Computations up to an error -/

/-- Two computations do the same until the first one fails with `e`: it does so, or both fail with the
same error, or both have results, which are related by `R`. -/
inductive UpTo {α β : Type} (e : Error) (R : α → β → Prop) :
    Except Error α → Except Error β → Prop
  | fails (y : Except Error β) : UpTo e R (.error e) y
  | error (other : Error) : UpTo e R (.error other) (.error other)
  | ok {a : α} {b : β} (h : R a b) : UpTo e R (.ok a) (.ok b)

namespace UpTo

variable {α β γ δ : Type} {e : Error} {R : α → β → Prop} {S : γ → δ → Prop}

theorem eq_iff {x y : Except Error α} : UpTo e Eq x y ↔ x = .error e ∨ y = x := by
  constructor
  · rintro (_ | _ | ⟨rfl⟩)
    · exact .inl rfl
    · exact .inr rfl
    · exact .inr rfl
  · rintro (rfl | rfl)
    · exact .fails y
    · cases y with
      | error other => exact .error other
      | ok a => exact .ok rfl

theorem refl (x : Except Error α) : UpTo e Eq x x := eq_iff.2 (.inr rfl)

theorem bind {x : Except Error α} {y : Except Error β} (h : UpTo e R x y)
    {f : α → Except Error γ} {g : β → Except Error δ} (hfg : ∀ a b, R a b → UpTo e S (f a) (g b)) :
    UpTo e S (x >>= f) (y >>= g) := by
  cases h with
  | fails y => exact .fails _
  | error other => exact .error other
  | ok hab => exact hfg _ _ hab

/-- Go on from the same result. -/
theorem bindEq {x y : Except Error α} (h : UpTo e Eq x y) {f : α → Except Error γ}
    {g : α → Except Error δ} (hfg : ∀ a, UpTo e S (f a) (g a)) : UpTo e S (x >>= f) (y >>= g) :=
  h.bind fun a _ hab => hab ▸ hfg a

theorem map {x : Except Error α} {y : Except Error β} (h : UpTo e R x y) {f : α → γ} {g : β → δ}
    (hfg : ∀ a b, R a b → S (f a) (g b)) : UpTo e S (f <$> x) (g <$> y) := by
  cases h with
  | fails y => exact .fails _
  | error other => exact .error other
  | ok hab => exact .ok (hfg _ _ hab)

theorem mapEq {x y : Except Error α} (h : UpTo e Eq x y) (f : α → γ) :
    UpTo e Eq (f <$> x) (f <$> y) :=
  h.map fun _ _ hab => congrArg f hab

end UpTo

/-- The source `d'` describes its variables as `d` does and answers every read of `d` in the same way,
except that reads which fail with `e` may have any answer. -/
structure Dataset.Mends {α : Type} (d' d : Dataset α) (e : Error) : Prop where
  find? : ∀ name, d'.find? name = d.find? name
  read : ∀ name, d.read name = .error e ∨ d'.read name = d.read name
  readAt : ∀ name time, d.readAt name time = .error e ∨ d'.readAt name time = d.readAt name time

section Terms

variable {α : Type} {d d' : Dataset α} {e : Error}

theorem Dataset.Mends.upTo_read (h : d'.Mends d e) (name : String) :
    UpTo e Eq (d.read name) (d'.read name) :=
  UpTo.eq_iff.2 (h.read name)

theorem Dataset.Mends.upTo_readAt (h : d'.Mends d e) (name : String) (time : Nat) :
    UpTo e Eq (d.readAt name time) (d'.readAt name time) :=
  UpTo.eq_iff.2 (h.readAt name time)

/-! ### Terms -/

/-- The recipe over another source of arrays. -/
def Recipe.readFrom (r : Recipe α) (d : Dataset α) : Recipe α := { r with dataset := d }

variable {r : Recipe α} {formula : Formula} {term : String} {target : Option String}

theorem Recipe.variableOf_readFrom (h : d'.Mends r.dataset e) :
    (r.readFrom d').variableOf formula term = r.variableOf formula term := by
  simp only [variableOf, readFrom, h.find?]

theorem Recipe.upTo_sameLevels (h : d'.Mends r.dataset e) (expected found : List α) :
    UpTo e Eq (r.sameLevels formula term expected found)
      ((r.readFrom d').sameLevels formula term expected found) := by
  unfold sameLevels
  rw [variableOf_readFrom h]
  exact .refl _

variable [Scalar α]

theorem Recipe.upTo_levels (h : d'.Mends r.dataset e) :
    UpTo e Eq (r.levels formula term target) ((r.readFrom d').levels formula term target) := by
  unfold levels
  rw [variableOf_readFrom h]
  refine (UpTo.refl _).bindEq fun v => ?_
  split_ifs
  · exact .refl _
  · exact (h.upTo_read v.name).bindEq fun data => .refl _

theorem Recipe.upTo_number (h : d'.Mends r.dataset e) :
    UpTo e Eq (r.number formula term target) ((r.readFrom d').number formula term target) := by
  unfold number
  rw [variableOf_readFrom h]
  exact (upTo_levels h).bindEq fun xs => .refl _

theorem Recipe.upTo_horizontal (h : d'.Mends r.dataset e) :
    UpTo e Eq (r.horizontal formula term target) ((r.readFrom d').horizontal formula term target) := by
  unfold horizontal
  rw [variableOf_readFrom h]
  refine (UpTo.refl _).bindEq fun v => ?_
  refine (UpTo.refl _).bindEq fun f => ?_
  cases f.times with
  | some n => exact .refl _
  | none => exact (h.upTo_read v.name).bindEq fun data => .refl _

theorem HorizontalTerm.upTo_load (h : d'.Mends d e) (f : HorizontalTerm α) (time : Nat) :
    UpTo e Eq (f.load d time) (f.load d' time) := by
  unfold load
  cases f.data with
  | some data => exact .refl _
  | none => exact (h.upTo_readAt f.name time).bindEq fun data => .refl _

/-! ### Makers -/

/-- The same formula over another source of arrays. -/
def FormulaSource.readFrom (f : FormulaSource α) (d : Dataset α) : FormulaSource α :=
  { f with base := { f.base with dataset := d } }

/-- The same stored coordinate of another source of arrays. -/
def StoredSource.readFrom (f : StoredSource α) (d : Dataset α) : StoredSource α :=
  { f with base := { f.base with dataset := d } }

namespace Recipe

/-- The formula reads the source of the recipe, and the other one is the same over `d'`. -/
def SameFormula (r : Recipe α) (d' : Dataset α) (f f' : FormulaSource α) : Prop :=
  f.base.dataset = r.dataset ∧ f' = f.readFrom d'

theorem upTo_atmosSigma (h : d'.Mends r.dataset e) :
    UpTo e (r.SameFormula d') r.atmosSigma (r.readFrom d').atmosSigma :=
  (upTo_horizontal h).bindEq fun _ => (upTo_levels h).bindEq fun _ => (upTo_number h).bindEq fun _ =>
    .ok ⟨rfl, rfl⟩

theorem upTo_pressureOffset (h : d'.Mends r.dataset e) (unit : Option String) :
    UpTo e Eq (r.pressureOffset unit) ((r.readFrom d').pressureOffset unit) := by
  unfold pressureOffset
  show UpTo e Eq (if r.terms.contains "ap" then _ else _) (if r.terms.contains "ap" then _ else _)
  split_ifs
  · exact upTo_levels h
  · exact (upTo_number h).bindEq fun reference => (upTo_levels h).bindEq fun share => .refl _

theorem upTo_hybridSigmaPressure (h : d'.Mends r.dataset e) :
    UpTo e (r.SameFormula d') r.hybridSigmaPressure (r.readFrom d').hybridSigmaPressure :=
  (upTo_horizontal h).bindEq fun _ => (upTo_levels h).bindEq fun _ =>
    (upTo_pressureOffset h _).bindEq fun _ => (upTo_sameLevels h _ _).bindEq fun _ =>
      .ok ⟨rfl, rfl⟩

theorem upTo_hybridHeight (h : d'.Mends r.dataset e) :
    UpTo e (r.SameFormula d') r.hybridHeight (r.readFrom d').hybridHeight := by
  unfold hybridHeight
  rw [variableOf_readFrom h]
  exact (UpTo.refl _).bindEq fun _ => (upTo_levels h).bindEq fun _ => (upTo_levels h).bindEq fun _ =>
    (upTo_sameLevels h _ _).bindEq fun _ => (upTo_horizontal h).bindEq fun _ =>
      .ok ⟨rfl, rfl⟩

/-- A formula of the ocean does the same up to the error if its column does. -/
theorem upTo_overDepth (h : d'.Mends r.dataset e)
    {column column' : Option String → Except Error (Column α)}
    (hcolumn : ∀ unit, UpTo e Eq (column unit) (column' unit)) :
    UpTo e (r.SameFormula d') (r.overDepth formula column)
      ((r.readFrom d').overDepth formula column') := by
  unfold overDepth
  rw [variableOf_readFrom h]
  exact (UpTo.refl _).bindEq fun v => (upTo_horizontal h).bindEq fun depth =>
    (upTo_horizontal h).bindEq fun surface => (hcolumn v.units?).bindEq fun c =>
      (UpTo.refl _).bindEq fun _ => (UpTo.refl _).bindEq fun times => .ok ⟨rfl, rfl⟩

theorem upTo_readCurve (h : d'.Mends r.dataset e) (unit : Option String) :
    UpTo e Eq (r.readCurve formula unit) ((r.readFrom d').readCurve formula unit) :=
  (upTo_levels h).bindEq fun _ => (upTo_levels h).bindEq fun _ =>
    (upTo_sameLevels h _ _).bindEq fun _ => (upTo_number h).bindEq fun _ => .refl _

theorem upTo_oceanSigma (h : d'.Mends r.dataset e) :
    UpTo e (r.SameFormula d') r.oceanSigma (r.readFrom d').oceanSigma :=
  upTo_overDepth h fun _ => (upTo_levels h).mapEq _

theorem upTo_oceanS [Hyperbolic α] (h : d'.Mends r.dataset e) :
    UpTo e (r.SameFormula d') r.oceanS (r.readFrom d').oceanS :=
  upTo_overDepth h fun _ => (upTo_levels h).bindEq fun _ => (upTo_number h).bindEq fun _ =>
    (upTo_number h).bindEq fun _ => (upTo_number h).bindEq fun _ => .refl _

theorem upTo_oceanSG1 (h : d'.Mends r.dataset e) :
    UpTo e (r.SameFormula d') r.oceanSG1 (r.readFrom d').oceanSG1 :=
  upTo_overDepth h fun unit => (upTo_readCurve h unit).bindEq fun _ => .refl _

theorem upTo_oceanSG2 (h : d'.Mends r.dataset e) :
    UpTo e (r.SameFormula d') r.oceanSG2 (r.readFrom d').oceanSG2 :=
  upTo_overDepth h fun unit => (upTo_readCurve h unit).bindEq fun _ => .refl _

omit [Scalar α] in
theorem storedVariable_readFrom (h : d'.Mends r.dataset e) :
    (r.readFrom d').storedVariable = r.storedVariable := by
  simp only [storedVariable, readFrom, h.find?]

theorem upTo_existingField (h : d'.Mends r.dataset e) :
    UpTo e (fun f f' => f.base.dataset = r.dataset ∧ f' = f.readFrom d') r.existingField
      (r.readFrom d').existingField := by
  unfold existingField
  rw [storedVariable_readFrom h]
  refine (UpTo.refl _).bindEq fun v => ?_
  dsimp only
  split
  · exact (h.upTo_read v.name).bindEq fun data => (UpTo.refl _).bindEq fun cleaned => .ok ⟨rfl, rfl⟩
  · exact .ok ⟨rfl, rfl⟩
  · exact .error _

end Recipe

end Terms

/-! ### Sources -/

section Sources

variable {α : Type} [Scalar α] {d' : Dataset α} {e : Error}

namespace FormulaSource

variable {f : FormulaSource α}

theorem upTo_planes (h : d'.Mends f.base.dataset e) (step : Nat) :
    UpTo e Eq (f.planes step) ((f.readFrom d').planes step) := by
  have hdepth : (f.readFrom d').depth = f.depth := rfl
  unfold planes
  rw [hdepth]
  refine (HorizontalTerm.upTo_load h f.surface step).bindEq fun surface => ?_
  cases f.depth with
  | none => exact .refl _
  | some depth => exact (HorizontalTerm.upTo_load h depth step).bindEq fun _ => .refl _

theorem upTo_array (h : d'.Mends f.base.dataset e) (time : Nat) :
    UpTo e Eq (f.array time) ((f.readFrom d').array time) :=
  (UpTo.refl (f.base.timeStep time)).bindEq fun step => (upTo_planes h step).bindEq fun _ => .refl _

theorem upTo_profile (h : d'.Mends f.base.dataset e) (time x y : Nat) :
    UpTo e Eq (f.profile time x y) ((f.readFrom d').profile time x y) :=
  (UpTo.refl (f.base.checkPoint x y)).bindEq fun _ =>
    (UpTo.refl (f.base.timeStep time)).bindEq fun step =>
      (upTo_planes h step).bindEq fun _ => .refl _

end FormulaSource

namespace StoredSource

variable {f : StoredSource α}

theorem upTo_array (h : d'.Mends f.base.dataset e) (time : Nat) :
    UpTo e Eq (f.array time) ((f.readFrom d').array time) := by
  have hdata : (f.readFrom d').data = f.data := rfl
  unfold array
  rw [hdata]
  refine (UpTo.refl (f.base.timeStep time)).bindEq fun step => ?_
  cases f.data with
  | some data => exact .refl _
  | none => exact (h.upTo_readAt f.var.name step).bindEq fun data => .refl (f.clean data)

theorem upTo_profile (h : d'.Mends f.base.dataset e) (time x y : Nat) :
    UpTo e Eq (f.profile time x y) ((f.readFrom d').profile time x y) :=
  (UpTo.refl (f.base.checkPoint x y)).bindEq fun _ => (upTo_array h time).bindEq fun _ => .refl _

end StoredSource

end Sources

/-! ### Transforms -/

namespace VerticalTransform

variable {α : Type} [Scalar α] {e : Error}

/-- The same windows on sources that do the same up to the error, on the same grid. -/
inductive Mirrors (e : Error) : VerticalTransform α → VerticalTransform α → Prop
  | source {s s' : VerticalSource α} (hshape : s'.shape = s.shape) (htimes : s'.times = s.times)
    (harray : ∀ time, UpTo e Eq (s.array time) (s'.array time))
    (hprofile : ∀ time x y, UpTo e Eq (s.profile time x y) (s'.profile time x y)) :
    Mirrors e (.source s) (.source s')
  | view {inner inner' : VerticalTransform α} (h : Mirrors e inner inner') (w : Window) :
    Mirrors e (.view inner w) (.view inner' w)

namespace Mirrors

variable {t t' : VerticalTransform α}

omit [Scalar α] in
theorem shape_eq (h : Mirrors e t t') : t'.shape = t.shape := by
  cases h with
  | source hshape _ _ _ => exact hshape
  | view _ _ => rfl

omit [Scalar α] in
theorem times_eq (h : Mirrors e t t') : t'.times = t.times := by
  induction h with
  | source _ htimes _ _ => exact htimes
  | view _ w ih => rw [times, times, ih]

theorem upTo_array (h : Mirrors e t t') (time : Nat) :
    UpTo e Eq (t.array time) (t'.array time) := by
  induction h generalizing time with
  | source _ _ harray _ => exact harray time
  | view _ w ih => exact (UpTo.refl _).bindEq fun n => (ih n).mapEq _

theorem upTo_profile (h : Mirrors e t t') (time x y : Nat) :
    UpTo e Eq (t.profile time x y) (t'.profile time x y) := by
  induction h generalizing time x y with
  | source _ _ _ hprofile => exact hprofile time x y
  | view _ w ih =>
    exact (UpTo.refl _).bindEq fun i => (UpTo.refl _).bindEq fun j => (UpTo.refl _).bindEq fun n =>
      (ih n i j).mapEq _

omit [Scalar α] in
/-- Cutting reads nothing, so it gives mirrors again or fails in both. -/
theorem upTo_subset (h : Mirrors e t t') (cut : Cut) :
    UpTo e (Mirrors e) (t.subset cut) (t'.subset cut) := by
  have hwindow : ∀ {t t' : VerticalTransform α}, Mirrors e t t' → ∀ cut,
      UpTo e (Mirrors e) (t.window cut) (t'.window cut) := by
    intro t t' h cut
    rw [window, window, h.shape_eq, h.times_eq]
    exact (UpTo.refl _).map fun w _ hw => hw ▸ .view h w
  cases h with
  | source hshape htimes harray hprofile => exact hwindow (.source hshape htimes harray hprofile) cut
  | view hinner w => exact (UpTo.refl _).bindEq fun c => hwindow hinner c

omit [Scalar α] in
theorem upTo_foldlM (h : Mirrors e t t') (cuts : List Cut) :
    UpTo e (Mirrors e) (cuts.foldlM subset t) (cuts.foldlM subset t') := by
  induction cuts generalizing t t' with
  | nil => exact .ok h
  | cons cut cuts ih =>
    rw [List.foldlM_cons, List.foldlM_cons]
    exact (h.upTo_subset cut).bind fun _ _ h => ih h

end Mirrors

end VerticalTransform

section Making

variable {α : Type} [Scalar α] [Hyperbolic α] {r : Recipe α} {d' : Dataset α} {e : Error}

open VerticalTransform

/-- Every maker does the same over the mended source, up to the error. -/
theorem Recipe.upTo_make (h : d'.Mends r.dataset e) (formula : Formula) :
    UpTo e (Mirrors e) (r.make formula) ((r.readFrom d').make formula) := by
  have hformula : ∀ {x y : Except Error (FormulaSource α)}, UpTo e (r.SameFormula d') x y →
      UpTo e (Mirrors e) ((VerticalTransform.source ·.source) <$> x)
        ((VerticalTransform.source ·.source) <$> y) := by
    intro x y hxy
    refine hxy.map ?_
    rintro f _ ⟨hdataset, rfl⟩
    have h : d'.Mends f.base.dataset e := hdataset ▸ h
    exact .source rfl rfl (FormulaSource.upTo_array h) (FormulaSource.upTo_profile h)
  cases formula with
  | atmosSigma => exact hformula (upTo_atmosSigma h)
  | hybridSigmaPressure => exact hformula (upTo_hybridSigmaPressure h)
  | hybridHeight => exact hformula (upTo_hybridHeight h)
  | oceanSigma => exact hformula (upTo_oceanSigma h)
  | oceanS => exact hformula (upTo_oceanS h)
  | oceanSG1 => exact hformula (upTo_oceanSG1 h)
  | oceanSG2 => exact hformula (upTo_oceanSG2 h)
  | existingField =>
    refine (upTo_existingField h).map ?_
    rintro f _ ⟨hdataset, rfl⟩
    have h : d'.Mends f.base.dataset e := hdataset ▸ h
    exact .source rfl rfl (StoredSource.upTo_array h) (StoredSource.upTo_profile h)

theorem Catalog.upTo_make (h : d'.Mends r.dataset e) {c : Catalog α} (hc : c.IsBuiltIn) :
    UpTo e (Mirrors e) (c.make r) (c.make (r.readFrom d')) := by
  have hkey : (r.readFrom d').key? = r.key? := rfl
  unfold Catalog.make
  rw [hkey]
  cases r.key? with
  | none => exact .error _
  | some key =>
    dsimp only
    cases hmaker : c.maker? key with
    | none => exact .error _
    | some maker =>
      obtain ⟨formula, rfl⟩ := hc _ _ hmaker
      exact Recipe.upTo_make h formula

end Making

/-! ### Reading is safe -/

namespace VerticalTransform

variable {α : Type} [Scalar α] [Hyperbolic α]

/-- The transform that the standard catalog makes, cut. -/
def ofCuts (r : Recipe α) (cuts : List Cut) : Except Error (VerticalTransform α) := do
  cuts.foldlM subset (← Catalog.standard.make r)

theorem upTo_ofCuts {r : Recipe α} {d' : Dataset α} {e : Error} (h : d'.Mends r.dataset e)
    (cuts : List Cut) : UpTo e (Mirrors e) (ofCuts r cuts) (ofCuts (r.readFrom d') cuts) :=
  (Catalog.upTo_make h Catalog.isBuiltIn_standard).bind fun _ _ h => h.upTo_foldlM cuts

/-- **Reading is safe.** Make a transform over any source of full arrays and cut it in any way. However
little the arrays fit what the source says of them, every index into them and into the numbers by level
is there; an array has the extent of the grid, and a column an entry for each level. A read error is
handed on as it is: if the reads that fail with it are mended, whatever they answer then, making,
cutting and evaluating give what they gave before, where this is not the read error itself. -/
theorem reading_is_safe {r : Recipe α} (hfull : r.dataset.Full) (cuts : List Cut) :
    (∀ t, ofCuts r cuts = .ok t → ∃ c : Coordinates α, t.origin = c.source ∧
      (∀ time, t.array? c time = some (t.array time)) ∧
      (∀ time x y, t.profile? c time x y = some (t.profile time x y)) ∧
      (∀ time a, t.array time = .ok a → a.shape = t.shape.toList ∧ a.IsFull) ∧
      ∀ time x y column, t.profile time x y = .ok column → column.length = t.shape.levels) ∧
    ∀ e d', d'.Mends r.dataset e →
      (∀ other, ofCuts r cuts = .error other →
        other = e ∨ ofCuts (r.readFrom d') cuts = .error other) ∧
      ∀ t, ofCuts r cuts = .ok t → ∃ t', ofCuts (r.readFrom d') cuts = .ok t' ∧
        (∀ time, t.array time = .error e ∨ t'.array time = t.array time) ∧
        ∀ time x y, t.profile time x y = .error e ∨ t'.profile time x y = t.profile time x y := by
  constructor
  · intro t ht
    obtain ⟨t₀, hmake, hrun⟩ := bind_eq_ok.1 ht
    obtain ⟨c, hmade, horigin, hsound, hdataset, -⟩ := exists_coordinates_of_foldlM hmake hrun
    have hbounded : t.Bounded c := bounded_of_made hmade horigin hsound hfull hdataset
    have hcoherent : t.Coherent := coherent_of_made hmade (horigin ▸ c.coherent hsound)
    exact ⟨c, horigin, hbounded.array, hbounded.profile,
      fun time a ha => ⟨hcoherent.shape ha, hbounded.isFull ha⟩,
      fun time x y column hcolumn => hcoherent.length_eq hcolumn⟩
  · intro e d' hmends
    -- What is made over the mended source mirrors what is made here, unless that is the read error.
    have h := upTo_ofCuts hmends cuts
    generalize ofCuts (r.readFrom d') cuts = mended at h
    constructor
    · intro other hother
      rw [hother] at h
      cases h with
      | fails => exact .inl rfl
      | error => exact .inr rfl
    · intro t ht
      rw [ht] at h
      cases h with
      | ok hmirrors =>
        exact ⟨_, rfl, fun time => UpTo.eq_iff.1 (hmirrors.upTo_array time),
          fun time x y => UpTo.eq_iff.1 (hmirrors.upTo_profile time x y)⟩

/-- The air, where the pressure at the ground cannot be read. -/
def unreadableGround (lib : Library ℚ) : Dataset ℚ :=
  lib.toDataset.replacing (Dictionary.empty.insert "ps" (.error (.read "ps")))

theorem find?_unreadable (name : String) :
    (Dictionary.empty.insert "ps" (.error (.read "ps") : Except Error (Tensor ℚ))).find? name =
      if name = "ps" then some (.error (.read "ps")) else none := by
  rw [Dictionary.find?_insert, Dictionary.find?_empty]

/-- The air itself mends it. -/
theorem mends_unreadableGround (lib : Library ℚ) :
    lib.toDataset.Mends (unreadableGround lib) (.read "ps") := by
  have hread : ∀ name, (unreadableGround lib).read name = .error (.read "ps") ∨
      lib.toDataset.read name = (unreadableGround lib).read name := by
    intro name
    show ((Dictionary.find? _ name).getD _ = _) ∨ _ = (Dictionary.find? _ name).getD _
    rw [find?_unreadable]
    split_ifs
    · exact .inl rfl
    · exact .inr rfl
  refine ⟨fun _ => rfl, hread, fun name time => ?_⟩
  show (unreadableGround lib).read name >>= _ = _ ∨
    lib.read name >>= _ = (unreadableGround lib).read name >>= _
  rcases hread name with h | h
  · rw [h]
    exact .inl rfl
  · rw [← h]
    exact .inr rfl

theorem full_unreadableGround {lib : Library ℚ} (h : lib.Built) : (unreadableGround lib).Full := by
  refine Dataset.full_ofReads fun {name data} hread => ?_
  rw [find?_unreadable] at hread
  split_ifs at hread
  · cases hread
  · exact h.full.read hread

/-- The pressure in the layers can be made, as it reads the ground only later. -/
theorem unreadableGround_eq : ∃ lib r f, air = .ok lib ∧
    Recipe.of Blueprint.defaultName (unreadableGround lib) airPressure.attributes {} = .ok r ∧
    r.key? = some Formula.atmosSigma.name ∧ r.atmosSigma = .ok f ∧
    ∃ t, subset (.source f.source) { z := some (.single 1) } = .ok t ∧
      t.array 0 = .error (.read "ps") :=
  ⟨_, _, _, rfl, rfl, rfl, rfl, _, rfl, rfl⟩

/-- Where the pressure at the ground cannot be read, the upper layer fails with that read error. -/
theorem reading_is_safe_unreadableGround :
    ∃ lib r t t', air = .ok lib ∧ r.dataset = unreadableGround lib ∧
      @ofCuts ℚ _ nearZero r [{ z := some (.single 1) }] = .ok t ∧
      @ofCuts ℚ _ nearZero (r.readFrom lib.toDataset) [{ z := some (.single 1) }] = .ok t' ∧
      t.array 0 = .error (.read "ps") ∧
      (∀ time, t.array time = .error (.read "ps") ∨ t'.array time = t.array time) ∧
      ∀ time x y column, t.profile time x y = .ok column → column.length = t.shape.levels := by
  obtain ⟨lib, r, f, hlib, hr, hkey, hf, t, hcut, harray⟩ := unreadableGround_eq
  have hdataset : r.dataset = unreadableGround lib := by
    cases hr
    rfl
  have hmake : (@Catalog.standard ℚ _ nearZero).make r = .ok (.source f.source) :=
    @Catalog.make_standard ℚ _ nearZero _ .atmosSigma _ hkey (map_eq_ok.2 ⟨f, hf, rfl⟩)
  have hrun : @ofCuts ℚ _ nearZero r [{ z := some (.single 1) }] = .ok t := by
    refine bind_eq_ok.2 ⟨_, hmake, ?_⟩
    rw [List.foldlM_cons, hcut]
    rfl
  have hfull : r.dataset.Full := hdataset ▸ full_unreadableGround (built_of_air hlib)
  have hmends : lib.toDataset.Mends r.dataset (.read "ps") := hdataset ▸ mends_unreadableGround lib
  obtain ⟨hsafe, herrors⟩ := @reading_is_safe ℚ _ nearZero r hfull [{ z := some (.single 1) }]
  obtain ⟨-, -, -, -, -, hlength⟩ := hsafe t hrun
  obtain ⟨t', hrun', harrays, -⟩ := (herrors _ _ hmends).2 t hrun
  exact ⟨lib, r, t, t', hlib, hdataset, hrun, hrun', harray, harrays, hlength⟩

end VerticalTransform

end Gridded
