import Gridded.Proofs.Vertical.Profiles

/-!
# When a transform answers

A transform that is made from a library has checked all that its formula needs. What is left to fail is
the time index: it is refused if there is no such time step, and otherwise there is an array.

* `VerticalTransform.TimeAccepted`, `VerticalTransform.Accepts`: the time indices that are not refused;
* `VerticalTransform.Answers`: a transform that refuses these and answers all others, with
  `VerticalTransform.Answers.view` for a window on it;
* `FormulaSource.Sound.answers`, `StoredSource.Sound.answers`: sources that are made from a library;
* `VerticalTransform.array_fails_in_time_only`: all together.
-/

namespace Gridded

/-! ### Time indices -/

namespace VerticalTransform

variable {α : Type}

/-- A time index is accepted if there is such a time step. Without time steps every index is, unless the
settings are strict. -/
def TimeAccepted (strict : Bool) (times : Option Nat) (n : Nat) : Prop :=
  match times with
  | some m => n < m
  | none => strict = true → n = 0

/-- The time indices that a transform does not refuse. -/
def Accepts (t : VerticalTransform α) (settings : Settings) (n : Nat) : Prop :=
  (t.isTimeDependent = true ∧ ∃ m, t.times = some m ∧ n < m) ∨
    (t.isTimeDependent = false ∧ (settings.strictTimeIndex = false ∨ n = 0))

theorem Made.accepts_iff {t : VerticalTransform α} (ht : t.Made) (settings : Settings) (n : Nat) :
    t.Accepts settings n ↔ TimeAccepted settings.strictTimeIndex t.times n := by
  rw [Accepts, ht.isTimeDependent_eq]
  cases t.times <;> cases settings.strictTimeIndex <;> simp [TimeAccepted]

end VerticalTransform

open VerticalTransform

namespace VerticalBase

variable {α : Type} {b : VerticalBase α} {n : Nat}

/-- An accepted index is that of the time step that is read, or stands for the only one. -/
theorem timeStep_of_accepted (h : TimeAccepted b.strictTimeIndex b.times n) :
    ∃ step, b.timeStep n = .ok step ∧ (∀ m, b.times = some m → step < m) ∧
      (b.times = none → step = 0) := by
  unfold timeStep
  rcases htimes : b.times with _ | m <;> rw [htimes] at h
  · refine ⟨0, if_neg fun hrefuse => hrefuse.2 (h hrefuse.1), ?_⟩
    simp
  · have hlt : n < m := h
    refine ⟨n, if_neg (Nat.not_le.2 hlt), ?_⟩
    simpa using hlt

theorem timeStep_of_not_accepted (h : ¬ TimeAccepted b.strictTimeIndex b.times n) :
    b.timeStep n = .error (.invalidTimeIndex n (b.times.getD 1)) := by
  unfold timeStep
  rcases htimes : b.times with _ | m <;> rw [htimes] at h
  · simp only [TimeAccepted, Classical.not_imp] at h
    exact if_pos h
  · exact if_pos (Nat.not_lt.1 h)

/-- The time step that is read for an index is that index, if the coordinate varies in time. -/
theorem eq_of_timeStep {step m : Nat} (h : b.timeStep n = .ok step) (hm : b.times = some m) :
    step = n := by
  unfold timeStep at h
  rw [hm] at h
  dsimp only at h
  split_ifs at h
  cases h
  rfl

end VerticalBase

/-- A horizontal term that varies in time is read at the time step itself. -/
theorem Recipe.Makes.eq_of_timeStep {α : Type} [Scalar α] [Hyperbolic α] {r : Recipe α}
    {formula : Formula} {unit : Option String} {f : FormulaSource α}
    (h : r.Makes formula unit f) {n step : Nat} (hstep : f.base.timeStep n = .ok step) :
    ∀ g ∈ f.terms, ∀ m, g.times = some m → step = n := by
  obtain ⟨times, outUnit, hbase, htimes⟩ := h.base
  intro g hg m hm
  refine VerticalBase.eq_of_timeStep (m := m) hstep ?_
  rw [hbase]
  exact htimes g hg m hm

/-! ### Transforms that answer -/

namespace VerticalTransform

variable {α : Type} [Scalar α]

/-- The transform answers a full array at every accepted time index and refuses every other one. Without
time steps it answers the same array each time. -/
structure Answers (strict : Bool) (t : VerticalTransform α) : Prop where
  array : ∀ n, TimeAccepted strict t.times n →
    ∃ a, t.array n = .ok a ∧ a.shape = t.shape.toList ∧ a.IsFull
  refuses : ∀ n, ¬ TimeAccepted strict t.times n →
    t.array n = .error (.invalidTimeIndex n (t.times.getD 1))
  static : t.times = none → ∀ m n, TimeAccepted strict t.times m → TimeAccepted strict t.times n →
    t.array m = t.array n

variable {strict : Bool} {inner : VerticalTransform α} {w : Window}

theorem array_view (n : Nat) :
    (view inner w).array n = w.innerTime n >>= fun m => w.pick <$> inner.array m := rfl

/-- A window on a transform that answers does so for the times that are seen. -/
theorem Answers.view (h : inner.Answers strict) (hfits : w.Fits inner.shape inner.times) :
    (view inner w).Answers strict := by
  have hpick : ∀ {n}, TimeAccepted strict inner.times n → ∃ a, w.pick <$> inner.array n = .ok a ∧
      a.shape = w.shape.toList ∧ a.IsFull := by
    intro n hn
    obtain ⟨a, ha, -⟩ := h.array n hn
    exact ⟨w.pick a, by rw [ha]; rfl, rfl, Tensor.isFull_generate3 _ _ _ _⟩
  rcases hw : w.time with _ | s
  · -- Time is not restricted, so it is the inner transform that accepts or refuses.
    have htimes : (VerticalTransform.view inner w).times = inner.times := by
      rw [times_view, Window.seenTimes_open hw]
    have harray : ∀ n, (VerticalTransform.view inner w).array n = w.pick <$> inner.array n := by
      intro n
      rw [array_view, Window.innerTime_open hw, ok_bind]
    refine ⟨?_, ?_, ?_⟩
    · intro n hn
      rw [htimes] at hn
      rw [harray]
      exact hpick hn
    · intro n hn
      rw [htimes] at hn ⊢
      rw [harray, h.refuses n hn, map_error]
    · intro hnone m n hm hn
      rw [htimes] at hnone hm hn
      rw [harray, harray, h.static hnone m n hm hn]
  · obtain ⟨k, hk, hbelow⟩ := hfits.time s hw
    have htimes : (VerticalTransform.view inner w).times = some s.len := by
      rw [times_view, Window.seenTimes, hw]
    refine ⟨?_, ?_, ?_⟩
    · intro n hn
      rw [htimes] at hn
      have hinner : TimeAccepted strict inner.times (s.index n) := by
        rw [hk]
        exact hbelow n hn
      rw [array_view, Window.innerTime_slice hw, if_pos (show n < s.len from hn), ok_bind]
      exact hpick hinner
    · intro n hn
      rw [htimes] at hn ⊢
      rw [array_view, Window.innerTime_slice hw, if_neg (show ¬ n < s.len from hn), error_bind]
      rfl
    · intro hnone
      rw [htimes] at hnone
      cases hnone

theorem answers_of_made {t : VerticalTransform α} (ht : t.Made)
    (h : (source t.origin).Answers strict) : t.Answers strict := by
  induction t with
  | source s => exact h
  | view inner w ih => exact (ih ht.fits.1 h).view ht.fits.2

/-- A source answers if it does so for every time step, and reads the base for the time step first. -/
theorem answers_of_base {s : VerticalSource α} {b : VerticalBase α}
    {f : Nat → Except Error (Tensor α)} (htimes : s.times = b.times)
    (harray : ∀ n, s.array n = b.timeStep n >>= f)
    (hstep : ∀ step, (∀ m, b.times = some m → step < m) →
      ∃ a, f step = .ok a ∧ a.shape = s.shape.toList ∧ a.IsFull) :
    (source s).Answers b.strictTimeIndex := by
  have htimes : (source s).times = b.times := htimes
  have harray : ∀ n, (source s).array n = b.timeStep n >>= f := harray
  constructor <;> rw [htimes]
  · intro n hn
    obtain ⟨step, hread, hlt, -⟩ := VerticalBase.timeStep_of_accepted hn
    obtain ⟨a, ha, hshape⟩ := hstep step hlt
    exact ⟨a, by rw [harray, hread, ok_bind, ha], hshape⟩
  · intro n hn
    rw [harray, VerticalBase.timeStep_of_not_accepted hn, error_bind]
  · intro hnone m n hm hn
    obtain ⟨step, hread, -, hzero⟩ := VerticalBase.timeStep_of_accepted hm
    obtain ⟨step', hread', -, hzero'⟩ := VerticalBase.timeStep_of_accepted hn
    rw [harray, harray, hread, hread', hzero hnone, hzero' hnone]

end VerticalTransform

/-! ### Sources that are made from a library -/

section Sources

variable {α : Type} [Scalar α] {lib : Library α}

/-- Every time step that a variable declares can be read and cleaned. -/
theorem HorizontalTerm.Loaded.exists_load {v : Variable α} {factor : α} {f : HorizontalTerm α}
    (h : f.Loaded lib.toDataset v factor) (hlib : lib.Built) {name : String}
    (hfind : lib.toDataset.find? name = some v) {step : Nat}
    (hstep : ∀ n, f.times = some n → step < n) : ∃ a, f.load lib.toDataset step = .ok a := by
  cases h with
  | static _ _ _ => exact ⟨_, load_static rfl step⟩
  | timed hshape =>
    obtain ⟨part, hread, hpart⟩ := hlib.exists_readAt hfind hshape (hstep _ rfl)
    rw [load_timed rfl]
    exact ⟨_, bind_eq_ok.2 ⟨part, hread, clean_eq_ok.2 ⟨hpart, rfl⟩⟩⟩

/-- The planes can be read if each horizontal term can. -/
theorem FormulaSource.exists_planes {f : FormulaSource α} {step : Nat}
    (h : ∀ g ∈ f.terms, ∃ a, g.load f.base.dataset step = .ok a) :
    ∃ planes, f.planes step = .ok planes := by
  obtain ⟨surface, hsurface⟩ := h _ (mem_terms.2 (.inl rfl))
  obtain ⟨depth, hdepth⟩ := h _ (mem_terms.2 (.inr rfl))
  exact ⟨(surface, depth), planes_eq_ok.2 ⟨hsurface, hdepth⟩⟩

theorem FormulaSource.Sound.answers {f : FormulaSource α} (h : f.Sound lib.toDataset)
    (hlib : lib.Built) (hdataset : f.base.dataset = lib.toDataset) :
    (VerticalTransform.source f.source).Answers f.base.strictTimeIndex := by
  refine answers_of_base (b := f.base) rfl (fun n => rfl) ?_
  intro step hstep
  obtain ⟨planes, hplanes⟩ : ∃ planes, f.planes step = .ok planes := by
    refine FormulaSource.exists_planes fun g hg => ?_
    obtain ⟨name, v, factor, hfind, hloaded⟩ := h.loaded g hg
    rw [hdataset]
    exact hloaded.exists_load hlib hfind fun n hn => hstep n (h.times g hg n hn)
  refine ⟨_, bind_eq_ok.2 ⟨planes, hplanes, rfl⟩, rfl, Tensor.isFull_generate3 _ _ _ _⟩

namespace StoredSource

variable {f : StoredSource α}

theorem exists_clean {data : Tensor α} (h : data.shape = f.base.shape.toList) :
    ∃ cleaned, f.clean data = .ok cleaned := by
  rw [clean, if_pos h]
  dsimp only
  split_ifs <;> exact ⟨_, rfl⟩

theorem Sound.answers (h : f.Sound lib.toDataset) (hlib : lib.Built)
    (hdataset : f.base.dataset = lib.toDataset) :
    (VerticalTransform.source f.source).Answers f.base.strictTimeIndex := by
  refine answers_of_base (b := f.base) rfl (fun n => rfl) ?_
  intro step hstep
  cases h with
  | static _ hread hclean =>
    exact ⟨_, rfl, shape_of_clean hclean, isFull_of_clean (hlib.full.read hread) hclean⟩
  | @timed base name v n hfind htimes hshape =>
    obtain ⟨part, hread, hpart⟩ := hlib.exists_readAt hfind hshape (hstep n htimes)
    obtain ⟨cleaned, hclean⟩ := exists_clean (f := ⟨base, v, none⟩) hpart
    refine ⟨cleaned, ?_, shape_of_clean hclean,
      isFull_of_clean (hlib.full.readAt hread) hclean⟩
    have hdataset : base.dataset = lib.toDataset := hdataset
    exact bind_eq_ok.2 ⟨part, hdataset ▸ hread, hclean⟩

end StoredSource

end Sources

/-! ### Transforms that are built from a library -/

namespace Blueprint

variable {α : Type} {b : Blueprint α} {d : Dataset α} {c : Catalog α}

theorem build_eq {r : Recipe α} (hnew : b.existing = none) (hvalid : b.settings.validate = .ok ())
    (hr : Recipe.of (b.name.getD defaultName) d b.attributes b.settings = .ok r) :
    b.build d c = c.make r := by
  unfold build
  rw [hnew, hvalid]
  dsimp only
  rw [hr, ok_bind]

/-- A new transform is made from a recipe with the dataset and the settings of the blueprint. -/
theorem exists_recipe {t : VerticalTransform α} (hnew : b.existing = none)
    (h : b.build d c = .ok t) :
    ∃ r : Recipe α, r.dataset = d ∧ r.settings = b.settings ∧ c.make r = .ok t := by
  unfold build at h
  rw [hnew] at h
  dsimp only at h
  split at h
  · cases h
  · obtain ⟨r, hr, h⟩ := bind_eq_ok.1 h
    unfold Recipe.of at hr
    dsimp only at hr
    split at hr <;> obtain ⟨terms, -, hr⟩ := bind_eq_ok.1 hr <;> cases hr <;>
      exact ⟨_, rfl, rfl, h⟩

end Blueprint

namespace VerticalTransform

variable {α : Type} [Scalar α] [Hyperbolic α]

/-- **Only time indices are refused.** Make a transform from a library of full arrays and cut it in any
way. At a time index that there is, or at any index if the coordinate does not vary in time and the
settings do not insist on the first, there is a full array with the extent of the grid. Every other
index is refused as such, and there are no other errors. A coordinate that does not vary in time is the
same at all indices that are accepted. -/
theorem array_fails_in_time_only {lib : Library α} (hlib : lib.Built) {b : Blueprint α}
    (hnew : b.existing = none) {t₀ t : VerticalTransform α} {cuts : List Cut}
    (hbuild : b.build lib.toDataset Catalog.standard = .ok t₀)
    (hrun : cuts.foldlM subset t₀ = .ok t) :
    (∀ n, t.Accepts b.settings n → ∃ a, t.array n = .ok a ∧ a.shape = t.shape.toList ∧ a.IsFull) ∧
    (∀ n, ¬ t.Accepts b.settings n →
      t.array n = .error (.invalidTimeIndex n (t.times.getD 1))) ∧
    (t.isTimeDependent = false → ∀ m n, t.Accepts b.settings m → t.Accepts b.settings n →
      t.array m = t.array n) := by
  obtain ⟨r, hdataset, hsettings, hmake⟩ := Blueprint.exists_recipe hnew hbuild
  obtain ⟨c, hmade, horigin, hsound, hbase, hstrict⟩ := exists_coordinates_of_foldlM hmake hrun
  have hsource : (source c.source).Answers b.settings.strictTimeIndex := by
    rw [hdataset] at hsound hbase
    rw [← hsettings, ← hstrict]
    cases c with
    | formula f => exact hsound.answers hlib hbase
    | stored f => exact hsound.answers hlib hbase
  have h : t.Answers b.settings.strictTimeIndex := answers_of_made hmade (horigin ▸ hsource)
  simp only [hmade.accepts_iff]
  refine ⟨h.array, h.refuses, fun hstatic => h.static ?_⟩
  rw [hmade.isTimeDependent_eq] at hstatic
  simpa using hstatic

/-- Two layers of air above one point, where the pressure at the ground varies in time. -/
def air : Except Error (Library ℚ) := do
  let lib ← Library.addNamed Dictionary.empty "sigma" ["z"] none (.ofList [0, 1])
  let lib ← lib.addNamed "ptop" [] none (.scalar 10)
  lib.addNamed "ps" ["t", "y", "x"] none ⟨[2, 1, 1], #[1000, 990]⟩

theorem built_of_air {lib : Library ℚ} (h : air = .ok lib) : lib.Built := by
  obtain ⟨lib₁, h₁, h⟩ := bind_eq_ok.1 h
  obtain ⟨lib₂, h₂, h⟩ := bind_eq_ok.1 h
  refine ((Library.Built.empty.addNamed ?_ h₁).addNamed ?_ h₂).addNamed ?_ h <;> rfl

/-- The pressure in the layers. -/
def airPressure : Blueprint ℚ where
  attributes := (Dictionary.empty.insert "transform_type" (.text "AtmosSigma")).insert
    "formula_terms" (.text "sigma: sigma ps: ps ptop: ptop")

/-- The pressure is made by its formula. -/
theorem airPressure_eq : ∃ lib r f, air = .ok lib ∧
    Recipe.of Blueprint.defaultName lib.toDataset airPressure.attributes {} = .ok r ∧
    r.key? = some Formula.atmosSigma.name ∧ r.atmosSigma = .ok f ∧
    ∃ t, subset (.source f.source) { time := some (.single 1) } = .ok t ∧
      t.shape = ⟨2, 1, 1⟩ ∧ t.times = some 1 ∧ t.isTimeDependent = true :=
  ⟨_, _, _, rfl, rfl, rfl, rfl, _, rfl, rfl, rfl, rfl⟩

/-- At the second time alone there is one time index. -/
theorem array_fails_in_time_only_airPressure :
    ∃ lib t₀ t, air = .ok lib ∧
      airPressure.build lib.toDataset (@Catalog.standard ℚ _ nearZero) = .ok t₀ ∧
      [{ time := some (.single 1) }].foldlM subset t₀ = .ok t ∧
      (∃ a, t.array 0 = .ok a ∧ a.shape = [2, 1, 1] ∧ a.IsFull) ∧
      t.array 1 = .error (.invalidTimeIndex 1 1) := by
  obtain ⟨lib, r, f, hlib, hr, hkey, hf, t, hcut, hshape, htimes, hdependent⟩ := airPressure_eq
  have hbuild : airPressure.build lib.toDataset (@Catalog.standard ℚ _ nearZero) =
      .ok (.source f.source) := by
    rw [Blueprint.build_eq (b := airPressure) rfl rfl hr]
    exact @Catalog.make_standard ℚ _ nearZero _ .atmosSigma _ hkey (map_eq_ok.2 ⟨f, hf, rfl⟩)
  have hrun : [{ time := some (.single 1) }].foldlM subset (.source f.source) = .ok t := by
    rw [List.foldlM_cons, hcut]
    rfl
  obtain ⟨hanswers, hrefuses, -⟩ := @array_fails_in_time_only ℚ _ nearZero lib
    (built_of_air hlib) airPressure rfl _ t _ hbuild hrun
  have hfirst : t.Accepts airPressure.settings 0 := .inl ⟨hdependent, 1, htimes, by decide⟩
  have hsecond : ¬ t.Accepts airPressure.settings 1 := by
    simp [Accepts, hdependent, htimes]
  obtain ⟨a, ha, hextent, hfull⟩ := hanswers 0 hfirst
  have hrefused := hrefuses 1 hsecond
  rw [hshape] at hextent
  rw [htimes] at hrefused
  exact ⟨lib, _, t, hlib, hbuild, hrun, ⟨a, ha, hextent, hfull⟩, hrefused⟩

end VerticalTransform

end Gridded
