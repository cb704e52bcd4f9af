import Gridded.Proofs.Vertical.Entries
import Gridded.Proofs.Vertical.ReadErrors

/-!
# Other numbers in the same variables

Whether a transform can be made, its grid and its time steps depend on what variables declare, and not
on their numbers. So a recipe can be made again where the same variables are held with other numbers.

* `Leads`: a computation that has a result where another one has, with a rule for each way to go on;
* `Library.Revalues`: a library with the same variables;
* `Recipe.leads_make`: a transform over that library has the same grid and time steps.
-/

namespace Gridded

/-! ### Computations that follow others -/

/-- Where the first computation has a result the second one has, and the results are related. -/
def Leads {α β : Type} (R : α → β → Prop) (x : Except Error α) (y : Except Error β) : Prop :=
  ∀ a, x = .ok a → ∃ b, y = .ok b ∧ R a b

namespace Leads

variable {α β γ δ : Type} {R : α → β → Prop} {S : γ → δ → Prop} {x : Except Error α}
  {y : Except Error β}

theorem ok {a : α} {b : β} (h : R a b) : Leads R (.ok a) (.ok b) := by
  rintro _ ⟨⟩
  exact ⟨b, rfl, h⟩

theorem refl (x : Except Error α) : Leads Eq x x := fun a ha => ⟨a, ha, rfl⟩

theorem bind (h : Leads R x y) {f : α → Except Error γ} {g : β → Except Error δ}
    (hfg : ∀ a b, R a b → Leads S (f a) (g b)) : Leads S (x >>= f) (y >>= g) := by
  intro c hc
  obtain ⟨a, ha, hc⟩ := bind_eq_ok.1 hc
  obtain ⟨b, hb, hab⟩ := h a ha
  obtain ⟨d, hd, hcd⟩ := hfg a b hab c hc
  exact ⟨d, bind_eq_ok.2 ⟨b, hb, hd⟩, hcd⟩

theorem map (h : Leads R x y) {f : α → γ} {g : β → δ} (hfg : ∀ a b, R a b → S (f a) (g b)) :
    Leads S (f <$> x) (g <$> y) := by
  intro c hc
  obtain ⟨a, ha, rfl⟩ := map_eq_ok.1 hc
  obtain ⟨b, hb, hab⟩ := h a ha
  exact ⟨g b, map_eq_ok.2 ⟨b, hb, rfl⟩, hfg a b hab⟩

end Leads

/-! ### Libraries -/

section Libraries

variable {α : Type} [Scalar α] {lib lib' : Library α}

/-- Both libraries hold full arrays of the same variables. -/
structure Library.Revalues (lib' lib : Library α) : Prop where
  built : lib.Built
  built' : lib'.Built
  find? : ∀ name, lib'.toDataset.find? name = lib.toDataset.find? name

omit [Scalar α] in
/-- The array of a variable has the same shape in both. -/
theorem Library.Revalues.exists_read (h : lib'.Revalues lib) {name : String} {v : Variable α}
    (hfind : lib.toDataset.find? name = some v) {data : Tensor α}
    (hread : lib.toDataset.read v.name = .ok data) :
    ∃ data', lib'.toDataset.read v.name = .ok data' ∧ data'.shape = data.shape ∧
      data'.entries.size = data.entries.size := by
  obtain ⟨found, hfound, hshape, hfull⟩ := h.built.read hfind
  cases hfound.symm.trans hread
  obtain ⟨data', hread', hshape', hfull'⟩ := h.built'.read ((h.find? name).trans hfind)
  have hsame : data'.shape = data.shape := hshape'.trans hshape.symm
  exact ⟨data', hread', hsame, by rw [hfull', hfull, hsame]⟩

/-- Two terms with horizontal dimensions that are of the same variable and have the same extent. -/
structure HorizontalTerm.Matches (g g' : HorizontalTerm α) : Prop where
  var : g'.var = g.var
  times : g'.times = g.times
  rows : g'.rows = g.rows
  columns : g'.columns = g.columns

/-- Two formulas on the same grid with the same time steps. -/
structure FormulaSource.Matches (f f' : FormulaSource α) : Prop where
  shape : f'.base.shape = f.base.shape
  times : f'.base.times = f.base.times

omit [Scalar α] in
theorem HorizontalTerm.Matches.sameShape_eq {f f' g g' : HorizontalTerm α} (hf : f.Matches f')
    (hg : g.Matches g') : f'.sameShape g' = f.sameShape g := by
  unfold sameShape shape name
  rw [hf.rows, hf.columns, hg.rows, hg.columns, hg.var]

omit [Scalar α] in
theorem HorizontalTerm.Matches.commonTimes_eq (formula : Formula) {f f' g g' : HorizontalTerm α}
    (hf : f.Matches f') (hg : g.Matches g') :
    commonTimes formula [f', g'] = commonTimes formula [f, g] := by
  simp only [commonTimes, List.foldlM_cons, List.foldlM_nil, name, hf.times, hg.times, hg.var]

omit [Scalar α] in
theorem FormulaSource.Matches.overSurface {r r' : Recipe α} {formula : Formula} {c c' : Column α}
    (hc : c'.size = c.size) {g g' : HorizontalTerm α} (hg : g.Matches g')
    {unit unit' : Option String} :
    (r.overSurface formula c g unit).Matches (r'.overSurface formula c' g' unit') where
  shape := by
    show GridShape.mk c'.size g'.rows g'.columns = ⟨c.size, g.rows, g.columns⟩
    rw [hc, hg.rows, hg.columns]
  times := hg.times

namespace Recipe

variable {r : Recipe α} {formula : Formula} {term : String} {target : Option String}

/-! ### Terms -/

section Terms

variable (h : lib'.Revalues lib) (hr : r.dataset = lib.toDataset)

include h hr

omit [Scalar α] in
theorem binds_readFrom {v : Variable α} :
    (r.readFrom lib'.toDataset).Binds term v ↔ r.Binds term v := by
  simp only [Binds, readFrom, h.find?, hr]

omit [Scalar α] in
theorem leads_variableOf : Leads Eq (r.variableOf formula term)
    ((r.readFrom lib'.toDataset).variableOf formula term) := by
  intro v hv
  exact ⟨v, variableOf_eq_ok.2 ((binds_readFrom h hr).2 (variableOf_eq_ok.1 hv)), rfl⟩

theorem leads_levels : Leads (fun xs xs' => xs'.length = xs.length)
    (r.levels formula term target) ((r.readFrom lib'.toDataset).levels formula term target) := by
  intro xs hxs
  obtain ⟨v, data, hbinds, hrank, hread, rfl⟩ := levels_eq_ok.1 hxs
  obtain ⟨name, -, hfind⟩ := id hbinds
  rw [hr] at hread hfind
  obtain ⟨data', hread', -, hsize⟩ := h.exists_read hfind hread
  refine ⟨_, levels_eq_ok.2 ⟨v, data', (binds_readFrom h hr).2 hbinds, hrank, hread', rfl⟩, ?_⟩
  simpa using hsize

theorem leads_number : Leads (fun _ _ => True) (r.number formula term target)
    ((r.readFrom lib'.toDataset).number formula term target) := by
  intro x hx
  obtain ⟨xs, hxs, hlength⟩ := leads_levels h hr _ (number_eq_ok.1 hx)
  obtain ⟨x', rfl⟩ := List.length_eq_one_iff.1 hlength
  exact ⟨x', number_eq_ok.2 hxs, trivial⟩


theorem leads_horizontal : Leads HorizontalTerm.Matches (r.horizontal formula term target)
    ((r.readFrom lib'.toDataset).horizontal formula term target) := by
  intro g hg
  obtain ⟨v, hbinds, hloaded⟩ := horizontal_eq_ok.1 hg
  obtain ⟨name, -, hfind⟩ := id hbinds
  rw [hr] at hloaded hfind
  have hbinds' := (binds_readFrom h hr).2 hbinds
  cases hloaded with
  | static hshape hread hdata =>
    obtain ⟨data', hread', hsame, -⟩ := h.exists_read hfind hread
    exact ⟨_, horizontal_eq_ok.2 ⟨v, hbinds', .static hshape hread' (hsame.trans hdata)⟩,
      ⟨rfl, rfl, rfl, rfl⟩⟩
  | timed hshape =>
    exact ⟨_, horizontal_eq_ok.2 ⟨v, hbinds', .timed hshape⟩, ⟨rfl, rfl, rfl, rfl⟩⟩

omit h hr in
omit [Scalar α] in
theorem leads_sameLevels (d : Dataset α) {xs ys xs' ys' : List α} (hx : xs'.length = xs.length)
    (hy : ys'.length = ys.length) : Leads (fun _ _ => True) (r.sameLevels formula term xs ys)
      ((r.readFrom d).sameLevels formula term xs' ys') := by
  rintro ⟨⟩ hsame
  exact ⟨(), sameLevels_eq_ok.2 (hx.trans ((sameLevels_eq_ok.1 hsame).trans hy.symm)), trivial⟩

/-! ### Makers -/

theorem leads_atmosSigma :
    Leads FormulaSource.Matches r.atmosSigma (r.readFrom lib'.toDataset).atmosSigma := by
  refine (leads_horizontal h hr).bind fun g g' hg => ?_
  refine (leads_levels h hr).bind fun sigma sigma' hsigma => ?_
  rw [hg.var]
  refine (leads_number h hr).bind fun _ _ _ => .ok ?_
  refine .overSurface ?_ hg
  exact hsigma

theorem leads_pressureOffset (unit : Option String) : Leads (fun xs xs' => xs'.length = xs.length)
    (r.pressureOffset unit) ((r.readFrom lib'.toDataset).pressureOffset unit) := by
  unfold pressureOffset
  show Leads _ (if r.terms.contains "ap" then _ else _) (if r.terms.contains "ap" then _ else _)
  split_ifs
  · exact leads_levels h hr
  · exact (leads_number h hr).bind fun _ _ _ => (leads_levels h hr).bind fun share share' hshare =>
      .ok (by simpa using hshare)

theorem leads_hybridSigmaPressure : Leads FormulaSource.Matches r.hybridSigmaPressure
    (r.readFrom lib'.toDataset).hybridSigmaPressure := by
  refine (leads_horizontal h hr).bind fun g g' hg => ?_
  refine (leads_levels h hr).bind fun share share' hshare => ?_
  rw [hg.var]
  refine (leads_pressureOffset h hr _).bind fun offset offset' hoffset => ?_
  refine (leads_sameLevels _ hoffset hshare).bind fun _ _ _ => .ok ?_
  refine .overSurface ?_ hg
  exact hshare

theorem leads_hybridHeight :
    Leads FormulaSource.Matches r.hybridHeight (r.readFrom lib'.toDataset).hybridHeight := by
  refine (leads_variableOf h hr).bind ?_
  rintro v _ rfl
  refine (leads_levels h hr).bind fun offset offset' hoffset => ?_
  refine (leads_levels h hr).bind fun share share' hshare => ?_
  refine (leads_sameLevels _ hoffset hshare).bind fun _ _ _ => ?_
  refine (leads_horizontal h hr).bind fun g g' hg => .ok ?_
  refine .overSurface ?_ hg
  exact hoffset

/-- A formula of the ocean can be made again if its column can be read again. -/
theorem leads_overDepth {column column' : Option String → Except Error (Column α)}
    (hcolumn : ∀ unit, Leads (fun c c' => c'.size = c.size) (column unit) (column' unit)) :
    Leads FormulaSource.Matches (r.overDepth formula column)
      ((r.readFrom lib'.toDataset).overDepth formula column') := by
  refine (leads_variableOf h hr).bind ?_
  rintro v _ rfl
  refine (leads_horizontal h hr).bind fun depth depth' hdepth => ?_
  refine (leads_horizontal h hr).bind fun surface surface' hsurface => ?_
  refine (hcolumn v.units?).bind fun c c' hc => ?_
  rw [hsurface.sameShape_eq hdepth, hsurface.commonTimes_eq formula hdepth]
  refine (Leads.refl _).bind fun _ _ _ => ?_
  refine (Leads.refl _).bind ?_
  rintro times _ rfl
  refine .ok ⟨?_, rfl⟩
  show GridShape.mk c'.size surface'.rows surface'.columns = ⟨c.size, surface.rows, surface.columns⟩
  rw [hc, hsurface.rows, hsurface.columns]

theorem leads_oceanSigma :
    Leads FormulaSource.Matches r.oceanSigma (r.readFrom lib'.toDataset).oceanSigma :=
  leads_overDepth h hr fun _ => (leads_levels h hr).map fun _ _ hsigma => hsigma

theorem leads_oceanS [Hyperbolic α] :
    Leads FormulaSource.Matches r.oceanS (r.readFrom lib'.toDataset).oceanS := by
  refine leads_overDepth h hr fun unit => ?_
  refine (leads_levels h hr).bind fun s s' hs => ?_
  refine (leads_number h hr).bind fun _ _ _ => ?_
  refine (leads_number h hr).bind fun _ _ _ => ?_
  exact (leads_number h hr).bind fun _ _ _ => .ok hs

theorem leads_readCurve (unit : Option String) : Leads (fun read read' => read'.1.length = read.1.length)
    (r.readCurve formula unit) ((r.readFrom lib'.toDataset).readCurve formula unit) := by
  refine (leads_levels h hr).bind fun s s' hs => ?_
  refine (leads_levels h hr).bind fun curve curve' hcurve => ?_
  refine (leads_sameLevels _ hs hcurve).bind fun _ _ _ => ?_
  exact (leads_number h hr).bind fun _ _ _ => .ok hs

theorem leads_oceanSG1 :
    Leads FormulaSource.Matches r.oceanSG1 (r.readFrom lib'.toDataset).oceanSG1 :=
  leads_overDepth h hr fun unit => (leads_readCurve h hr unit).bind fun _ _ hs => .ok hs

theorem leads_oceanSG2 :
    Leads FormulaSource.Matches r.oceanSG2 (r.readFrom lib'.toDataset).oceanSG2 :=
  leads_overDepth h hr fun unit => (leads_readCurve h hr unit).bind fun _ _ hs => .ok hs

omit [Scalar α] in
theorem leads_storedVariable :
    Leads Eq r.storedVariable (r.readFrom lib'.toDataset).storedVariable := by
  have hsame : (r.readFrom lib'.toDataset).storedVariable = r.storedVariable := by
    simp only [storedVariable, readFrom, h.find?, hr]
  rw [hsame]
  exact Leads.refl _

theorem leads_existingField :
    Leads (fun f f' => f'.base.shape = f.base.shape ∧ f'.base.times = f.base.times) r.existingField
      (r.readFrom lib'.toDataset).existingField := by
  intro f hf
  obtain ⟨v, hv, hf⟩ := bind_eq_ok.1 hf
  obtain ⟨_, hv', rfl⟩ := leads_storedVariable h hr v hv
  obtain ⟨name, hfind⟩ := find?_of_storedVariable hv
  unfold existingField
  rw [hv', ok_bind]
  rw [hr] at hf hfind
  dsimp only at hf ⊢
  split at hf
  · obtain ⟨data, hread, hf⟩ := bind_eq_ok.1 hf
    obtain ⟨cleaned, hclean, hf⟩ := bind_eq_ok.1 hf
    cases hf
    obtain ⟨data', hread', hshape, -⟩ := h.exists_read hfind hread
    obtain ⟨cleaned', hclean'⟩ :=
      StoredSource.exists_clean (hshape.trans (StoredSource.shape_eq_of_clean hclean))
    refine ⟨_, bind_eq_ok.2 ⟨data', hread', bind_eq_ok.2 ⟨cleaned', hclean', rfl⟩⟩, rfl, rfl⟩
  · cases hf
    exact ⟨_, rfl, rfl, rfl⟩
  · cases hf

end Terms

/-- **Making depends on what variables declare.** A transform that can be made can be made again where
the same variables are held with other numbers, on the same grid and with the same time steps. -/
theorem leads_make [Hyperbolic α] (h : lib'.Revalues lib) (hr : r.dataset = lib.toDataset)
    (formula : Formula) :
    Leads (fun t t' => t'.shape = t.shape ∧ t'.times = t.times) (r.make formula)
      ((r.readFrom lib'.toDataset).make formula) := by
  have hsource : ∀ {x y : Except Error (FormulaSource α)}, Leads FormulaSource.Matches x y →
      Leads (fun t t' => t'.shape = t.shape ∧ t'.times = t.times)
        ((VerticalTransform.source ·.source) <$> x) ((VerticalTransform.source ·.source) <$> y) :=
    fun hxy => hxy.map fun _ _ hf => ⟨hf.shape, hf.times⟩
  cases formula with
  | atmosSigma => exact hsource (leads_atmosSigma h hr)
  | hybridSigmaPressure => exact hsource (leads_hybridSigmaPressure h hr)
  | hybridHeight => exact hsource (leads_hybridHeight h hr)
  | oceanSigma => exact hsource (leads_oceanSigma h hr)
  | oceanS => exact hsource (leads_oceanS h hr)
  | oceanSG1 => exact hsource (leads_oceanSG1 h hr)
  | oceanSG2 => exact hsource (leads_oceanSG2 h hr)
  | existingField => exact (leads_existingField h hr).map fun _ _ hf => hf

end Recipe

end Libraries

end Gridded
