import Gridded.Proofs.Vertical.Masking
import Gridded.Proofs.Vertical.Revaluing

/-!
# Where missing numbers show

A coordinate depends on the entries that count for it, and on nothing else that is held in memory. It is
missing where one of them is, and all other entries can have any numbers or be missing.

* `Recipe.Agrees`: two libraries with the same entries where they count for a coordinate;
* `Recipe.Agrees.coordinate_eq`, `Recipe.Agrees.get3_eq`: columns and arrays over the two libraries;
* `VerticalTransform.masked_where_used`: all together.
-/

namespace Gridded

namespace Recipe

variable {α : Type} [Scalar α] {r : Recipe α} {lib lib' : Library α} {p : GridPoint}
  {formula : Formula} {term : String} {target unit : Option String}

/-- Two libraries hold the same variables, with the same entries where these count for the coordinate of
a point. -/
structure Agrees (r : Recipe α) (lib lib' : Library α) (p : GridPoint) (formula : Formula) :
    Prop where
  revalues : lib'.Revalues lib
  dataset : r.dataset = lib.toDataset
  at? : ∀ v index, r.Uses lib p formula v index →
    lib'.at? v.name index = lib.at? v.name index

theorem not_idle_of_kind (h : formula.termKind term ≠ .number) : ¬r.Idle lib formula term := by
  rintro ⟨rfl, rfl, -⟩
  exact h rfl

namespace Agrees

variable (h : r.Agrees lib lib' p formula)

include h

/-- What is read of an entry that counts is the same over both libraries. -/
theorem eq_of_cleaned {kind : TermKind} {z z' : α} (hz : r.Cleaned lib p kind target term z)
    (hz' : (r.readFrom lib'.toDataset).Cleaned lib' p kind target term z')
    (hterm : term ∈ formula.usedTerms r.terms) (hkind : formula.termKind term = kind)
    (hcounts : ¬r.Idle lib formula term) : z' = z := by
  obtain ⟨v, x, hbinds, hentry, rfl⟩ := hz
  obtain ⟨v', x', hbinds', hentry', rfl⟩ := hz'
  cases hbinds.unique ((binds_readFrom h.revalues h.dataset).1 hbinds')
  have hsame := h.at? v _ (.term hterm hbinds hcounts)
  rw [hkind, hentry, hentry'] at hsame
  cases hsame
  rfl

theorem length_eq {xs xs' : List α} (hread : r.levels formula term target = .ok xs)
    (hread' : (r.readFrom lib'.toDataset).levels formula term target = .ok xs') :
    xs'.length = xs.length := by
  obtain ⟨ys, hys, hlength⟩ := leads_levels h.revalues h.dataset xs hread
  cases hread'.symm.trans hys
  exact hlength

theorem level_eq {xs xs' : List α} (hread : r.levels formula term target = .ok xs)
    (hread' : (r.readFrom lib'.toDataset).levels formula term target = .ok xs')
    (hterm : term ∈ formula.usedTerms r.terms) (hkind : formula.termKind term = .level)
    (hk : p.level < xs.length) : Column.level xs' p.level = Column.level xs p.level :=
  h.eq_of_cleaned (cleaned_level h.revalues.built h.dataset hread hk)
    (cleaned_level h.revalues.built' rfl hread' (h.length_eq hread hread' ▸ hk)) hterm hkind
    (not_idle_of_kind (by rw [hkind]; decide))

theorem number_eq {z z' : α} (hread : r.number formula term target = .ok z)
    (hread' : (r.readFrom lib'.toDataset).number formula term target = .ok z')
    (hterm : term ∈ formula.usedTerms r.terms) (hkind : formula.termKind term = .number)
    (hcounts : ¬r.Idle lib formula term) : z' = z :=
  h.eq_of_cleaned (cleaned_number h.revalues.built h.dataset hread)
    (cleaned_number h.revalues.built' rfl hread') hterm hkind hcounts

end Agrees

/-- The offset of a level is the same over both libraries. -/
theorem Agrees.offset_eq (h : r.Agrees lib lib' p .hybridSigmaPressure) {offset offset' : List α}
    (hread : r.pressureOffset unit = .ok offset)
    (hread' : (r.readFrom lib'.toDataset).pressureOffset unit = .ok offset')
    (hk : p.level < offset.length) :
    Column.level offset' p.level = Column.level offset p.level := by
  have hused : Formula.hybridSigmaPressure.usedTerms r.terms =
    if r.terms.contains "ap" then ["ap", "b", "ps"] else ["a", "b", "ps", "p0"] := rfl
  have hterms : (r.readFrom lib'.toDataset).terms = r.terms := rfl
  unfold pressureOffset at hread hread'
  rw [hterms] at hread'
  split_ifs at hused hread hread'
  · exact h.level_eq hread hread' (hused ▸ .head _) rfl hk
  · obtain ⟨reference, hreference, hread⟩ := bind_eq_ok.1 hread
    obtain ⟨share, hshare, hread⟩ := bind_eq_ok.1 hread
    obtain ⟨reference', hreference', hread'⟩ := bind_eq_ok.1 hread'
    obtain ⟨share', hshare', hread'⟩ := bind_eq_ok.1 hread'
    cases hread
    cases hread'
    have hk : p.level < share.length := by simpa using hk
    have hk' : p.level < share'.length := h.length_eq hshare hshare' ▸ hk
    have hp0 : "p0" ∈ Formula.hybridSigmaPressure.usedTerms r.terms := by
      rw [hused]
      decide
    rw [level_map _ hk, level_map _ hk', h.level_eq hshare hshare' (hused ▸ .head _) rfl hk,
      h.number_eq hreference hreference' hp0 rfl fun hidle => absurd hidle.1 (by decide)]

/-- The control of the surface is next to zero where that of the bottom does not count. -/
theorem lt_of_idle [Scalar.Unital α] (hlib : lib.Built) (hr : r.dataset = lib.toDataset) {a : α}
    (ha : r.number .oceanS "a" none = .ok a) (h : r.Idle lib .oceanS "b") :
    Scalar.abs a < 1e-12 := by
  obtain ⟨-, -, v, x, hbinds, hentry, hx, hsmall⟩ := h
  have hcleaned := cleaned_number (p := ⟨0, 0, 0, 0⟩) hlib hr ha
  rwa [hcleaned.eq_of_present hbinds hentry hx]

variable [Hyperbolic α] [Scalar.Unital α]

/-- The stretching of a level is the same over both libraries. -/
theorem Agrees.stretching_eq (h : r.Agrees lib lib' p .oceanS) {a b a' b' : α}
    (ha : r.number .oceanS "a" none = .ok a) (hb : r.number .oceanS "b" none = .ok b)
    (ha' : (r.readFrom lib'.toDataset).number .oceanS "a" none = .ok a')
    (hb' : (r.readFrom lib'.toDataset).number .oceanS "b" none = .ok b') (s : α) :
    stretching s a' b' = stretching s a b := by
  obtain rfl : a' = a := h.number_eq ha ha' (.tail _ (.tail _ (.tail _ (.head _)))) rfl
    fun hidle => absurd hidle.2.1 (by decide)
  by_cases hidle : r.Idle lib .oceanS "b"
  · have hsmall := lt_of_idle h.revalues.built h.dataset ha hidle
    rw [stretching, stretching, if_pos hsmall, if_pos hsmall]
  · rw [h.number_eq hb hb' (.tail _ (.tail _ (.tail _ (.tail _ (.head _))))) rfl hidle]

/-- The coordinates of the level from the same horizontal numbers are the same over both libraries. -/
theorem Agrees.coordinate_eq (h : r.Agrees lib lib' p formula) {c c' : Column α}
    (hc : r.Columns unit formula c) (hc' : (r.readFrom lib'.toDataset).Columns unit formula c')
    (hk : p.level < c.size) (surface depth : α) :
    c'.coordinate p.level surface depth = c.coordinate p.level surface depth := by
  have hlevel : ∀ {term target xs xs'}, r.levels formula term target = .ok xs →
      (r.readFrom lib'.toDataset).levels formula term target = .ok xs' → xs.length = c.size →
      formula.IsUsed term ∧ formula.termKind term = .level →
      Column.level xs' p.level = Column.level xs p.level :=
    fun hread hread' hlength hterm => h.level_eq hread hread' (hterm.1.mem_usedTerms _) hterm.2
      (hlength ▸ hk)
  have hnumber : ∀ {term target z z'}, r.number formula term target = .ok z →
      (r.readFrom lib'.toDataset).number formula term target = .ok z' →
      (formula.IsUsed term ∧ formula.termKind term = .number) ∧
        (formula ≠ .oceanS ∨ term ≠ "b") → z' = z :=
    fun hread hread' hterm => h.number_eq hread hread' (hterm.1.1.mem_usedTerms _) hterm.1.2
      fun hidle => hterm.2.elim (· hidle.1) (· hidle.2.1)
  cases hc with
  | atmosSigma hsigma htop =>
    cases hc' with
    | atmosSigma hsigma' htop' =>
      rw [Column.coordinate, Column.coordinate, hlevel hsigma hsigma' rfl (by decide),
        hnumber htop htop' (by decide)]
      rfl
  | hybridSigmaPressure hoffset hshare hlength =>
    cases hc' with
    | hybridSigmaPressure hoffset' hshare' hlength' =>
      rw [Column.coordinate, Column.coordinate, h.offset_eq hoffset hoffset' (by rw [hlength]; exact hk),
        hlevel hshare hshare' rfl (by decide)]
      rfl
  | hybridHeight hoffset hshare hlength =>
    cases hc' with
    | hybridHeight hoffset' hshare' hlength' =>
      rw [Column.coordinate, Column.coordinate, hlevel hoffset hoffset' rfl (by decide),
        hlevel hshare hshare' hlength.symm (by decide)]
  | oceanSigma hsigma =>
    cases hc' with
    | oceanSigma hsigma' =>
      rw [Column.coordinate, Column.coordinate, hlevel hsigma hsigma' rfl (by decide)]
  | oceanS hs ha hb hcritical =>
    cases hc' with
    | oceanS hs' ha' hb' hcritical' =>
      have hk' := Nat.lt_of_lt_of_eq hk (h.length_eq hs hs').symm
      rw [Column.coordinate, Column.coordinate, level_map _ hk, level_map _ hk',
        hlevel hs hs' rfl (by decide), h.stretching_eq ha hb ha' hb',
        hnumber hcritical hcritical' (by decide)]
  | oceanSG1 hs hcurve hlength hcritical =>
    cases hc' with
    | oceanSG1 hs' hcurve' hlength' hcritical' =>
      rw [Column.coordinate, Column.coordinate, hlevel hs hs' rfl (by decide),
        hlevel hcurve hcurve' hlength.symm (by decide), hnumber hcritical hcritical' (by decide)]
  | oceanSG2 hs hcurve hlength hcritical =>
    cases hc' with
    | oceanSG2 hs' hcurve' hlength' hcritical' =>
      rw [Column.coordinate, Column.coordinate, hlevel hs hs' rfl (by decide),
        hlevel hcurve hcurve' hlength.symm (by decide), hnumber hcritical hcritical' (by decide)]

omit [Hyperbolic α] [Scalar.Unital α] in
/-- The number of a horizontal term is the same over both libraries. -/
theorem Agrees.field_eq (h : r.Agrees lib lib' p formula) (hterm : term ∈ formula.horizontalTerms)
    {z z' : α} (hz : r.Cleaned lib p .field unit term z)
    (hz' : (r.readFrom lib'.toDataset).Cleaned lib' p .field unit term z') : z' = z := by
  obtain ⟨hused, hkind, -⟩ := Formula.isUsed_of_horizontalTerms hterm
  exact h.eq_of_cleaned hz hz' (hused.mem_usedTerms _) hkind
    (not_idle_of_kind (by rw [hkind]; decide))

/-- Arrays have the same entry over both libraries. -/
theorem Agrees.get3_eq (h : r.Agrees lib lib' p formula) {t t' : VerticalTransform α}
    (hmake : r.make formula = .ok t) (hmake' : (r.readFrom lib'.toDataset).make formula = .ok t')
    {strict : Bool} (hp : t.Has strict p) (hp' : t'.Has strict p) {a a' : Tensor α}
    (ha : t.array p.time = .ok a) (ha' : t'.array p.time = .ok a') :
    a'.get3 Scalar.nan p.level p.row p.column = a.get3 Scalar.nan p.level p.row p.column := by
  have hlib := h.revalues.built
  have hlib' := h.revalues.built'
  by_cases hformula : formula = .existingField
  · subst hformula
    obtain ⟨f, hf, rfl⟩ := map_eq_ok.1 hmake
    obtain ⟨f', hf', rfl⟩ := map_eq_ok.1 hmake'
    obtain ⟨v, x, hv, hentry, hvalue⟩ :=
      cleared_stored hlib h.dataset hf ha hp.level hp.row hp.column
    obtain ⟨v', x', hv', hentry', hvalue'⟩ :=
      cleared_stored hlib' rfl hf' ha' hp'.level hp'.row hp'.column
    obtain ⟨_, hfound, rfl⟩ := leads_storedVariable h.revalues h.dataset v hv
    cases hv'.symm.trans hfound
    have hsame := h.at? v _ (.stored hv)
    rw [hentry, hentry'] at hsame
    cases hsame
    rw [hvalue, hvalue']
  · obtain ⟨unit, f, rfl, hmakes⟩ := exists_makes hmake hformula
    obtain ⟨unit', f', rfl, hmakes'⟩ := exists_makes hmake' hformula
    obtain rfl : unit' = unit := by
      obtain ⟨term, v, hterm, hbinds, rfl⟩ := hmakes.reference
      obtain ⟨term', v', hterm', hbinds', rfl⟩ := hmakes'.reference
      cases hterm.symm.trans hterm'
      rw [hbinds.unique ((binds_readFrom h.revalues h.dataset).1 hbinds')]
    obtain ⟨surface, depth, hvalue, hsurface, hdepth⟩ :=
      hmakes.exists_cleaned hlib h.dataset hp.level hp.row hp.column ha
    obtain ⟨surface', depth', hvalue', hsurface', hdepth'⟩ :=
      hmakes'.exists_cleaned hlib' rfl hp'.level hp'.row hp'.column ha'
    obtain ⟨first, last, hfirst, hlast⟩ : ∃ first last,
        formula.horizontalTerms.head? = some first ∧
          formula.horizontalTerms.getLast? = some last := by
      cases formula <;> first | exact ⟨_, _, rfl, rfl⟩ | exact absurd rfl hformula
    obtain rfl : surface' = surface :=
      h.field_eq (List.mem_of_mem_head? hfirst) (hsurface _ hfirst) (hsurface' _ hfirst)
    obtain rfl : depth' = depth :=
      h.field_eq (List.mem_of_mem_getLast? hlast) (hdepth _ hlast) (hdepth' _ hlast)
    rw [hvalue, hvalue']
    exact h.coordinate_eq hmakes.column hmakes'.column (hmakes.size_eq ▸ hp.level) _ _

end Recipe

namespace VerticalTransform

variable {α : Type} [Scalar α] [Scalar.Ordered α] [Scalar.Contagious α] [Scalar.Unital α]
  [Hyperbolic α] [Hyperbolic.Contagious α]

/-- **Missing numbers show where they count, and nowhere else.** Make any of the transforms from arrays
that are held in memory. If an entry that counts for a coordinate is not a number, or is one of the
numbers that mark what is missing in its variable, the coordinate is not a number, whatever the units
and the settings are. And if the same variables are held with other numbers, and these are the same
where they count for the coordinate, the transform can be made again and has the same coordinate
there. That arithmetic hands on what is missing is shown for doubles, and only assumed of the hyperbolic
functions. -/
theorem masked_where_used {lib : Library α} (hlib : lib.Built) {r : Recipe α}
    (hr : r.dataset = lib.toDataset) {formula : Formula} {t : VerticalTransform α}
    (hmake : r.make formula = .ok t) {p : GridPoint} (hp : t.Has r.settings.strictTimeIndex p) :
    (∀ v index x, r.Uses lib p formula v index → lib.at? v.name index = some x → v.Lacks x →
      ∀ lookup, ∃ y, t.coordinateAt lookup p.time p.level p.row p.column = .ok y ∧
        Scalar.isNaN y = true) ∧
    ∀ lib' : Library α, lib'.Revalues lib →
      (∀ v index, r.Uses lib p formula v index →
        lib'.at? v.name index = lib.at? v.name index) →
      ∃ t', (r.readFrom lib'.toDataset).make formula = .ok t' ∧ t'.shape = t.shape ∧
        t'.times = t.times ∧ ∀ lookup, t'.coordinateAt lookup p.time p.level p.row p.column =
          t.coordinateAt lookup p.time p.level p.row p.column := by
  obtain ⟨a, ha, -⟩ := (Recipe.answers_of_make hlib hr hmake).array p.time hp.time
  obtain ⟨s, rfl, hcoherent⟩ := Recipe.coherent_of_make hmake
  constructor
  · intro v index x huses hentry hlacks lookup
    refine ⟨_, ?_, Recipe.isNaN_of_uses hlib hr hmake hp huses hentry hlacks ha⟩
    rw [hcoherent.coordinateAt_eq hp lookup, ha, map_ok]
  · intro lib' hrevalues hentries
    obtain ⟨t', hmake', hshape, htimes⟩ := Recipe.leads_make hrevalues hr formula _ hmake
    have hp' : t'.Has r.settings.strictTimeIndex p := by
      refine ⟨?_, ?_, ?_, ?_⟩
      · rw [htimes]
        exact hp.time
      all_goals rw [hshape]
      · exact hp.level
      · exact hp.row
      · exact hp.column
    obtain ⟨a', ha', -⟩ := (Recipe.answers_of_make hrevalues.built' rfl hmake').array p.time hp'.time
    obtain ⟨s', rfl, hcoherent'⟩ := Recipe.coherent_of_make hmake'
    have hagrees : r.Agrees lib lib' p formula := ⟨hrevalues, hr, hentries⟩
    refine ⟨_, hmake', hshape, htimes, fun lookup => ?_⟩
    rw [hcoherent'.coordinateAt_eq hp' lookup, hcoherent.coordinateAt_eq hp lookup, ha, ha', map_ok,
      map_ok, hagrees.get3_eq hmake hmake' hp hp' ha ha']

section Examples

/-- The hyperbolic functions near zero, which this formula does not call. -/
@[reducible]
def nearZeroPartial : Hyperbolic PartialRat := ⟨id, id⟩

theorem contagious_nearZeroPartial : @Hyperbolic.Contagious PartialRat _ nearZeroPartial :=
  @Hyperbolic.Contagious.mk PartialRat _ nearZeroPartial (fun _ h => h) fun _ h => h

/-- The pressure at the ground at two times and above two columns, where -999 marks what is missing. -/
def gappyGround : Variable PartialRat :=
  .withAttribute ⟨"ps", ["t", "y", "x"], [2, 1, 2], Dictionary.empty⟩ "_FillValue" (.numbers [-999])

/-- Two layers of air above the ground. -/
def gappyAir (pressures : Array PartialRat) : Except Error (Library PartialRat) := do
  let lib ← Library.addNamed Dictionary.empty "sigma" ["z"] none (.ofList [0, 0.5])
  let lib ← lib.addNamed "ptop" [] none (.scalar 10)
  lib.add gappyGround ⟨[2, 1, 2], pressures⟩

theorem built_of_gappyAir {pressures : Array PartialRat} (hsize : pressures.size = 4)
    {lib : Library PartialRat} (h : gappyAir pressures = .ok lib) : lib.Built := by
  obtain ⟨lib₁, h₁, h⟩ := bind_eq_ok.1 h
  obtain ⟨lib₂, h₂, h⟩ := bind_eq_ok.1 h
  refine .add ((Library.Built.empty.addNamed ?_ h₁).addNamed ?_ h₂) ?_ h
  · rfl
  · rfl
  · exact hsize

/-- The variables are the same whatever the pressures. -/
theorem find?_gappyAir {pressures pressures' : Array PartialRat} {lib lib' : Library PartialRat}
    (h : gappyAir pressures = .ok lib) (h' : gappyAir pressures' = .ok lib') (name : String) :
    lib'.toDataset.find? name = lib.toDataset.find? name := by
  obtain ⟨lib₁, h₁, h⟩ := bind_eq_ok.1 h
  obtain ⟨lib₂, h₂, h⟩ := bind_eq_ok.1 h
  obtain ⟨_, h₁', h'⟩ := bind_eq_ok.1 h'
  cases h₁.symm.trans h₁'
  obtain ⟨_, h₂', h'⟩ := bind_eq_ok.1 h'
  cases h₂.symm.trans h₂'
  obtain ⟨-, rfl⟩ := Library.add_eq_ok.1 h
  obtain ⟨-, rfl⟩ := Library.add_eq_ok.1 h'
  simp only [Library.toDataset, Dictionary.find?_insert]
  split_ifs <;> rfl

/-- The pressure in the layers. -/
def gappyPressure : Attributes PartialRat :=
  Dictionary.empty.insert "formula_terms" (.text "sigma: sigma ps: ps ptop: ptop")

theorem gappyAir_eq : ∃ lib lib' r f a, gappyAir #[1000, -999, 990, 980] = .ok lib ∧
    gappyAir #[1000, 7, Scalar.nan, -999] = .ok lib' ∧
    Recipe.of "air" lib.toDataset gappyPressure {} = .ok r ∧ r.dataset = lib.toDataset ∧
    r.atmosSigma = .ok f ∧ f.base.shape = ⟨2, 1, 2⟩ ∧ f.base.times = some 2 ∧
    Formula.atmosSigma.usedTerms r.terms = ["sigma", "ps", "ptop"] ∧
    r.Binds "sigma" ⟨"sigma", ["z"], [2], Dictionary.empty⟩ ∧ r.Binds "ps" gappyGround ∧
    r.Binds "ptop" ⟨"ptop", [], [], Dictionary.empty⟩ ∧
    lib.at? "ps" [0, 0, 1] = some (-999) ∧
    lib'.at? "sigma" [1] = lib.at? "sigma" [1] ∧
    lib'.at? "ps" [0, 0, 0] = lib.at? "ps" [0, 0, 0] ∧
    lib'.at? "ptop" [] = lib.at? "ptop" [] ∧
    f.array 0 = .ok a ∧ a.get3 Scalar.nan 1 0 0 = 505 :=
  ⟨_, _, _, _, _, rfl, rfl, rfl, rfl, rfl, rfl, rfl, rfl, ⟨_, rfl, rfl⟩, ⟨_, rfl, rfl⟩, ⟨_, rfl, rfl⟩, rfl, rfl,
    rfl, rfl, rfl, by decide +kernel⟩

/-- The pressure above the second column is missing at the first time, and that above the first column
does not change with what is held for the second column or for the second time. -/
theorem masked_where_used_gappyAir :
    ∃ lib lib' r t t', gappyAir #[1000, -999, 990, 980] = .ok lib ∧
      gappyAir #[1000, 7, Scalar.nan, -999] = .ok lib' ∧
      Recipe.of "air" lib.toDataset gappyPressure {} = .ok r ∧
      @Recipe.make PartialRat _ nearZeroPartial r .atmosSigma = .ok t ∧
      @Recipe.make PartialRat _ nearZeroPartial (r.readFrom lib'.toDataset) .atmosSigma = .ok t' ∧
      (∃ y, t.coordinateAt .column 0 1 0 1 = .ok y ∧ Scalar.isNaN y = true) ∧
      t.coordinateAt .array 0 1 0 0 = .ok 505 ∧ t'.coordinateAt .array 0 1 0 0 = .ok 505 := by
  obtain ⟨lib, lib', r, f, a, hlib, hlib', hr, hdataset, hf, hshape, htimes, hterms, hsigma, hps, hptop,
    hmarked, hlevel, hground, htop, ha, hvalue⟩ := gappyAir_eq
  have hbuilt : lib.Built := built_of_gappyAir rfl hlib
  have hmake : @Recipe.make PartialRat _ nearZeroPartial r .atmosSigma = .ok (.source f.source) :=
    map_eq_ok.2 ⟨f, hf, rfl⟩
  have hpoint : ∀ column < 2, (source f.source).Has r.settings.strictTimeIndex ⟨0, 1, 0, column⟩ := by
    intro column hcolumn
    have hgrid : (source f.source).shape = ⟨2, 1, 2⟩ := hshape
    refine ⟨?_, by simp [hgrid], by simp [hgrid], by simpa [hgrid] using hcolumn⟩
    show TimeAccepted _ f.base.times 0
    rw [htimes]
    exact Nat.two_pos
  have hmasks := @masked_where_used PartialRat _ _ _ _ nearZeroPartial contagious_nearZeroPartial
    lib hbuilt r hdataset .atmosSigma _ hmake
  obtain ⟨hmasked, -⟩ := hmasks (hpoint 1 (by decide))
  obtain ⟨-, hlocal⟩ := hmasks (hpoint 0 (by decide))
  have hnotIdle : ∀ term, ¬r.Idle lib .atmosSigma term := fun term hidle => by cases hidle.1
  have hcounted : ∀ v index, r.Uses lib ⟨0, 1, 0, 0⟩ .atmosSigma v index →
      lib'.at? v.name index = lib.at? v.name index := by
    intro v index huses
    cases huses with
    | term hterm hbinds hcounts =>
      rw [hterms] at hterm
      simp only [List.mem_cons, List.not_mem_nil, or_false] at hterm
      rcases hterm with rfl | rfl | rfl
      · cases hbinds.unique hsigma
        exact hlevel
      · cases hbinds.unique hps
        exact hground
      · cases hbinds.unique hptop
        exact htop
  obtain ⟨t', hmake', -, -, hsame⟩ := hlocal lib'
    ⟨hbuilt, built_of_gappyAir rfl hlib', find?_gappyAir hlib hlib'⟩ hcounted
  have hfirst : (source f.source).coordinateAt .array 0 1 0 0 = .ok 505 := by
    rw [← hvalue]
    exact map_eq_ok.2 ⟨a, ha, rfl⟩
  have hused : "ps" ∈ Formula.atmosSigma.usedTerms r.terms := by
    rw [hterms]
    decide
  have hlacks : gappyGround.Lacks (-999) := .inr ⟨-999, .inl rfl, by decide⟩
  exact ⟨lib, lib', r, _, t', hlib, hlib', hr, hmake, hmake',
    hmasked gappyGround [0, 0, 1] (-999) (.term hused hps (hnotIdle _)) hmarked hlacks .column,
    hfirst, (hsame .array).trans hfirst⟩

end Examples

end VerticalTransform

end Gridded
