import Gridded.Proofs.Numbers
import Gridded.Proofs.Vertical.Entries

/-!
# Missing numbers

Where a number is missing that counts for a coordinate, the coordinate is missing. What is used of numbers
holds of doubles; that their hyperbolic functions hand on a missing number is assumed, for the one formula
that computes its stretching curve.

* `Column.inputs`, `Column.isNaN_coordinate`: the numbers that a formula takes, each of which it hands on
  if it is missing; `isNaN_stretching` for the stretching curve;
* `Recipe.Cleaned.isNaN`: what is read of a missing entry;
* `Recipe.Columns.isNaN_coordinate`, `Recipe.isNaN_of_uses`: formulas and all transforms.
-/

namespace Gridded

section Formulas

variable {α : Type} [Scalar α] [Scalar.Contagious α]

open Scalar.Contagious Hyperbolic.Contagious

/-- The curve hands on a missing level or control of the surface, and a missing control of the bottom
unless that of the surface is next to zero. -/
theorem isNaN_stretching [Scalar.Ordered α] [Hyperbolic α] [Hyperbolic.Contagious α] {s a b : α}
    (h : Scalar.isNaN s = true ∨ Scalar.isNaN a = true ∨
      Scalar.isNaN b = true ∧ ¬Scalar.abs a < 1e-12) : Scalar.isNaN (stretching s a b) = true := by
  unfold stretching
  split_ifs with hsmall
  · rcases h with hs | ha | ⟨-, hb⟩
    · exact hs
    · exact absurd hsmall (Scalar.Ordered.not_lt_of_isNaN (isNaN_abs a ha) _)
    · exact absurd hsmall hb
  · rcases h with hs | ha | ⟨hb, -⟩
    · refine isNaN_add _ _ (.inl (isNaN_div _ _ (.inl (isNaN_mul _ _ (.inr ?_)))))
      exact isNaN_sinh _ (isNaN_mul _ _ (.inr hs))
    · exact isNaN_add _ _ (.inl (isNaN_div _ _ (.inr (isNaN_sinh _ ha))))
    · exact isNaN_add _ _ (.inr (isNaN_mul _ _ (.inl hb)))

namespace Column

/-- The numbers that the coordinate of a level is computed from, besides a factor to other units. -/
def inputs (c : Column α) (k : Nat) (surface depth : α) : List α :=
  match c with
  | sigma xs top _ => [level xs k, top, surface]
  | hybridPressure offset share _ | hybridHeight offset share =>
    [level offset k, level share k, surface]
  | oceanSigma xs => [level xs k, surface, depth]
  | stretched s curve critical | blended s curve critical =>
    [level s k, level curve k, critical, surface, depth]

attribute [local grind ←] isNaN_add isNaN_sub isNaN_mul isNaN_div

/-- A formula hands on every missing number that it takes. -/
theorem isNaN_coordinate {c : Column α} {k : Nat} {surface depth x : α}
    (hx : x ∈ c.inputs k surface depth) (h : Scalar.isNaN x = true) :
    Scalar.isNaN (c.coordinate k surface depth) = true := by
  cases c <;> simp only [inputs, List.mem_cons, List.not_mem_nil, or_false] at hx <;>
    simp only [coordinate, stretchedShare, blendedShare] <;> grind

end Column

end Formulas

/-! ### Missing entries -/

namespace Recipe

variable {α : Type} [Scalar α] {r : Recipe α} {lib : Library α} {p : GridPoint}

/-- The entry of a term is missing. -/
def LacksTerm (r : Recipe α) (lib : Library α) (p : GridPoint) (formula : Formula) (term : String) :
    Prop :=
  ∃ v x, r.Binds term v ∧ lib.at? v.name ((formula.termKind term).index p v.rank) = some x ∧
    v.Lacks x

variable [Scalar.Contagious α] {formula : Formula} {term : String} {target unit : Option String}

theorem isNaN_clean {v : Variable α} {x : α} (h : v.Lacks x) (factor : α) :
    Scalar.isNaN (clean v.missing factor x) = true := by
  rw [clean, if_pos (Variable.covers_iff.2 h)]
  exact Scalar.Contagious.isNaN_nan

theorem Cleaned.isNaN {kind : TermKind} {z : α} (h : r.Cleaned lib p kind target term z)
    (hkind : formula.termKind term = kind) (hlacks : r.LacksTerm lib p formula term) :
    Scalar.isNaN z = true := by
  obtain ⟨v, x, hbinds, hentry, rfl⟩ := h
  obtain ⟨v', x', hbinds', hentry', hx⟩ := hlacks
  cases hbinds.unique hbinds'
  rw [hkind] at hentry'
  cases hentry.symm.trans hentry'
  exact isNaN_clean hx _

omit [Scalar.Contagious α] in
/-- A number that is not converted is its entry where that is present. -/
theorem Cleaned.eq_of_present [Scalar.Unital α] {kind : TermKind} {z x : α} {v : Variable α}
    (h : r.Cleaned lib p kind none term z) (hbinds : r.Binds term v)
    (hentry : lib.at? v.name (kind.index p v.rank) = some x) (hx : ¬v.Lacks x) : z = x := by
  obtain ⟨v', x', hbinds', hentry', rfl⟩ := h
  cases hbinds.unique hbinds'
  cases hentry.symm.trans hentry'
  have hnumber : Scalar.isNaN x = false := by
    by_contra hnan
    exact hx (.inl (Bool.not_eq_false _ ▸ hnan))
  rw [clean, if_neg (mt Variable.covers_iff.1 hx), unitFactor_none, Scalar.Unital.mul_one x hnumber]

/-- The control of the bottom counts if that of the surface is missing or not next to zero. -/
theorem not_lt_of_not_idle [Scalar.Unital α] (hlib : lib.Built) (hr : r.dataset = lib.toDataset) {a : α}
    (ha : r.number .oceanS "a" none = .ok a) (h : ¬r.Idle lib .oceanS "b") :
    Scalar.isNaN a = true ∨ ¬Scalar.abs a < 1e-12 := by
  have hcleaned := cleaned_number (p := ⟨0, 0, 0, 0⟩) hlib hr ha
  obtain ⟨v, x, hbinds, hentry, ha⟩ := id hcleaned
  by_cases hx : v.Lacks x
  · rw [ha]
    exact .inl (isNaN_clean hx _)
  · rw [hcleaned.eq_of_present hbinds hentry hx]
    exact .inr fun hsmall => h ⟨rfl, rfl, v, x, hbinds, hentry, hx, hsmall⟩

/-- The pressure offset hands on the missing entries of the terms that it is read from. -/
theorem isNaN_pressureOffset (hlib : lib.Built) (hr : r.dataset = lib.toDataset) {offset : List α}
    (h : r.pressureOffset unit = .ok offset) (hk : p.level < offset.length) :
    ∀ term ∈ if r.terms.contains "ap" then ["ap"] else ["a", "p0"],
      r.LacksTerm lib p .hybridSigmaPressure term →
        Scalar.isNaN (Column.level offset p.level) = true := by
  unfold pressureOffset at h
  intro term hterm hlacks
  split_ifs at h hterm
  · cases List.mem_singleton.1 hterm
    exact (cleaned_level hlib hr h hk).isNaN rfl hlacks
  · obtain ⟨reference, hreference, h⟩ := bind_eq_ok.1 h
    obtain ⟨share, hshare, h⟩ := bind_eq_ok.1 h
    cases h
    have hk : p.level < share.length := by simpa using hk
    rw [level_map _ hk]
    refine Scalar.Contagious.isNaN_mul _ _ ?_
    rcases List.mem_pair.1 hterm with rfl | rfl
    · exact .inl ((cleaned_level hlib hr hshare hk).isNaN rfl hlacks)
    · exact .inr ((cleaned_number hlib hr hreference).isNaN rfl hlacks)

variable [Scalar.Ordered α] [Scalar.Unital α] [Hyperbolic α] [Hyperbolic.Contagious α]

/-- A column hands on every missing entry of a term that counts. -/
theorem Columns.isNaN_coordinate (hlib : lib.Built) (hr : r.dataset = lib.toDataset) {c : Column α}
    (h : r.Columns unit formula c) (hk : p.level < c.size) {surface depth : α}
    (hsurface : ∀ term, formula.horizontalTerms.head? = some term →
      r.Cleaned lib p .field unit term surface)
    (hdepth : ∀ term, formula.horizontalTerms.getLast? = some term →
      r.Cleaned lib p .field unit term depth) :
    ∀ term ∈ formula.usedTerms r.terms, ¬r.Idle lib formula term → r.LacksTerm lib p formula term →
      Scalar.isNaN (c.coordinate p.level surface depth) = true := by
  -- What is read of the terms, by their kinds.
  have hlevel : ∀ {term target xs}, r.levels formula term target = .ok xs → xs.length = c.size →
      formula.termKind term = .level → r.LacksTerm lib p formula term →
        Scalar.isNaN (Column.level xs p.level) = true :=
    fun hread hlength hkind => (cleaned_level hlib hr hread (hlength ▸ hk)).isNaN hkind
  have hnumber : ∀ {term target z}, r.number formula term target = .ok z →
      formula.termKind term = .number → r.LacksTerm lib p formula term → Scalar.isNaN z = true :=
    fun hread hkind => (cleaned_number hlib hr hread).isNaN hkind
  have hfirst : ∀ {term}, formula.horizontalTerms.head? = some term →
      formula.termKind term = .field → r.LacksTerm lib p formula term →
        Scalar.isNaN surface = true :=
    fun hterm hkind => (hsurface _ hterm).isNaN hkind
  have hlast : ∀ {term}, formula.horizontalTerms.getLast? = some term →
      formula.termKind term = .field → r.LacksTerm lib p formula term → Scalar.isNaN depth = true :=
    fun hterm hkind => (hdepth _ hterm).isNaN hkind
  -- The terms are taken in the order of the lists of terms, each to where it stands in the column.
  suffices ∀ term ∈ formula.usedTerms r.terms, ¬r.Idle lib formula term →
      r.LacksTerm lib p formula term → ∃ x ∈ c.inputs p.level surface depth, Scalar.isNaN x = true by
    intro term hterm hcounts hlacks
    obtain ⟨x, hx, hnan⟩ := this term hterm hcounts hlacks
    exact Column.isNaN_coordinate hx hnan
  have hcons : ∀ {P : String → Prop} {term terms}, P term → (∀ other ∈ terms, P other) →
      ∀ other ∈ term :: terms, P other := fun h hs => List.forall_mem_cons.2 ⟨h, hs⟩
  have hnil : ∀ {P : String → Prop}, ∀ other ∈ [], P other := fun _ h => by cases h
  cases h with
  | atmosSigma hsigma htop =>
    exact hcons (fun _ h => ⟨_, .head _, hlevel hsigma rfl rfl h⟩) <|
      hcons (fun _ h => ⟨_, .tail _ (.tail _ (.head _)), hfirst rfl rfl h⟩) <|
      hcons (fun _ h => ⟨_, .tail _ (.head _), hnumber htop rfl h⟩) hnil
  | hybridSigmaPressure hoffset hshare hlength =>
    have hoffset := isNaN_pressureOffset hlib hr hoffset (by rw [hlength]; exact hk)
    show ∀ term ∈ if r.terms.contains "ap" then ["ap", "b", "ps"] else ["a", "b", "ps", "p0"], _
    split_ifs at hoffset ⊢
    · exact hcons (fun _ h => ⟨_, .head _, hoffset _ (.head _) h⟩) <|
        hcons (fun _ h => ⟨_, .tail _ (.head _), hlevel hshare rfl rfl h⟩) <|
        hcons (fun _ h => ⟨_, .tail _ (.tail _ (.head _)), hfirst rfl rfl h⟩) hnil
    · exact hcons (fun _ h => ⟨_, .head _, hoffset _ (.head _) h⟩) <|
        hcons (fun _ h => ⟨_, .tail _ (.head _), hlevel hshare rfl rfl h⟩) <|
        hcons (fun _ h => ⟨_, .tail _ (.tail _ (.head _)), hfirst rfl rfl h⟩) <|
        hcons (fun _ h => ⟨_, .head _, hoffset _ (.tail _ (.head _)) h⟩) hnil
  | hybridHeight hoffset hshare hlength =>
    exact hcons (fun _ h => ⟨_, .head _, hlevel hoffset rfl rfl h⟩) <|
      hcons (fun _ h => ⟨_, .tail _ (.head _), hlevel hshare hlength.symm rfl h⟩) <|
      hcons (fun _ h => ⟨_, .tail _ (.tail _ (.head _)), hfirst rfl rfl h⟩) hnil
  | oceanSigma hsigma =>
    exact hcons (fun _ h => ⟨_, .head _, hlevel hsigma rfl rfl h⟩) <|
      hcons (fun _ h => ⟨_, .tail _ (.head _), hfirst rfl rfl h⟩) <|
      hcons (fun _ h => ⟨_, .tail _ (.tail _ (.head _)), hlast rfl rfl h⟩) hnil
  | @oceanS s a b critical hs ha hb hcritical =>
    have hcurve : (Scalar.isNaN (Column.level s p.level) = true ∨ Scalar.isNaN a = true ∨
        Scalar.isNaN b = true ∧ ¬Scalar.abs a < 1e-12) →
        Scalar.isNaN (Column.level (s.map fun s => stretching s a b) p.level) = true := by
      rw [level_map _ hk]
      exact isNaN_stretching
    exact hcons (fun _ h => ⟨_, .head _, hlevel hs rfl rfl h⟩) <|
      hcons (fun _ h => ⟨_, .tail _ (.tail _ (.tail _ (.head _))), hfirst rfl rfl h⟩) <|
      hcons (fun _ h => ⟨_, .tail _ (.tail _ (.tail _ (.tail _ (.head _)))), hlast rfl rfl h⟩) <|
      hcons (fun _ h => ⟨_, .tail _ (.head _), hcurve (.inr (.inl (hnumber ha rfl h)))⟩) <|
      hcons (fun hcounts h => ⟨_, .tail _ (.head _), hcurve <|
        (not_lt_of_not_idle hlib hr ha hcounts).elim (.inr <| .inl ·) fun hlarge =>
          .inr (.inr ⟨hnumber hb rfl h, hlarge⟩)⟩) <|
      hcons (fun _ h => ⟨_, .tail _ (.tail _ (.head _)), hnumber hcritical rfl h⟩) hnil
  | oceanSG1 hs hcurve hlength hcritical | oceanSG2 hs hcurve hlength hcritical =>
    exact hcons (fun _ h => ⟨_, .head _, hlevel hs rfl rfl h⟩) <|
      hcons (fun _ h => ⟨_, .tail _ (.head _), hlevel hcurve hlength.symm rfl h⟩) <|
      hcons (fun _ h => ⟨_, .tail _ (.tail _ (.tail _ (.head _))), hfirst rfl rfl h⟩) <|
      hcons (fun _ h => ⟨_, .tail _ (.tail _ (.tail _ (.tail _ (.head _)))), hlast rfl rfl h⟩) <|
      hcons (fun _ h => ⟨_, .tail _ (.tail _ (.head _)), hnumber hcritical rfl h⟩) hnil

omit [Scalar.Ordered α] [Scalar.Unital α] [Hyperbolic α] [Hyperbolic.Contagious α] in
theorem isNaN_cleared {v : Variable α} {x : α} (h : v.Lacks x) :
    Scalar.isNaN (v.cleared x) = true := by
  have hcovers := Variable.covers_iff.2 h
  unfold Variable.cleared
  split_ifs with hmarks
  · exact Scalar.Contagious.isNaN_nan
  · -- Without marks, only what is not a number is missing.
    rcases h with hnan | ⟨mark, hmark, -⟩
    · exact hnan
    · refine absurd ⟨?_, hcovers⟩ hmarks
      rcases hmark with hmark | hmark <;> simp [Variable.missing, Missing.isSome, hmark]

/-- Where an entry is missing that counts, the coordinate is missing. -/
theorem isNaN_of_uses (hlib : lib.Built) (hr : r.dataset = lib.toDataset) {t : VerticalTransform α}
    (hmake : r.make formula = .ok t) (hp : t.Has r.settings.strictTimeIndex p) {v : Variable α}
    {index : List Nat} {x : α} (huses : r.Uses lib p formula v index)
    (hentry : lib.at? v.name index = some x) (hlacks : v.Lacks x) {a : Tensor α}
    (ha : t.array p.time = .ok a) :
    Scalar.isNaN (a.get3 Scalar.nan p.level p.row p.column) = true := by
  cases huses with
  | stored hv =>
    obtain ⟨f, hf, rfl⟩ := map_eq_ok.1 hmake
    obtain ⟨v', x', hv', hentry', hvalue⟩ :=
      cleared_stored hlib hr hf ha hp.level hp.row hp.column
    cases hv.symm.trans hv'
    cases hentry.symm.trans hentry'
    rw [hvalue]
    exact isNaN_cleared hlacks
  | @term formula term v hterm hbinds hcounts =>
    have hformula : formula ≠ .existingField := by
      rintro rfl
      cases hterm
    obtain ⟨unit, f, rfl, hmakes⟩ := exists_makes hmake hformula
    obtain ⟨surface, depth, hvalue, hsurface, hdepth⟩ :=
      hmakes.exists_cleaned hlib hr hp.level hp.row hp.column ha
    rw [hvalue]
    exact hmakes.column.isNaN_coordinate hlib hr (hmakes.size_eq ▸ hp.level) hsurface hdepth term
      hterm hcounts ⟨v, x, hbinds, hentry, hlacks⟩

end Recipe

end Gridded
