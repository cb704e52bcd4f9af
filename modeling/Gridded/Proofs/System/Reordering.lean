import Gridded.Proofs.System.Generations

/-!
# The order of axes

A system is known by the set of its axes. The checks accept every order or none, axes are found by role
and name wherever they stand, and a selection keeps the same of each axis, whether it stands before the
axis that it follows or after it.

* `mapM_perm`: a traversal of a list in another order;
* `CoordinateSystem.filling_perm`, `CoordinateSystem.Consistent.perm`: what does not depend on the order
  of a list of axes;
* `CoordinateSystem.Reordered`: systems that differ in nothing else;
* `CoordinateSystem.SameAnswers`: systems in which the same axes are found;
* `CoordinateSystem.Reordered.restriction_eq`, `CoordinateSystem.Reordered.cutBy_eq`: what a selection
  does to such systems;
* `CoordinateSystem.build_perm`: building and selecting do not depend on the order.
-/

namespace Gridded

/-! ### Lists in another order -/

section Lists

variable {ε α β : Type}

/-- A traversal in another order has the same results in that order. -/
theorem mapM_perm {f : α → Except ε β} {l l' : List α} (h : l.Perm l') {r : List β}
    (hr : l.mapM f = .ok r) : ∃ r', l'.mapM f = .ok r' ∧ r.Perm r' := by
  simp only [mapM_eq_ok] at hr ⊢
  induction h generalizing r with
  | nil =>
    cases hr
    exact ⟨[], .nil, .nil⟩
  | cons a _ ih =>
    obtain ⟨b, bs, hb, hbs, rfl⟩ := List.forall₂_cons_left_iff.1 hr
    obtain ⟨bs', hbs', hperm⟩ := ih hbs
    exact ⟨b :: bs', .cons hb hbs', hperm.cons b⟩
  | swap a₁ a₂ l =>
    obtain ⟨b₂, tail, hb₂, htail, rfl⟩ := List.forall₂_cons_left_iff.1 hr
    obtain ⟨b₁, bs, hb₁, hbs, rfl⟩ := List.forall₂_cons_left_iff.1 htail
    exact ⟨b₁ :: b₂ :: bs, .cons hb₁ (.cons hb₂ hbs), .swap b₁ b₂ bs⟩
  | trans _ _ ih₁ ih₂ =>
    obtain ⟨r₁, hr₁, hperm₁⟩ := ih₁ hr
    obtain ⟨r₂, hr₂, hperm₂⟩ := ih₂ hr₁
    exact ⟨r₂, hr₂, hperm₁.trans hperm₂⟩

/-- What a traversal makes of a member depends on the member alone, and not on its place. -/
theorem getElem?_of_forall₂ {f : α → Except ε β} {l l' : List α} {r r' : List β}
    (h : List.Forall₂ (fun a b => f a = .ok b) l r)
    (h' : List.Forall₂ (fun a b => f a = .ok b) l' r') {i j : Nat} (hij : l[i]? = l'[j]?) :
    r[i]? = r'[j]? := by
  have hget : ∀ {l : List α} {r : List β}, List.Forall₂ (fun a b => f a = .ok b) l r →
      ∀ i : Nat, Option.Rel (fun a b => f a = .ok b) l[i]? r[i]? := by
    intro l r h
    induction h with
    | nil => exact fun i => by simp
    | cons hab _ ih =>
      intro i
      cases i with
      | zero => exact .some hab
      | succ i => exact ih i
  have hi := hget h i
  have hj := hget h' j
  rw [← hij] at hj
  generalize l[i]? = a, r[i]? = b, r'[j]? = b' at hi hj
  cases hi with
  | none =>
    cases hj
    rfl
  | some hb =>
    cases hj with
    | some hb' =>
      cases hb.symm.trans hb'
      rfl

end Lists

namespace CoordinateSystem

variable {α : Type}

/-! ### Axes in another order -/

section Axes

variable {axes axes' : List (SystemAxis α)}

theorem pairwise_distinct_perm (h : axes.Perm axes') (hd : axes.Pairwise Distinct) :
    axes'.Pairwise Distinct :=
  hd.perm h fun hab => Std.Symm.symm _ _ hab

/-- An axis is found by its role wherever it stands. -/
theorem filling_perm (h : axes.Perm axes') (hd : axes.Pairwise Distinct) (role : Role) :
    filling axes role = filling axes' role := by
  refine Option.ext fun a => ?_
  rw [filling_eq_some hd, filling_eq_some (pairwise_distinct_perm h hd), h.mem_iff]

theorem defaultName_perm (h : axes.Perm axes') (hd : axes.Pairwise Distinct) :
    defaultName axes = defaultName axes' := by
  unfold defaultName
  simp only [filling_perm h hd]

/-- Axes that fit together do so in any order. -/
theorem Consistent.perm (h : axes.Perm axes') (hc : Consistent axes) : Consistent axes' where
  distinct := pairwise_distinct_perm h hc.distinct
  dated a ha := hc.dated a (h.mem_iff.2 ha)
  parents a ha parent hparent := by
    obtain ⟨b, hb, hname⟩ := hc.parents a (h.mem_iff.2 ha) parent hparent
    exact ⟨b, h.mem_iff.1 hb, hname⟩
  x := by
    obtain ⟨a, ha⟩ := hc.x
    exact ⟨a, (filling_perm h hc.distinct .x).symm.trans ha⟩
  y := by
    obtain ⟨a, ha⟩ := hc.y
    exact ⟨a, (filling_perm h hc.distinct .y).symm.trans ha⟩

end Axes

/-! ### Systems with the same axes -/

/-- Systems that differ in the order of their axes only. -/
structure Reordered (sys sys' : CoordinateSystem α) : Prop where
  axes : sys.axes.Perm sys'.axes
  name : sys.name = sys'.name
  horizontal : sys.horizontal = sys'.horizontal
  transform : sys.transform = sys'.transform

/-- Systems in which the same axes are found by role and by name, so that they have the same shape and
summary. -/
structure SameAnswers (sys sys' : CoordinateSystem α) : Prop where
  axisOf? : ∀ role, sys.axisOf? role = sys'.axisOf? role
  runTimeAxis? : sys.runTimeAxis? = sys'.runTimeAxis?
  timeAxis? : sys.timeAxis? = sys'.timeAxis?
  find? : ∀ name, sys.find? name = sys'.find? name
  nominalShape : sys.nominalShape = sys'.nominalShape
  summary : sys.summary = sys'.summary

theorem reordered_of_build {name : Option String} {axes axes' : List (SystemAxis α)}
    {transform : Option (VerticalTransform α)} (h : axes.Perm axes') {sys : CoordinateSystem α}
    (hsys : build name axes transform = .ok sys) :
    ∃ sys', build name axes' transform = .ok sys' ∧ Reordered sys sys' := by
  obtain ⟨hc, x, y, hx, hy, rfl⟩ := build_eq_ok.1 hsys
  have hx' : filling axes' .x = some x := (filling_perm h hc.distinct .x).symm.trans hx
  have hy' : filling axes' .y = some y := (filling_perm h hc.distinct .y).symm.trans hy
  refine ⟨_, build_eq_ok.2 ⟨hc.perm h, x, y, hx', hy', rfl⟩, h, ?_, rfl, rfl⟩
  rw [defaultName_perm h hc.distinct]

namespace Reordered

variable {sys sys' : CoordinateSystem α}

theorem axisOf?_eq (h : Reordered sys sys') (hd : sys.axes.Pairwise Distinct) (role : Role) :
    sys.axisOf? role = sys'.axisOf? role :=
  filling_perm h.axes hd role

theorem find?_eq (h : Reordered sys sys') (hd : sys.axes.Pairwise Distinct) (name : String) :
    sys.find? name = sys'.find? name := by
  refine Option.ext fun a => ?_
  rw [find?_eq_some hd, find?_eq_some (pairwise_distinct_perm h.axes hd), h.axes.mem_iff]

theorem dimensions_eq (h : Reordered sys sys') (hd : sys.axes.Pairwise Distinct) :
    sys.dimensions = sys'.dimensions := by
  unfold dimensions
  simp only [h.axisOf?_eq hd]

theorem sameAnswers (h : Reordered sys sys') (hd : sys.axes.Pairwise Distinct) : SameAnswers sys sys' where
  axisOf? := h.axisOf?_eq hd
  runTimeAxis? := by
    unfold runTimeAxis?
    rw [h.axisOf?_eq hd]
  timeAxis? := by
    unfold timeAxis?
    rw [h.axisOf?_eq hd]
  find? := h.find?_eq hd
  nominalShape := by
    unfold nominalShape
    rw [h.dimensions_eq hd]
  summary := by
    unfold summary
    rw [h.dimensions_eq hd]

theorem symm (h : Reordered sys sys') : Reordered sys' sys :=
  ⟨h.axes.symm, h.name.symm, h.horizontal.symm, h.transform.symm⟩

/-! ### Selecting -/

variable [Scalar α] {r : CoordinateSystem α} {s : Selection α}

/-- Each axis is cut by the same slice, wherever it stands and wherever the axes stand that it
follows. -/
theorem restriction_eq (h : Reordered sys sys') (hd : sys.axes.Pairwise Distinct) :
    sys.restriction s = sys'.restriction s := by
  funext a
  unfold restriction
  simp only [h.find?_eq hd]

theorem cutBy_eq (h : Reordered sys sys') (hd : sys.axes.Pairwise Distinct) :
    sys.cutBy s = sys'.cutBy s := by
  unfold cutBy pickedOn
  simp only [h.axisOf?_eq hd]

/-- What a selection makes of a system, it makes of the other one in the other order. -/
theorem exists_selected (h : Reordered sys sys') (hc : Consistent sys.axes)
    (hr : Selected sys r s) : ∃ r', Selected sys' r' s ∧ Reordered r r' := by
  obtain ⟨x, y, hx, hy, hgrid⟩ := hr.grid
  have htakes := hr.takes
  rw [h.restriction_eq hc.distinct, ← mapM_eq_ok] at htakes
  obtain ⟨axes, haxes, hperm⟩ := mapM_perm h.axes htakes
  have hd : r.axes.Pairwise Distinct := (hr.consistent hc).distinct
  refine ⟨⟨r.name, axes, r.horizontal, r.transform⟩, ⟨?_, mapM_eq_ok.1 haxes, ?_, ?_, ?_⟩,
    hperm, rfl, rfl, rfl⟩
  · exact fun a ha => hr.picks a (h.axes.mem_iff.2 ha)
  · rw [← h.transform, ← h.cutBy_eq hc.distinct]
    exact hr.transform
  · exact ⟨x, y, (filling_perm hperm hd .x).symm.trans hx, (filling_perm hperm hd .y).symm.trans hy,
      hgrid⟩
  · rw [← h.name]
    exact hr.name

/-- A selection succeeds on both systems or on neither. -/
theorem exists_select (h : Reordered sys sys') (hc : Consistent sys.axes)
    (hr : ∃ r, sys.select s = .ok r) : ∃ r', sys'.select s = .ok r' := by
  obtain ⟨r, hr⟩ := hr
  obtain ⟨r', hr', -⟩ := h.exists_selected hc ((select_eq_ok hc).1 hr)
  exact ⟨r', (select_eq_ok (hc.perm h.axes)).2 hr'⟩

/-- What is kept of an axis stands where the axis stood. -/
theorem getElem?_axes_eq {r' : CoordinateSystem α} (h : Reordered sys sys')
    (hd : sys.axes.Pairwise Distinct) (hr : Selected sys r s) (hr' : Selected sys' r' s) {i j : Nat}
    (hij : sys.axes[i]? = sys'.axes[j]?) : r.axes[i]? = r'.axes[j]? := by
  have htakes' := hr'.takes
  rw [← h.restriction_eq hd] at htakes'
  exact getElem?_of_forall₂ hr.takes htakes' hij

end Reordered

/-! ### Building and selecting -/

variable [Scalar α]

/-- The order of the axes does not matter. A system is built from them in every order or in none, and
the systems give the same answers. A selection succeeds on both or on neither, keeps the same of each axis, and cuts
the transform in the same way. -/
theorem build_perm {axes axes' : List (SystemAxis α)} (h : axes.Perm axes') (name : Option String)
    (transform : Option (VerticalTransform α)) :
    ((∃ sys, build name axes transform = .ok sys) ↔ ∃ sys', build name axes' transform = .ok sys') ∧
    ∀ sys sys', build name axes transform = .ok sys → build name axes' transform = .ok sys' →
      Reordered sys sys' ∧ SameAnswers sys sys' ∧
      ∀ s, ((∃ r, sys.select s = .ok r) ↔ ∃ r', sys'.select s = .ok r') ∧
        ∀ r r', sys.select s = .ok r → sys'.select s = .ok r' →
          Reordered r r' ∧ SameAnswers r r' ∧
          ∀ i j : Nat, sys.axes[i]? = sys'.axes[j]? → r.axes[i]? = r'.axes[j]? := by
  refine ⟨⟨?_, ?_⟩, fun sys sys' hsys hsys' => ?_⟩
  · rintro ⟨sys, hsys⟩
    obtain ⟨sys', hsys', -⟩ := reordered_of_build h hsys
    exact ⟨sys', hsys'⟩
  · rintro ⟨sys', hsys'⟩
    obtain ⟨sys, hsys, -⟩ := reordered_of_build h.symm hsys'
    exact ⟨sys, hsys⟩
  have hc : Consistent sys.axes := Built.consistent ⟨_, _, _, hsys⟩
  have hreordered : Reordered sys sys' := by
    obtain ⟨sys'', hsys'', hreordered⟩ := reordered_of_build h hsys
    cases hsys'.symm.trans hsys''
    exact hreordered
  have hc' : Consistent sys'.axes := hc.perm hreordered.axes
  refine ⟨hreordered, hreordered.sameAnswers hc.distinct, fun s => ⟨⟨?_, ?_⟩, fun r r' hr hr' => ?_⟩⟩
  · exact hreordered.exists_select hc
  · exact hreordered.symm.exists_select hc'
  have hselected := (select_eq_ok hc).1 hr
  have hselected' := (select_eq_ok hc').1 hr'
  have hkept : Reordered r r' := by
    obtain ⟨r'', hr'', hkept⟩ := hreordered.exists_selected hc hselected
    cases hr'.symm.trans ((select_eq_ok hc').2 hr'')
    exact hkept
  refine ⟨hkept, hkept.sameAnswers (hselected.consistent hc).distinct, fun i j hij => ?_⟩
  exact hreordered.getElem?_axes_eq hc.distinct hselected hselected' hij

/-- The height of a balloon may be given after the age that it depends on, or before. -/
theorem build_perm_ascent :
    ∃ sys sys' r r', ascent = .ok sys ∧ build (some "ascent") sys.axes.reverse none = .ok sys' ∧
      sys.axes ≠ sys'.axes ∧ sys.select { latestTime := true } = .ok r ∧
      sys'.select { latestTime := true } = .ok r' ∧ Reordered r r' ∧ SameAnswers r r' := by
  have hlatest : ∀ sys sys' r r', ascent = .ok sys →
      build (some "ascent") sys.axes.reverse none = .ok sys' →
      sys.select { latestTime := true } = .ok r → sys'.select { latestTime := true } = .ok r' →
      Reordered r r' ∧ SameAnswers r r' := by
    intro sys sys' r r' hsys hsys' hr hr'
    have hbuild : build (some "ascent") sys.axes none = .ok sys := by
      obtain rfl : _ = sys := Except.ok.inj hsys
      rfl
    have hperm : sys.axes.Perm sys.axes.reverse := (List.reverse_perm _).symm
    obtain ⟨-, -, hselect⟩ := (build_perm hperm _ none).2 sys sys' hbuild hsys'
    obtain ⟨hreordered, hanswers, -⟩ := (hselect _).2 r r' hr hr'
    exact ⟨hreordered, hanswers⟩
  have hne : ∀ sys sys', ascent = .ok sys →
      build (some "ascent") sys.axes.reverse none = .ok sys' → sys.axes ≠ sys'.axes := by
    intro sys sys' hsys hsys' heq
    have hnames : sys.axes.map SystemAxis.name = sys'.axes.map SystemAxis.name := congrArg _ heq
    obtain rfl : _ = sys := Except.ok.inj hsys
    obtain rfl : _ = sys' := Except.ok.inj hsys'
    revert hnames
    decide
  exact ⟨_, _, _, _, rfl, rfl, hne _ _ rfl rfl, rfl, rfl, hlatest _ _ _ _ rfl rfl rfl rfl⟩

end CoordinateSystem

end Gridded
