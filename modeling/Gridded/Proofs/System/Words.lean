import Gridded.Proofs.Axis.Words
import Gridded.Proofs.System.Selecting
import Gridded.Proofs.Vertical.Words
import Gridded.System.Word

/-!
# Selections in words

A system is restricted in words as it is restricted exactly, as long as every slice that a selection composes
has a stride that is a word. If one has not, there is no answer.

* `CoordinateSystem.StridesFit`: the strides that a selection composes are words;
* `CoordinateSystem.selectWord_eq_pure`: what is selected in words, so that all that is known of a system
  that is selected exactly holds of it;
* `CoordinateSystem.agrees_selectWord`: an answer in words is the exact answer.
-/

namespace Gridded.CoordinateSystem

open Outcome

variable {α : Type} [Scalar α] {sys sys' : CoordinateSystem α} {s : Selection α}

/-- Each stride that a selection composes is a word: those of the slices by which the axes are cut, and those
of the cut of the transform. -/
structure StridesFit (sys : CoordinateSystem α) (s : Selection α) : Prop where
  axes : ∀ a ∈ sys.axes, ∀ r, sys.restriction s a = some r → a.axis.range.StrideFits r
  transform : ∀ t, sys.transform = some t → sys.cutBy s ≠ {} → t.StridesFit (sys.cutBy s)

/-! ### Choices -/

theorem chooseWord_eq_pure {a : SystemAxis α} {c : Choice α} : chooseWord s a = pure c ↔
    choose s a = .ok c ∧ ∀ r, picked s a = some r → a.axis.range.StrideFits r := by
  have hword : chooseWord s a = answer (ownRange s a) >>= fun range =>
      a.takeWord? range >>= fun kept => pure ⟨a, range, kept⟩ := rfl
  rw [hword, choose_eq_ok]
  simp only [bind_eq_pure, answer_eq_pure, SystemAxis.takeWord?_eq_pure, pure_inj]
  constructor
  · rintro ⟨range, hrange, kept, ⟨hkept, hfits⟩, rfl⟩
    refine ⟨⟨rfl, hrange, hkept⟩, fun r hr => hfits r ?_⟩
    rwa [picked, hrange] at hr
  · rintro ⟨⟨rfl, hrange, hkept⟩, hfits⟩
    refine ⟨_, hrange, _, ⟨hkept, fun r hr => hfits r ?_⟩, rfl⟩
    rw [picked, hrange, hr]

theorem settleWord_eq_pure {choices : List (Choice α)} {c : Choice α} {b : SystemAxis α} :
    settleWord choices c = pure b ↔ settle choices c = .ok b ∧
      (c.axis.axis.dependence = .dependent →
        ∀ r, c.axis.axis.parents.findSome? (rangeOfName choices) = some r →
          c.axis.axis.range.StrideFits r) := by
  unfold settleWord settle
  split_ifs with hdep
  · rw [SystemAxis.takeWord?_eq_pure]
    exact and_congr_right fun _ => ⟨fun h _ => h, fun h => h hdep⟩
  · rw [pure_inj, Except.ok.injEq]
    exact (and_iff_left fun h => absurd h hdep).symm

omit [Scalar α] in
theorem cutTransformWord_eq_pure {t t' : VerticalTransform α} {cut : Cut} :
    cutTransformWord t cut = pure t' ↔
      cutTransform t cut = .ok t' ∧ (cut ≠ {} → t.StridesFit cut) := by
  unfold cutTransformWord cutTransform
  split_ifs with hcut
  · rw [pure_inj, Except.ok.injEq]
    exact (and_iff_left fun h => absurd hcut h).symm
  · rw [VerticalTransform.subsetWord_eq_pure]
    exact and_congr_right fun _ => ⟨fun h _ => h, fun h => h hcut⟩

omit [Scalar α] in
/-- Without a transform nothing is cut. -/
theorem mapM_cutTransformWord_eq_pure {v v' : Option (VerticalTransform α)} {cut : Cut} :
    (v.mapM fun t => cutTransformWord t cut) = pure v' ↔
      (v.mapM fun t => cutTransform t cut) = .ok v' ∧
        ∀ t, v = some t → cut ≠ {} → t.StridesFit cut := by
  rcases v with _ | t
  · show (pure none : Outcome _) = pure v' ↔ Except.ok none = .ok v' ∧ _
    simp [pure_inj]
  · show some <$> cutTransformWord t cut = pure v' ↔ some <$> cutTransform t cut = .ok v' ∧ _
    simp only [map_eq_pure_iff fun _ => cutTransformWord_eq_pure, Option.some.injEq, forall_eq']

theorem mapM_settleWord_eq_pure {choices : List (Choice α)} {axes : List (SystemAxis α)} :
    choices.mapM (settleWord choices) = pure axes ↔ choices.mapM (settle choices) = .ok axes ∧
      ∀ c ∈ choices, c.axis.axis.dependence = .dependent →
        ∀ r, c.axis.axis.parents.findSome? (rangeOfName choices) = some r →
          c.axis.axis.range.StrideFits r :=
  mapM_eq_pure fun _ _ _ => settleWord_eq_pure

theorem mapM_chooseWord_eq_pure {axes : List (SystemAxis α)} {choices : List (Choice α)} :
    axes.mapM (chooseWord s) = pure choices ↔ axes.mapM (choose s) = .ok choices ∧
      ∀ a ∈ axes, ∀ r, picked s a = some r → a.axis.range.StrideFits r :=
  mapM_eq_pure fun _ _ _ => chooseWord_eq_pure

/-- The conditions of both passes together are the one on the slices by which the axes are cut. -/
theorem stridesFit_axes_iff {choices : List (Choice α)}
    (h : List.Forall₂ (fun a c => choose s a = .ok c) sys.axes choices) :
    (∀ a ∈ sys.axes, ∀ r, sys.restriction s a = some r → a.axis.range.StrideFits r) ↔
      (∀ a ∈ sys.axes, ∀ r, picked s a = some r → a.axis.range.StrideFits r) ∧
        ∀ c ∈ choices, c.axis.axis.dependence = .dependent →
          ∀ r, c.axis.axis.parents.findSome? (rangeOfName choices) = some r →
            c.axis.axis.range.StrideFits r := by
  have hname : rangeOfName choices = fun name => (sys.find? name).bind (picked s) :=
    funext (rangeOfName_eq h)
  rw [hname]
  constructor
  · intro hfits
    refine ⟨fun a ha r hr => hfits a ha r ?_, fun c hc hdep r hr => ?_⟩
    · rwa [restriction_of_free (isFree_of_picked hr)]
    · obtain ⟨a, ha, hchoose⟩ := mem_forall₂ h.flip hc
      obtain rfl : c.axis = a := (choose_eq_ok.1 hchoose).1
      exact hfits _ ha r (by rwa [restriction, if_pos hdep])
  · rintro ⟨hpicked, hsettled⟩ a ha r hr
    by_cases hdep : a.axis.dependence = .dependent
    · obtain ⟨c, hc, hchoose⟩ := mem_forall₂ h ha
      obtain rfl : c.axis = a := (choose_eq_ok.1 hchoose).1
      rw [restriction, if_pos hdep] at hr
      exact hsettled c hc hdep r hr
    · rw [restriction, if_neg hdep] at hr
      exact hpicked a ha r hr

/-! ### Selecting -/

/-- **A system is restricted in words** as it is restricted exactly, if all strides fit. -/
theorem selectWord_eq_pure (hdistinct : sys.axes.Pairwise Distinct) :
    sys.selectWord s = pure sys' ↔ sys.select s = .ok sys' ∧ sys.StridesFit s := by
  have hword : sys.selectWord s = sys.axes.mapM (chooseWord s) >>= fun choices =>
      choices.mapM (settleWord choices) >>= fun axes =>
        (sys.transform.mapM fun t => cutTransformWord t (cutOf choices)) >>= fun transform =>
          answer (build (some sys.name) axes transform) := rfl
  have hexact : sys.select s = sys.axes.mapM (choose s) >>= fun choices =>
      choices.mapM (settle choices) >>= fun axes =>
        (sys.transform.mapM fun t => cutTransform t (cutOf choices)) >>= fun transform =>
          build (some sys.name) axes transform := rfl
  rw [hword, hexact]
  simp only [bind_eq_pure, bind_eq_ok, mapM_chooseWord_eq_pure, mapM_settleWord_eq_pure,
    mapM_cutTransformWord_eq_pure, answer_eq_pure]
  constructor
  · rintro ⟨choices, ⟨hc, hpicked⟩, axes, ⟨ha, hsettled⟩, v, ⟨hv, hcut⟩, hbuild⟩
    have hall := mapM_eq_ok.1 hc
    rw [cutOf_eq hall hdistinct] at hcut
    exact ⟨⟨choices, hc, axes, ha, v, hv, hbuild⟩,
      ⟨(stridesFit_axes_iff hall).2 ⟨hpicked, hsettled⟩, hcut⟩⟩
  · rintro ⟨⟨choices, hc, axes, ha, v, hv, hbuild⟩, ⟨haxes, hcut⟩⟩
    have hall := mapM_eq_ok.1 hc
    obtain ⟨hpicked, hsettled⟩ := (stridesFit_axes_iff hall).1 haxes
    rw [← cutOf_eq hall hdistinct] at hcut
    exact ⟨choices, ⟨hc, hpicked⟩, axes, ⟨ha, hsettled⟩, v, ⟨hv, hcut⟩, hbuild⟩

theorem agrees_chooseWord (s : Selection α) (a : SystemAxis α) :
    (chooseWord s a).Agrees (choose s a) :=
  (agrees_answer _).bind fun range => (SystemAxis.agrees_takeWord? a range).bind fun _ => agrees_pure _

theorem agrees_settleWord (choices : List (Choice α)) (c : Choice α) :
    (settleWord choices c).Agrees (settle choices c) := by
  unfold settleWord settle
  split_ifs
  · exact SystemAxis.agrees_takeWord? _ _
  · exact agrees_pure _

omit [Scalar α] in
theorem agrees_cutTransformWord (t : VerticalTransform α) (cut : Cut) :
    (cutTransformWord t cut).Agrees (cutTransform t cut) := by
  unfold cutTransformWord cutTransform
  split_ifs
  · exact agrees_pure t
  · exact t.agrees_subsetWord cut

/-- **An answer in words is the exact answer**, errors included. -/
theorem agrees_selectWord (sys : CoordinateSystem α) (s : Selection α) :
    (sys.selectWord s).Agrees (sys.select s) := by
  refine Agrees.bind (Agrees.mapM fun a _ => agrees_chooseWord s a) fun choices => ?_
  refine Agrees.bind (Agrees.mapM fun c _ => agrees_settleWord choices c) fun axes => ?_
  have htransform : (sys.transform.mapM fun t => cutTransformWord t (cutOf choices)).Agrees
      (sys.transform.mapM fun t => cutTransform t (cutOf choices)) := by
    rcases sys.transform with _ | t
    · exact agrees_pure none
    · exact (agrees_cutTransformWord t (cutOf choices)).map
  exact htransform.bind fun v => agrees_answer _

end Gridded.CoordinateSystem
