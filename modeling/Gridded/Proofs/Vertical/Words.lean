import Gridded.Proofs.Slice.Overflow
import Gridded.Proofs.Vertical.Windows
import Gridded.Vertical.Word

/-!
# Windows cut in words

A window is cut in words as it is cut exactly, as long as the strides of the composed slices are words. If one
of them is not, there is no answer.

* `Window.StridesFit`, `VerticalTransform.StridesFit`: the strides of a cut through a window are words;
* `Window.composeWord_eq_pure`, `VerticalTransform.subsetWord_eq_pure`: what is cut in words;
* `VerticalTransform.agrees_subsetWord`: an answer in words is the exact answer.
-/

namespace Gridded

open Outcome

namespace Window

variable {w : Window} {cut c : Cut}

/-- Each stride of a cut through the window is a word. -/
structure StridesFit (w : Window) (cut : Cut) : Prop where
  time : ∀ s sub, w.time = some s → cut.time = some sub → s.StrideFits sub
  z : ∀ sub, cut.z = some sub → w.z.StrideFits sub
  y : ∀ sub, cut.y = some sub → w.y.StrideFits sub
  x : ∀ sub, cut.x = some sub → w.x.StrideFits sub

theorem cutTimeWord_eq_pure {sub r : Option Slice} : w.cutTimeWord sub = pure r ↔
    w.cutTime sub = .ok r ∧ ∀ s t, w.time = some s → sub = some t → s.StrideFits t := by
  rcases sub with _ | t
  · rw [cutTime_none]
    rcases hw : w.time with _ | s <;> simp [cutTimeWord, hw, pure_inj]
  · rcases hw : w.time with _ | s
    · rw [cutTime_open hw]
      simp [cutTimeWord, hw, pure_inj]
    · rw [cutTime_slice hw]
      simp only [cutTimeWord, hw, map_eq_pure_iff fun _ => Slice.composeWord_eq_pure, Option.some.injEq]
      exact and_congr_right fun _ => ⟨fun h _ _ hs ht => hs ▸ ht ▸ h, fun h => h s t rfl rfl⟩

theorem agrees_cutTimeWord (w : Window) (sub : Option Slice) :
    (w.cutTimeWord sub).Agrees (w.cutTime sub) := by
  rcases sub with _ | t
  · rw [cutTime_none, cutTimeWord]
    exact agrees_pure w.time
  · rcases hw : w.time with _ | s
    · rw [cutTime_open hw]
      simp only [cutTimeWord, hw]
      exact agrees_pure (some t)
    · rw [cutTime_slice hw]
      simp only [cutTimeWord, hw]
      exact (Slice.agrees_composeWord s t).map

theorem composeWord_eq_pure :
    w.composeWord cut = pure c ↔ w.compose cut = .ok c ∧ w.StridesFit cut := by
  rw [compose_eq_ok]
  simp only [composeWord, bind_eq_pure, pure_inj, cutTimeWord_eq_pure, Slice.composeWord?_eq_pure]
  constructor
  · rintro ⟨time, ⟨ht, htime⟩, z, ⟨hz, hzf⟩, y, ⟨hy, hyf⟩, x, ⟨hx, hxf⟩, rfl⟩
    exact ⟨⟨time, z, y, x, ht, hz, hy, hx, rfl⟩, ⟨htime, hzf, hyf, hxf⟩⟩
  · rintro ⟨⟨time, z, y, x, ht, hz, hy, hx, rfl⟩, ⟨htime, hzf, hyf, hxf⟩⟩
    exact ⟨time, ⟨ht, htime⟩, z, ⟨hz, hzf⟩, y, ⟨hy, hyf⟩, x, ⟨hx, hxf⟩, rfl⟩

theorem agrees_composeWord (w : Window) (cut : Cut) : (w.composeWord cut).Agrees (w.compose cut) := by
  refine (w.agrees_cutTimeWord cut.time).bind fun time => ?_
  refine (Slice.agrees_composeWord? w.z cut.z).bind fun z => ?_
  refine (Slice.agrees_composeWord? w.y cut.y).bind fun y => ?_
  exact (Slice.agrees_composeWord? w.x cut.x).bind fun x => agrees_pure _

end Window

namespace VerticalTransform

variable {α : Type} {t t' : VerticalTransform α} {cut : Cut}

/-- Each stride of a cut of the transform is a word. The first window is opened with the slices of the cut. -/
def StridesFit : VerticalTransform α → Cut → Prop
  | source _, _ => True
  | view _ window, cut => window.StridesFit cut

/-- **A transform is cut in words** as it is cut exactly, if the strides fit. -/
theorem subsetWord_eq_pure : t.subsetWord cut = pure t' ↔ t.subset cut = .ok t' ∧ t.StridesFit cut := by
  cases t with
  | source s =>
    show answer (window (source s) cut) = pure t' ↔ window (source s) cut = .ok t' ∧ True
    rw [answer_eq_pure, and_true]
  | view inner w =>
    have hsubset : (view inner w).subset cut = w.compose cut >>= inner.window := rfl
    have hword : (view inner w).subsetWord cut =
        w.composeWord cut >>= fun c => answer (inner.window c) := rfl
    rw [hsubset, hword, StridesFit]
    simp only [bind_eq_pure, bind_eq_ok, answer_eq_pure, Window.composeWord_eq_pure]
    constructor
    · rintro ⟨c, ⟨hc, hfits⟩, h⟩
      exact ⟨⟨c, hc, h⟩, hfits⟩
    · rintro ⟨⟨c, hc, h⟩, hfits⟩
      exact ⟨c, ⟨hc, hfits⟩, h⟩

theorem agrees_subsetWord (t : VerticalTransform α) (cut : Cut) :
    (t.subsetWord cut).Agrees (t.subset cut) := by
  cases t with
  | source s => exact agrees_answer _
  | view inner w => exact (w.agrees_composeWord cut).bind fun c => agrees_answer _

end VerticalTransform

end Gridded
