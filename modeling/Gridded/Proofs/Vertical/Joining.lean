import Gridded.Proofs.Vertical.Windows

/-!
# One cut in place of two

Two cuts that never restrict the same dimension can be made one after the other or at once. The
transform accepts both ways or neither, and shows the same.

* `Slice.Joins`, `Cut.Joins`: slices and cuts of which at most one says something about a dimension;
* `Window.fits_iff_of_joins`, `Window.through_of_joins`: the window of the joined cut shows what one
  window shows of the other;
* `VerticalTransform.exists_subset_joins`, `VerticalTransform.alike_of_subset_joins`: the same for
  transforms.
-/

namespace Gridded

namespace Slice

/-- `r` is whichever of two slices is there, and at most one of them is. -/
def Joins (r r₁ r₂ : Option Slice) : Prop := r₁ = r ∧ r₂ = none ∨ r₁ = none ∧ r₂ = r

variable {r r₁ r₂ : Option Slice}

theorem Joins.eq_or (h : Joins r r₁ r₂) : r = r₁.or r₂ := by
  obtain ⟨rfl, rfl⟩ | ⟨rfl, rfl⟩ := h
  · rw [Option.or_none]
  · rw [Option.none_or]

/-- A joined slice fits exactly if the two slices fit one after the other. -/
theorem Joins.below_iff (h : Joins r r₁ r₂) (n : Nat) : (orWhole n r).Below n ↔
    (orWhole n r₁).Below n ∧ (orWhole (orWhole n r₁).len r₂).Below (orWhole n r₁).len := by
  obtain ⟨rfl, rfl⟩ | ⟨rfl, rfl⟩ := h
  · exact (and_iff_left (below_whole none _)).symm
  · exact (and_iff_right (below_whole none n)).symm

/-- A joined slice picks what the second slice picks of the first one. -/
theorem Joins.reads (h : Joins r r₁ r₂) {n : Nat} (hr : (orWhole n r).Below n) :
    (orWhole n r).Reads (orWhole n r₁) (orWhole (orWhole n r₁).len r₂) := by
  obtain ⟨rfl, rfl⟩ | ⟨rfl, rfl⟩ := h
  · refine ⟨below_whole none _, rfl, fun i _ => ?_⟩
    rw [orWhole_none, index_whole]
  · refine ⟨hr, rfl, fun i _ => ?_⟩
    rw [orWhole_none, index_whole]
    rfl

end Slice

/-- The cut says of each dimension what one of two cuts says, and the other one says nothing. -/
structure Cut.Joins (cut cut₁ cut₂ : Cut) : Prop where
  time : Slice.Joins cut.time cut₁.time cut₂.time
  z : Slice.Joins cut.z cut₁.z cut₂.z
  y : Slice.Joins cut.y cut₁.y cut₂.y
  x : Slice.Joins cut.x cut₁.x cut₂.x

theorem Cut.Joins.eq_or {cut cut₁ cut₂ : Cut} (h : cut.Joins cut₁ cut₂) :
    cut = ⟨cut₁.time.or cut₂.time, cut₁.z.or cut₂.z, cut₁.y.or cut₂.y, cut₁.x.or cut₂.x⟩ := by
  rw [← h.time.eq_or, ← h.z.eq_or, ← h.y.eq_or, ← h.x.eq_or]

/-- One of two cuts is empty, or neither they nor the joined cut are. -/
theorem Cut.Joins.empty_or {cut cut₁ cut₂ : Cut} (h : cut.Joins cut₁ cut₂) :
    cut₁ = {} ∧ cut = cut₂ ∨ cut₂ = {} ∧ cut = cut₁ ∨ cut₁ ≠ {} ∧ cut₂ ≠ {} ∧ cut ≠ {} := by
  have hor := h.eq_or
  by_cases h₁ : cut₁ = {}
  · subst h₁
    simp only [Option.none_or] at hor
    exact .inl ⟨rfl, hor⟩
  by_cases h₂ : cut₂ = {}
  · subst h₂
    simp only [Option.or_none] at hor
    exact .inr (.inl ⟨rfl, hor⟩)
  refine .inr (.inr ⟨h₁, h₂, fun hcut => h₁ ?_⟩)
  rw [hcut] at hor
  simp only [Cut.mk.injEq, eq_comm (a := none), Option.or_eq_none_iff] at hor
  obtain ⟨⟨ht, -⟩, ⟨hz, -⟩, ⟨hy, -⟩, hx, -⟩ := hor
  obtain ⟨time, z, y, x⟩ := cut₁
  dsimp only at ht hz hy hx
  rw [ht, hz, hy, hx]

namespace Window

variable {shape : GridShape} {times : Option Nat} {cut cut₁ cut₂ : Cut}

/-- One of two windows that are opened in turn leaves time open. -/
theorem time_of_joins (h : cut.Joins cut₁ cut₂) (shape shape' : GridShape) (times : Option Nat) :
    (opened shape times cut).time = (opened shape times cut₁).time ∧
        (opened shape' ((opened shape times cut₁).seenTimes times) cut₂).time = none ∨
      (opened shape times cut₁).time = none ∧
        (opened shape' ((opened shape times cut₁).seenTimes times) cut₂).time =
          (opened shape times cut).time := by
  obtain ⟨h₁, h₂⟩ | ⟨h₁, h₂⟩ := h.time
  · left
    simp only [opened, h₁, h₂, Option.bind_fun_none, and_self]
  · right
    simp only [opened, h₁, h₂, Option.bind_fun_none, seenTimes, and_self]

/-- The window of a joined cut fits exactly if the windows of the two cuts fit one after the other. -/
theorem fits_iff_of_joins (h : cut.Joins cut₁ cut₂) {w : Window}
    (hw : w = opened shape times cut₁) :
    (opened shape times cut).Fits shape times ↔ w.Fits shape times ∧
      (opened w.shape (w.seenTimes times) cut₂).Fits w.shape (w.seenTimes times) := by
  have htime : TimeFits (opened shape times cut).time times ↔ TimeFits w.time times ∧
      TimeFits (opened w.shape (w.seenTimes times) cut₂).time (w.seenTimes times) := by
    rcases time_of_joins h shape w.shape times with ⟨h₁, h₂⟩ | ⟨h₁, h₂⟩
    · rw [← hw] at h₁ h₂
      rw [h₁, h₂]
      exact (and_iff_left fun s hs => by cases hs).symm
    · rw [← hw] at h₁ h₂
      rw [h₁, h₂, seenTimes, h₁]
      exact (and_iff_right fun s hs => by cases hs).symm
  subst hw
  -- Levels, rows and columns are checked alike, each by its own pair of slices.
  constructor
  · intro hfits
    obtain ⟨hz₁, hz₂⟩ := (h.z.below_iff _).1 hfits.z
    obtain ⟨hy₁, hy₂⟩ := (h.y.below_iff _).1 hfits.y
    obtain ⟨hx₁, hx₂⟩ := (h.x.below_iff _).1 hfits.x
    obtain ⟨ht₁, ht₂⟩ := htime.1 hfits.time
    exact ⟨⟨hz₁, hy₁, hx₁, ht₁⟩, ⟨hz₂, hy₂, hx₂, ht₂⟩⟩
  · rintro ⟨h₁, h₂⟩
    exact ⟨(h.z.below_iff _).2 ⟨h₁.z, h₂.z⟩, (h.y.below_iff _).2 ⟨h₁.y, h₂.y⟩,
      (h.x.below_iff _).2 ⟨h₁.x, h₂.x⟩, htime.2 ⟨h₁.time, h₂.time⟩⟩

/-- The window of a joined cut shows what the window of the second cut shows of the first one. -/
theorem through_of_joins (h : cut.Joins cut₁ cut₂) {w : Window}
    (hw : w = opened shape times cut₁) (hfits : (opened shape times cut).Fits shape times) :
    (opened shape times cut).Through w (opened w.shape (w.seenTimes times) cut₂) := by
  -- Where time is left open, the inner time step is the time step itself.
  have htime := time_of_joins h shape w.shape times
  rw [← hw] at htime
  refine ⟨?_, ?_, ?_, fun n => ?_, fun ts => ?_⟩
  · rw [hw]
    exact h.z.reads hfits.z
  · rw [hw]
    exact h.y.reads hfits.y
  · rw [hw]
    exact h.x.reads hfits.x
  · rcases htime with ⟨h₁, h₂⟩ | ⟨h₁, h₂⟩
    · rw [innerTime_open h₂, ok_bind, innerTime, innerTime, h₁]
    · rw [show w.innerTime = .ok from funext (innerTime_open h₁), bind_ok, innerTime, innerTime, h₂]
  · rcases htime with ⟨h₁, h₂⟩ | ⟨h₁, h₂⟩
    · rw [seenTimes_open h₂, seenTimes, seenTimes, h₁]
    · rw [seenTimes_open h₁ ts, seenTimes, seenTimes, h₂]

end Window

namespace VerticalTransform

open Window

variable {α : Type} [Scalar α] {t t₁ t₂ t' : VerticalTransform α} {cut cut₁ cut₂ : Cut}

/-- A joined cut is accepted exactly if the two cuts are accepted one after the other. -/
theorem exists_subset_joins (ht : t.Made) (h : cut.Joins cut₁ cut₂) :
    (∃ t', t.subset cut = .ok t') ↔
      ∃ t₁, t.subset cut₁ = .ok t₁ ∧ ∃ t₂, t₁.subset cut₂ = .ok t₂ := by
  have hsecond : ∀ {t₁}, t.subset cut₁ = .ok t₁ → ((∃ t₂, t₁.subset cut₂ = .ok t₂) ↔
      (opened t₁.shape t₁.times cut₂).Fits t₁.shape t₁.times) :=
    fun h₁ => exists_subset_iff (ht.subset h₁).fitted
  rw [exists_subset_iff ht.fitted, fits_iff_of_joins h rfl, ← exists_subset_iff ht.fitted]
  constructor
  · rintro ⟨⟨t₁, h₁⟩, hfits⟩
    have halike := alike_of_subset ht.fitted h₁
    refine ⟨t₁, h₁, (hsecond h₁).2 ?_⟩
    rw [halike.shape, halike.times]
    exact hfits
  · rintro ⟨t₁, h₁, h₂⟩
    have halike := alike_of_subset ht.fitted h₁
    have hfits := (hsecond h₁).1 h₂
    rw [halike.shape, halike.times] at hfits
    exact ⟨⟨t₁, h₁⟩, hfits⟩

/-- **A joined cut shows what the two cuts show.** -/
theorem alike_of_subset_joins (ht : t.Made) (h : cut.Joins cut₁ cut₂)
    (h₁ : t.subset cut₁ = .ok t₁) (h₂ : t₁.subset cut₂ = .ok t₂) (h' : t.subset cut = .ok t') :
    t₂.Alike t' := by
  have hfirst : t₁.Alike (view t (opened t.shape t.times cut₁)) := alike_of_subset ht.fitted h₁
  have hsecond := alike_of_subset (ht.subset h₁).fitted h₂
  rw [hfirst.shape, hfirst.times] at hsecond
  have hfits := (exists_subset_iff ht.fitted).1 ⟨t', h'⟩
  exact hsecond.trans ((hfirst.view _).trans
    ((alike_of_through (through_of_joins h rfl hfits)).symm.trans (alike_of_subset ht.fitted h').symm))

end VerticalTransform

end Gridded
