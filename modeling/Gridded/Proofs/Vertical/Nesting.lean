import Gridded.Proofs.Vertical.Words

/-!
# Nested windows

What is seen through a window can be cut in two ways. Either the slices of the cut are composed with
those of the window, or a second window is opened on the first one. Both ways accept the same cuts and
show the same, except that only the first way needs the products of the strides.

* `Slice.indexAt`, `Cut.timeAt`: the index to which a slice leads, if there is one;
* `VerticalTransform.Covers`: the indices at which a transform has a coordinate;
* `VerticalTransform.coordinateAt_of_window`: where a window looks up a coordinate;
* `VerticalTransform.subset_alike_window`: the two ways agree, and lead from the second slices to the
  first ones.
-/

namespace Gridded

/-- The index at a position of a slice, which without a slice is the position itself. -/
def Slice.indexAt : Option Slice → Nat → Nat
  | none, i => i
  | some s, i => s.index i

theorem Slice.index_orWhole (n : Nat) (s : Option Slice) (i : Nat) :
    (Slice.orWhole n s).index i = Slice.indexAt s i := by
  cases s with
  | none => exact Slice.index_whole none n i
  | some s => rfl

/-- The time step that is seen at an index, where `times` are those of the grid. Without time steps
there is no time to restrict. -/
def Cut.timeAt (cut : Cut) (times : Option Nat) (n : Nat) : Nat :=
  if times.isSome then Slice.indexAt cut.time n else n

namespace Window

variable {shape : GridShape} {times : Option Nat} {cut : Cut} {n : Nat}

theorem innerTime_opened (hn : ∀ m, (opened shape times cut).seenTimes times = some m → n < m) :
    (opened shape times cut).innerTime n = .ok (cut.timeAt times n) := by
  rcases times with _ | m
  · exact innerTime_open rfl n
  · rcases hcut : cut.time with _ | s
    · rw [Cut.timeAt, hcut]
      exact innerTime_open hcut n
    · have hs : (opened shape (some m) cut).time = some s := hcut
      have hlt : n < s.len := hn s.len (by rw [seenTimes, hs])
      rw [innerTime_slice hs, if_pos hlt, Cut.timeAt, hcut]
      rfl

/-- The time step that is seen is one of the grid. -/
theorem timeAt_lt (hfits : TimeFits (opened shape times cut).time times)
    (hn : ∀ m, (opened shape times cut).seenTimes times = some m → n < m) {m : Nat}
    (hm : times = some m) : cut.timeAt times n < m := by
  subst hm
  rcases hcut : cut.time with _ | s
  · rw [Cut.timeAt, hcut]
    exact hn m (by rw [seenTimes, show (opened shape (some m) cut).time = none from hcut])
  · have hs : (opened shape (some m) cut).time = some s := hcut
    obtain ⟨_, hlen, hbelow⟩ := hfits s hs
    cases hlen
    rw [Cut.timeAt, hcut]
    exact hbelow n (hn s.len (by rw [seenTimes, hs]))

theorem isSome_seenTimes (hfits : TimeFits (opened shape times cut).time times) :
    ((opened shape times cut).seenTimes times).isSome = times.isSome := by
  rw [seenTimes]
  rcases hs : (opened shape times cut).time with _ | s
  · rfl
  · obtain ⟨m, rfl, -⟩ := hfits s hs
    rfl

end Window

namespace VerticalTransform

open Window Outcome

variable {α : Type} {t t' : VerticalTransform α} {cut : Cut} {n k j i : Nat}

/-- There is a coordinate at a time step, a level, a row and a column. Without time steps the first of
these does not matter. -/
structure Covers (t : VerticalTransform α) (n k j i : Nat) : Prop where
  time : ∀ m, t.times = some m → n < m
  level : k < t.shape.levels
  row : j < t.shape.rows
  column : i < t.shape.columns

/-- A window shows what is there. -/
theorem Covers.of_window (hc : t'.Covers n k j i) (h : t.window cut = .ok t') :
    t.Covers (cut.timeAt t.times n) (Slice.indexAt cut.z k) (Slice.indexAt cut.y j)
      (Slice.indexAt cut.x i) := by
  obtain ⟨rfl, hfits⟩ := window_eq_ok.1 h
  refine ⟨fun m hm => timeAt_lt hfits.time hc.time hm, ?_, ?_, ?_⟩
  · rw [← Slice.index_orWhole t.shape.levels]
    exact hfits.z k hc.level
  · rw [← Slice.index_orWhole t.shape.rows]
    exact hfits.y j hc.row
  · rw [← Slice.index_orWhole t.shape.columns]
    exact hfits.x i hc.column

theorem isSome_times_of_window (h : t.window cut = .ok t') : t'.times.isSome = t.times.isSome := by
  obtain ⟨rfl, hfits⟩ := window_eq_ok.1 h
  exact isSome_seenTimes hfits.time

theorem timeAt_of_window (h : t.window cut = .ok t') (cut' : Cut) :
    cut'.timeAt t'.times n = cut'.timeAt t.times n := by
  rw [Cut.timeAt, Cut.timeAt, isSome_times_of_window h]

variable [Scalar α]

/-- A coordinate is seen through a window where the slices of the cut lead. -/
theorem coordinateAt_of_window (h : t.window cut = .ok t') (hc : t'.Covers n k j i)
    (lookup : Lookup) : t'.coordinateAt lookup n k j i =
      t.coordinateAt lookup (cut.timeAt t.times n) (Slice.indexAt cut.z k)
        (Slice.indexAt cut.y j) (Slice.indexAt cut.x i) := by
  obtain ⟨rfl, -⟩ := window_eq_ok.1 h
  rw [coordinateAt_view lookup n hc.level hc.row hc.column, innerTime_opened hc.time, ok_bind]
  simp only [opened, Slice.index_orWhole]

/-- **Cutting a window is opening a window on it.** The cuts that are accepted as windows are accepted as
cuts if the products of the strides fit into words. Otherwise there is no answer, though the window can be
opened. What both show has the same extent and gives the same answers: the coordinates of the grid behind,
at the indices to which the second slices and then the first ones lead. -/
theorem subset_alike_window {t₁ : VerticalTransform α} {cut₁ : Cut}
    (h : t.window cut₁ = .ok t₁) (cut₂ : Cut) :
    ((∃ a, t₁.subsetWord cut₂ = pure a) ↔
        (∃ b, t₁.window cut₂ = .ok b) ∧ t₁.StridesFit cut₂) ∧
      ((∃ b, t₁.window cut₂ = .ok b) → ¬t₁.StridesFit cut₂ → t₁.subsetWord cut₂ = brokenOff) ∧
      ∀ a b, t₁.subsetWord cut₂ = pure a → t₁.window cut₂ = .ok b →
        a.Alike b ∧
          ∀ lookup n k j i, a.Covers n k j i → a.coordinateAt lookup n k j i =
            t.coordinateAt lookup (cut₁.timeAt t.times (cut₂.timeAt t.times n))
              (Slice.indexAt cut₁.z (Slice.indexAt cut₂.z k))
              (Slice.indexAt cut₁.y (Slice.indexAt cut₂.y j))
              (Slice.indexAt cut₁.x (Slice.indexAt cut₂.x i)) := by
  have hfitted := fitted_of_window h
  have hexists : (∃ a, t₁.subset cut₂ = .ok a) ↔ ∃ b, t₁.window cut₂ = .ok b := by
    rw [exists_subset_iff hfitted]
    simp only [window_eq_ok, exists_eq_left]
  refine ⟨?_, fun hb hwide => ?_, ?_⟩
  · simp only [subsetWord_eq_pure, exists_and_right, hexists]
  · obtain ⟨a, ha⟩ := hexists.2 hb
    have hagrees := t₁.agrees_subsetWord cut₂
    rw [ha] at hagrees
    exact hagrees.eq_brokenOff fun hpure => hwide (subsetWord_eq_pure.1 hpure).2
  · intro a b ha hb
    obtain ⟨ha, -⟩ := subsetWord_eq_pure.1 ha
    have halike : a.Alike b := by
      obtain ⟨rfl, -⟩ := window_eq_ok.1 hb
      exact alike_of_subset hfitted ha
    refine ⟨halike, fun lookup n k j i hc => ?_⟩
    have hcb : b.Covers n k j i := by
      obtain ⟨htime, hk, hj, hi⟩ := hc
      rw [halike.times] at htime
      rw [halike.shape] at hk hj hi
      exact ⟨htime, hk, hj, hi⟩
    have hc₁ := hcb.of_window hb
    rw [timeAt_of_window h] at hc₁
    rw [halike.coordinateAt, coordinateAt_of_window hb hcb, timeAt_of_window h,
      coordinateAt_of_window h hc₁]

/-- Coordinates that tell their time, level, row and column. -/
def numbered : VerticalSource ℚ where
  name := "index"
  formula := .existingField
  unit := some "m"
  shape := ⟨4, 5, 6⟩
  times := some 3
  array time := .ok (Tensor.generate3 4 5 6 fun k j i => 1000 * time + 100 * k + 10 * j + i)
  profile time x y := .ok ((List.range 4).map fun k => 1000 * time + 100 * k + 10 * y + x)
  listing := "index"

/-- The second of the last two times, the second level, and the third of every other row. -/
theorem subset_alike_window_numbered :
    ∃ t₁ a b, (source numbered).window
        { time := some ⟨none, 1, 2, 1⟩, y := some ⟨none, 0, 3, 2⟩ } = .ok t₁ ∧
      t₁.subsetWord { time := some (.single 1), z := some ⟨none, 1, 2, 1⟩, y := some (.single 2) } =
        pure a ∧
      t₁.window { time := some (.single 1), z := some ⟨none, 1, 2, 1⟩, y := some (.single 2) } =
        .ok b ∧
      a.Alike b ∧ a.coordinateAt .array 0 0 0 0 = .ok 2140 := by
  have hwindow : (source numbered).window
      { time := some ⟨none, 1, 2, 1⟩, y := some ⟨none, 0, 3, 2⟩ } = .ok _ := rfl
  obtain ⟨-, -, hsame⟩ := subset_alike_window hwindow
    { time := some (.single 1), z := some ⟨none, 1, 2, 1⟩, y := some (.single 2) }
  obtain ⟨halike, hcoord⟩ := hsame _ _ rfl rfl
  refine ⟨_, _, _, hwindow, rfl, rfl, halike, (hcoord .array 0 0 0 0 ?_).trans ?_⟩
  · refine ⟨fun m hm => ?_, by decide, by decide, by decide⟩
    cases hm
    exact Nat.one_pos
  · show Except.ok ((Tensor.generate3 4 5 6 fun k j i =>
      1000 * ((2 : Nat) : ℚ) + 100 * k + 10 * j + i).get3 Scalar.nan 1 4 0) = .ok 2140
    rw [Tensor.get3_generate3 (by omega) (by omega) (by omega)]
    norm_num

/-- The first level in very wide steps, and again the first of these. A second window can be opened, but
the product of the steps is too large for a cut. -/
theorem not_subset_alike_window_numbered :
    ∃ wide double t₁ b, Slice.strided 0 0 9223372036854775808 = .ok wide ∧
      Slice.strided 0 0 2 = .ok double ∧
      (source numbered).window { z := some wide } = .ok t₁ ∧
      t₁.window { z := some double } = .ok b ∧ t₁.subsetWord { z := some double } = brokenOff ∧
      ¬((∃ a, t₁.subsetWord { z := some double } = pure a) ↔
        ∃ b, t₁.window { z := some double } = .ok b) := by
  refine ⟨_, _, _, _, rfl, rfl, rfl, rfl, rfl, fun h => ?_⟩
  obtain ⟨a, ha⟩ := h.2 ⟨_, rfl⟩
  cases ha

end VerticalTransform

end Gridded
