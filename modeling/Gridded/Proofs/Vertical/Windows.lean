import Gridded.Proofs.Slice.Composition
import Gridded.Vertical.Transform

/-!
# Windows on vertical transforms

A window shows the entries at the indices of its slices, as long as the slices pick what is there. A
window on a window shows what one window shows whose slices are composed.

* `Window.Fits`, `Window.opened`: the windows that fit a grid, and the one that a cut opens;
  `Window.ofCut_eq_ok` says that `ofCut` opens it exactly if it fits;
* `Window.Through`: a window that shows what one window shows of another;
* `VerticalTransform.Made`: the transforms that are made from sources by cutting, all of whose windows
  fit (`VerticalTransform.Made.fits`);
* `VerticalTransform.Alike`: transforms with the same extent and the same answers;
  `VerticalTransform.alike_of_subset` says that a cut gives what is seen through the window it opens;
* `VerticalTransform.coordinateAt`: single coordinates, looked up in either way;
* `VerticalTransform.Shows`: a transform that shows what is seen of another through a window.
-/

namespace Gridded

/-! ### Arrays -/

section Arrays

variable {α : Type}

theorem Tensor.generate3_congr {layers rows columns : Nat} {f g : Nat → Nat → Nat → α}
    (h : ∀ k < layers, ∀ j < rows, ∀ i < columns, f k j i = g k j i) :
    Tensor.generate3 layers rows columns f = Tensor.generate3 layers rows columns g := by
  unfold Tensor.generate3 Tensor.generate
  congr 2
  funext ⟨p, hp⟩
  simp only [Tensor.count, List.foldr_cons, List.foldr_nil, Nat.mul_one] at hp
  -- A position in the array has its layer, its row and its column in the array.
  have hrest : 0 < rows * columns := Nat.pos_of_mul_pos_left (Nat.zero_lt_of_lt hp)
  have hrows : 0 < rows := Nat.pos_of_mul_pos_right hrest
  have hcolumns : 0 < columns := Nat.pos_of_mul_pos_left hrest
  exact h _ (Nat.div_lt_of_lt_mul (Nat.mul_comm _ _ ▸ hp)) _ (Nat.mod_lt _ hrows) _
    (Nat.mod_lt _ hcolumns)

end Arrays

/-! ### Windows -/

namespace Window

/-- A slice of time, if there is one, picks time steps that are there. -/
def TimeFits (time : Option Slice) (times : Option Nat) : Prop :=
  ∀ s, time = some s → ∃ n, times = some n ∧ s.Below n

/-- Every slice picks indices that are there. -/
structure Fits (w : Window) (shape : GridShape) (times : Option Nat) : Prop where
  z : w.z.Below shape.levels
  y : w.y.Below shape.rows
  x : w.x.Below shape.columns
  time : TimeFits w.time times

/-- The window that a cut opens. Without time steps there is no time to restrict. -/
def opened (shape : GridShape) (times : Option Nat) (cut : Cut) : Window where
  time := times.bind fun _ => cut.time
  z := .orWhole shape.levels cut.z
  y := .orWhole shape.rows cut.y
  x := .orWhole shape.columns cut.x

variable {shape : GridShape} {times : Option Nat} {cut : Cut} {w : Window}

theorem restrict_eq_ok {n : Nat} {s : Option Slice} {r : Slice} :
    restrict n s = .ok r ↔ r = .orWhole n s ∧ r.Below n := by
  cases s with
  | none =>
    simp only [restrict, Except.ok.injEq, Slice.orWhole_none]
    constructor
    · rintro rfl
      exact ⟨rfl, Slice.below_whole none n⟩
    · exact fun h => h.1.symm
  | some s =>
    simp only [restrict, bind_eq_ok, pure_eq_ok, Slice.orWhole_some]
    constructor
    · rintro ⟨⟨⟩, hs, rfl⟩
      exact ⟨rfl, Slice.within_eq_ok.1 hs⟩
    · rintro ⟨rfl, hs⟩
      exact ⟨(), Slice.within_eq_ok.2 hs, rfl⟩

/-- Cutting a grid opens the window of the cut, exactly if it fits. -/
theorem ofCut_eq_ok :
    ofCut shape times cut = .ok w ↔ w = opened shape times cut ∧ w.Fits shape times := by
  unfold ofCut
  simp only [bind_eq_ok, restrict_eq_ok]
  constructor
  · rintro ⟨z, ⟨hz, hzb⟩, y, ⟨hy, hyb⟩, x, ⟨hx, hxb⟩, h⟩
    rcases times with _ | n
    · cases h
      exact ⟨by rw [opened, hz, hy, hx]; rfl, hzb, hyb, hxb, fun s hs => by cases hs⟩
    · rcases hc : cut.time with _ | s
      · rw [hc] at h
        cases h
        exact ⟨by rw [opened, hz, hy, hx, hc]; rfl, hzb, hyb, hxb, fun s hs => by cases hs⟩
      · rw [hc] at h
        obtain ⟨⟨⟩, hs, h⟩ := bind_eq_ok.1 h
        cases h
        refine ⟨by rw [opened, hz, hy, hx, hc]; rfl, hzb, hyb, hxb, fun s' hs' => ?_⟩
        cases hs'
        exact ⟨n, rfl, Slice.within_eq_ok.1 hs⟩
  · rintro ⟨rfl, hfits⟩
    refine ⟨_, ⟨rfl, hfits.z⟩, _, ⟨rfl, hfits.y⟩, _, ⟨rfl, hfits.x⟩, ?_⟩
    rcases times with _ | n
    · rfl
    · rcases hc : cut.time with _ | s
      · simp [opened, hc, pure, Except.pure]
      · obtain ⟨_, hn, hs⟩ := hfits.time s hc
        cases hn
        simp [opened, hc, Slice.within_eq_ok.2 hs, pure, Except.pure]

/-! ### Windows on windows -/

/-- The number of time steps that are seen. -/
def seenTimes (w : Window) (times : Option Nat) : Option Nat :=
  match w.time with
  | some s => some s.len
  | none => times

/-- `v` shows what `u` shows of what `w` shows. -/
structure Through (v w u : Window) : Prop where
  z : v.z.Reads w.z u.z
  y : v.y.Reads w.y u.y
  x : v.x.Reads w.x u.x
  innerTime : ∀ time, v.innerTime time = u.innerTime time >>= w.innerTime
  seenTimes : ∀ times, v.seenTimes times = u.seenTimes (w.seenTimes times)

theorem Through.shape_eq {v u : Window} (h : v.Through w u) : v.shape = u.shape := by
  rw [shape, h.z.len, h.y.len, h.x.len, shape]

theorem cutTime_none : w.cutTime none = .ok w.time := by
  cases h : w.time <;> simp [cutTime, h]

theorem cutTime_open (h : w.time = none) (s : Slice) : w.cutTime (some s) = .ok (some s) := by
  simp [cutTime, h]

theorem cutTime_slice {s₀ : Slice} (h : w.time = some s₀) (s : Slice) :
    w.cutTime (some s) = some <$> s₀.compose s := by
  simp [cutTime, h]

/-- A cut of the time that is seen is possible exactly if it fits. -/
theorem exists_cutTime_iff (hw : TimeFits w.time times) (sub : Option Slice) :
    (∃ r, w.cutTime sub = .ok r ∧ TimeFits (times.bind fun _ => r) times) ↔
      TimeFits ((w.seenTimes times).bind fun _ => sub) (w.seenTimes times) := by
  rcases sub with _ | s
  · refine iff_of_true ⟨_, cutTime_none, fun s hs => hw s ?_⟩ fun s hs => ?_
    · cases times <;> simp_all
    · cases hn : w.seenTimes times <;> simp [hn] at hs
  · rcases hwt : w.time with _ | s₀
    · simp only [cutTime_open hwt, seenTimes, hwt, Except.ok.injEq, exists_eq_left']
    · -- Time is cut twice: the composed slice fits what the first one fits.
      obtain ⟨n, rfl, hn⟩ := hw s₀ hwt
      simp only [cutTime_slice hwt, seenTimes, hwt, map_eq_ok]
      constructor
      · rintro ⟨_, ⟨r, hr, rfl⟩, -⟩ s' hs'
        cases hs'
        exact ⟨_, rfl, (Slice.reads_of_compose hr).below⟩
      · intro h
        obtain ⟨_, hlen, hs⟩ := h s rfl
        cases hlen
        obtain ⟨r, hr⟩ := Slice.exists_compose_iff.2 hs
        refine ⟨some r, ⟨r, hr, rfl⟩, fun s' hs' => ?_⟩
        cases hs'
        exact ⟨n, rfl, (Slice.reads_of_compose hr).below_of_below hn⟩

variable {c : Cut}

theorem compose_eq_ok : w.compose cut = .ok c ↔ ∃ time z y x, w.cutTime cut.time = .ok time ∧
    w.z.compose? cut.z = .ok z ∧ w.y.compose? cut.y = .ok y ∧ w.x.compose? cut.x = .ok x ∧
    c = ⟨time, some z, some y, some x⟩ := by
  simp only [compose, bind_eq_ok, pure_eq_ok]
  constructor
  · rintro ⟨time, ht, z, hz, y, hy, x, hx, rfl⟩
    exact ⟨time, z, y, x, ht, hz, hy, hx, rfl⟩
  · rintro ⟨time, z, y, x, ht, hz, hy, hx, rfl⟩
    exact ⟨time, ht, z, hz, y, hy, x, hx, rfl⟩

/-- A cut through a window that fits is possible exactly if its own window fits what is seen. -/
theorem exists_ofCut_compose_iff (hw : w.Fits shape times) :
    (∃ c, w.compose cut = .ok c ∧ ∃ v, ofCut shape times c = .ok v) ↔
      (opened w.shape (w.seenTimes times) cut).Fits w.shape (w.seenTimes times) := by
  have htime := exists_cutTime_iff hw.time cut.time
  constructor
  · rintro ⟨c, hc, v, hv⟩
    obtain ⟨time, z, y, x, ht, hz, hy, hx, rfl⟩ := compose_eq_ok.1 hc
    obtain ⟨rfl, hfits⟩ := ofCut_eq_ok.1 hv
    exact ⟨(Slice.reads_of_compose? hz).below, (Slice.reads_of_compose? hy).below,
      (Slice.reads_of_compose? hx).below, htime.1 ⟨time, ht, hfits.time⟩⟩
  · intro h
    obtain ⟨time, ht, htb⟩ := htime.2 h.time
    obtain ⟨z, hz⟩ := Slice.exists_compose?_iff.2 h.z
    obtain ⟨y, hy⟩ := Slice.exists_compose?_iff.2 h.y
    obtain ⟨x, hx⟩ := Slice.exists_compose?_iff.2 h.x
    have hzb := (Slice.reads_of_compose? hz).below_of_below hw.z
    have hyb := (Slice.reads_of_compose? hy).below_of_below hw.y
    have hxb := (Slice.reads_of_compose? hx).below_of_below hw.x
    exact ⟨_, compose_eq_ok.2 ⟨time, z, y, x, ht, hz, hy, hx, rfl⟩, _,
      ofCut_eq_ok.2 ⟨rfl, hzb, hyb, hxb, htb⟩⟩

theorem seenTimes_open (h : w.time = none) (times : Option Nat) :
    w.seenTimes times = times := by
  rw [seenTimes, h]

theorem innerTime_open (h : w.time = none) (time : Nat) : w.innerTime time = .ok time := by
  simp [innerTime, h]

theorem innerTime_slice {s : Slice} (h : w.time = some s) (time : Nat) :
    w.innerTime time =
      if time < s.len then .ok (s.index time) else .error (.invalidTimeIndex time s.len) := by
  simp [innerTime, h]

/-- Composed time slices lead to the time step that the slices lead to one after the other. -/
theorem innerTime_of_cutTime {v u : Window} {sub r : Option Slice} (hw : TimeFits w.time times)
    (hr : w.cutTime sub = .ok r) (hv : v.time = times.bind fun _ => r)
    (hu : u.time = (w.seenTimes times).bind fun _ => sub) :
    (∀ time, v.innerTime time = u.innerTime time >>= w.innerTime) ∧
      ∀ ts, v.seenTimes ts = u.seenTimes (w.seenTimes ts) := by
  rcases hwt : w.time with _ | s₀
  · -- Nothing is behind the cut, so it is the cut itself that is seen.
    have hrs : r = sub := by
      rcases sub with _ | s
      · rw [cutTime_none, hwt] at hr
        cases hr; rfl
      · rw [cutTime_open hwt] at hr
        cases hr; rfl
    have huv : u.time = v.time := by rw [hu, hv, hrs, seenTimes, hwt]
    refine ⟨fun time => ?_, fun ts => ?_⟩
    · rw [show w.innerTime = .ok from funext (innerTime_open hwt), bind_ok, innerTime, innerTime,
        huv]
    · simp only [seenTimes, huv, hwt]
  · obtain ⟨n, rfl, -⟩ := hw s₀ hwt
    rw [seenTimes, hwt] at hu
    rcases sub with _ | s
    · rw [cutTime_none, hwt] at hr
      cases hr
      refine ⟨fun time => ?_, fun ts => ?_⟩
      · rw [innerTime_open hu, ok_bind, innerTime_slice hv, innerTime_slice hwt]
      · simp only [seenTimes, hu, hv, hwt]
        rfl
    · rw [cutTime_slice hwt] at hr
      obtain ⟨r, hcompose, rfl⟩ := map_eq_ok.1 hr
      have hreads := Slice.reads_of_compose hcompose
      refine ⟨fun time => ?_, fun ts => ?_⟩
      · rw [innerTime_slice hu, innerTime_slice hv, hreads.len]
        by_cases ht : time < s.len
        · rw [if_pos ht, if_pos ht, ok_bind, innerTime_slice hwt, if_pos (hreads.below _ ht),
            hreads.index _ ht]
        · rw [if_neg ht, if_neg ht, error_bind]
      · simp only [seenTimes, hu, hv, Option.bind_some, hreads.len]

/-- A cut through a window shows what the window of the cut shows of what is seen. -/
theorem through_of_compose {v : Window} (hw : w.Fits shape times) (hc : w.compose cut = .ok c)
    (hv : ofCut shape times c = .ok v) :
    v.Through w (opened w.shape (w.seenTimes times) cut) := by
  obtain ⟨time, z, y, x, ht, hz, hy, hx, rfl⟩ := compose_eq_ok.1 hc
  obtain ⟨rfl, -⟩ := ofCut_eq_ok.1 hv
  obtain ⟨hinner, hseen⟩ := innerTime_of_cutTime hw.time ht
    (v := opened shape times ⟨time, some z, some y, some x⟩)
    (u := opened w.shape (w.seenTimes times) cut) rfl rfl
  exact ⟨Slice.reads_of_compose? hz, Slice.reads_of_compose? hy, Slice.reads_of_compose? hx, hinner,
    hseen⟩

section Entries

variable {α : Type} [Scalar α] {v u : Window}

theorem get3_pick (w : Window) (t : Tensor α) {k j i : Nat} (hk : k < w.z.len) (hj : j < w.y.len)
    (hi : i < w.x.len) : (w.pick t).get3 Scalar.nan k j i =
      t.get3 Scalar.nan (w.z.index k) (w.y.index j) (w.x.index i) :=
  Tensor.get3_generate3 hk hj hi

theorem getD_pickLevels (w : Window) (column : List α) {k : Nat} (hk : k < w.z.len) :
    (w.pickLevels column).getD k Scalar.nan = column.getD (w.z.index k) Scalar.nan :=
  Slice.getD_map_indices _ _ _ hk

theorem Through.pick_eq (h : v.Through w u) (t : Tensor α) : v.pick t = u.pick (w.pick t) := by
  unfold pick
  rw [h.z.len, h.y.len, h.x.len]
  refine Tensor.generate3_congr fun k hk j hj i hi => ?_
  rw [h.z.index k hk, h.y.index j hj, h.x.index i hi]
  exact (get3_pick w t (h.z.below k hk) (h.y.below j hj) (h.x.below i hi)).symm

theorem Through.pickLevels_eq (h : v.Through w u) (column : List α) :
    v.pickLevels column = u.pickLevels (w.pickLevels column) := by
  simp only [pickLevels, Slice.indices, List.map_map, h.z.len]
  refine List.map_congr_left fun k hk => ?_
  have hk : k < u.z.len := List.mem_range.1 hk
  simp only [Function.comp_apply, h.z.index k hk]
  have hpick := getD_pickLevels w column (h.z.below k hk)
  simp only [pickLevels, Slice.indices, List.map_map] at hpick
  exact hpick.symm

end Entries

end Window

/-! ### Transforms -/

namespace VerticalTransform

open Window

variable {α : Type} {t t' inner : VerticalTransform α} {cut : Cut} {w : Window}

/-- The transforms that are made from sources by cutting. -/
inductive Made : VerticalTransform α → Prop
  | source (s : VerticalSource α) : Made (.source s)
  | window {t t' : VerticalTransform α} {cut : Cut} (ht : Made t) (h : t.window cut = .ok t') :
    Made t'

theorem times_view : (view inner w).times = w.seenTimes inner.times := rfl

theorem window_eq_ok : t.window cut = .ok t' ↔
    t' = view t (opened t.shape t.times cut) ∧
      (opened t.shape t.times cut).Fits t.shape t.times := by
  simp only [window, map_eq_ok, ofCut_eq_ok]
  constructor
  · rintro ⟨w, ⟨rfl, hfits⟩, rfl⟩
    exact ⟨rfl, hfits⟩
  · rintro ⟨rfl, hfits⟩
    exact ⟨_, ⟨rfl, hfits⟩, rfl⟩

/-- All windows of a transform that is made by cutting fit. -/
theorem Made.fits (h : (view inner w).Made) : inner.Made ∧ w.Fits inner.shape inner.times := by
  generalize ht : view inner w = t at h
  cases h with
  | source s => cases ht
  | window hmade h =>
    obtain ⟨rfl, hfits⟩ := window_eq_ok.1 h
    cases ht
    exact ⟨hmade, hfits⟩

theorem Made.isTimeDependent_eq (h : t.Made) : t.isTimeDependent = t.times.isSome := by
  induction t with
  | source s => rfl
  | view inner w ih =>
    have hinner : (view inner w).isTimeDependent = inner.times.isSome := ih h.fits.1
    rw [hinner, times_view, seenTimes]
    rcases hw : w.time with _ | s
    · rfl
    · obtain ⟨n, hn, -⟩ := h.fits.2.time s hw
      rw [hn]
      rfl

/-- The outermost window of a transform, if there is one, fits what is behind it. -/
def Fitted : VerticalTransform α → Prop
  | source _ => True
  | view inner w => w.Fits inner.shape inner.times

theorem Made.fitted (h : t.Made) : t.Fitted := by
  cases t with
  | source s => trivial
  | view inner w => exact h.fits.2

theorem fitted_of_window (h : t.window cut = .ok t') : t'.Fitted := by
  obtain ⟨rfl, hfits⟩ := window_eq_ok.1 h
  exact hfits

/-- A transform can be cut exactly if the window of the cut fits. -/
theorem exists_subset_iff (ht : t.Fitted) : (∃ t', t.subset cut = .ok t') ↔
    (opened t.shape t.times cut).Fits t.shape t.times := by
  cases t with
  | source s =>
    simp only [subset, window_eq_ok, exists_eq_left]
  | view inner w =>
    rw [times_view]
    refine Iff.trans ?_ (exists_ofCut_compose_iff ht)
    simp only [subset, bind_eq_ok, window, map_eq_ok]
    constructor
    · rintro ⟨_, c, hc, v, hv, rfl⟩
      exact ⟨c, hc, v, hv⟩
    · rintro ⟨c, hc, v, hv⟩
      exact ⟨_, c, hc, v, hv, rfl⟩

theorem Made.subset (ht : t.Made) (h : t.subset cut = .ok t') : t'.Made := by
  cases t with
  | source s => exact ht.window h
  | view inner w =>
    obtain ⟨c, -, h⟩ := bind_eq_ok.1 h
    exact ht.fits.1.window h

variable [Scalar α]

/-- Transforms with the same extent and the same answers. -/
structure Alike (a b : VerticalTransform α) : Prop where
  shape : a.shape = b.shape
  times : a.times = b.times
  array : ∀ time, a.array time = b.array time
  profile : ∀ time x y, a.profile time x y = b.profile time x y

theorem Alike.refl (t : VerticalTransform α) : t.Alike t :=
  ⟨rfl, rfl, fun _ => rfl, fun _ _ _ => rfl⟩

theorem Alike.symm {a b : VerticalTransform α} (h : a.Alike b) : b.Alike a :=
  ⟨h.shape.symm, h.times.symm, fun n => (h.array n).symm, fun n x y => (h.profile n x y).symm⟩

theorem Alike.trans {a b c : VerticalTransform α} (h : a.Alike b) (h' : b.Alike c) : a.Alike c :=
  ⟨h.shape.trans h'.shape, h.times.trans h'.times, fun n => (h.array n).trans (h'.array n),
    fun n x y => (h.profile n x y).trans (h'.profile n x y)⟩

/-- Windows on transforms that are alike are alike. -/
theorem Alike.view {a b : VerticalTransform α} (h : a.Alike b) (w : Window) :
    (view a w).Alike (view b w) where
  shape := rfl
  times := by rw [times_view, times_view, h.times]
  array n := by simp only [VerticalTransform.array, h.array]
  profile n x y := by simp only [VerticalTransform.profile, h.profile]

/-- A window that shows what one window shows of another gives the same answers as these two. -/
theorem alike_of_through {v u : Window} (h : v.Through w u) :
    (view inner v).Alike (view (view inner w) u) where
  shape := h.shape_eq
  times := h.seenTimes inner.times
  array time := by
    have hpick : v.pick = fun a : Tensor α => u.pick (w.pick a) := funext h.pick_eq
    simp only [array, h.innerTime, bind_assoc, map_bind, Functor.map_map, hpick]
  profile time x y := by
    -- The checks of the inner window come later, but they cannot fail.
    have hchecked : ∀ {r s sub : Slice} (i : Nat), r.Reads s sub → ∀ {n}, sub.element i = .ok n →
        s.element n = .ok (s.index n) := fun i hr n hn => by
      obtain ⟨hi, rfl⟩ := Slice.element_eq_ok.1 hn
      exact Slice.element_of_lt (hr.below i hi)
    have hlevels : v.pickLevels = fun column : List α => u.pickLevels (w.pickLevels column) :=
      funext h.pickLevels_eq
    simp only [profile, h.innerTime, h.x.element, h.y.element]
    cases hx : u.x.element x with
    | error e => rfl
    | ok x' =>
      simp only [ok_bind, hchecked x h.x hx]
      cases hy : u.y.element y with
      | error e => rfl
      | ok y' =>
        simp only [ok_bind, hchecked y h.y hy, bind_assoc, map_bind, Functor.map_map,
          hlevels]

/-- **A cut gives what is seen through the window that it opens.** -/
theorem alike_of_subset (ht : t.Fitted) (h : t.subset cut = .ok t') :
    t'.Alike (view t (opened t.shape t.times cut)) := by
  cases t with
  | source s =>
    obtain ⟨rfl, -⟩ := window_eq_ok.1 h
    exact Alike.refl _
  | view inner w =>
    obtain ⟨c, hc, h⟩ := bind_eq_ok.1 h
    obtain ⟨v, hv, rfl⟩ := map_eq_ok.1 h
    exact alike_of_through (through_of_compose ht hc hv)

/-! ### Single coordinates -/

/-- Where a single coordinate is looked up: among those of all points, or in the column at its point. -/
inductive Lookup
  | array
  | column

/-- A single coordinate at a time step, by level, row and column. -/
def coordinateAt (t : VerticalTransform α) (lookup : Lookup) (time k j i : Nat) : Except Error α :=
  match lookup with
  | .array => (fun a => a.get3 Scalar.nan k j i) <$> t.array time
  | .column => (fun column => column.getD k Scalar.nan) <$> t.profile time i j

theorem Alike.coordinateAt {a b : VerticalTransform α} (h : a.Alike b) (lookup : Lookup)
    (time k j i : Nat) : a.coordinateAt lookup time k j i = b.coordinateAt lookup time k j i := by
  unfold VerticalTransform.coordinateAt
  rw [h.array, h.profile]

/-- A coordinate is seen through a window where the slices of the window lead. -/
theorem coordinateAt_view {k j i : Nat} (lookup : Lookup) (time : Nat) (hk : k < w.z.len)
    (hj : j < w.y.len) (hi : i < w.x.len) : (view t w).coordinateAt lookup time k j i =
      w.innerTime time >>= fun n =>
        t.coordinateAt lookup n (w.z.index k) (w.y.index j) (w.x.index i) := by
  cases lookup with
  | array => simp only [coordinateAt, array, map_bind, Functor.map_map, get3_pick w _ hk hj hi]
  | column =>
    simp only [coordinateAt, profile, Slice.element_of_lt hi, Slice.element_of_lt hj, ok_bind,
      map_bind, Functor.map_map, getD_pickLevels w _ hk]

/-! ### What is seen -/

/-- `t'` shows what is seen of `t` through a window. -/
structure Shows (t' t : VerticalTransform α) (w : Window) : Prop where
  made : t'.Made
  shape : t'.shape = w.shape
  times : t'.times = w.seenTimes t.times
  coordinateAt : ∀ lookup time, ∀ k < w.z.len, ∀ j < w.y.len, ∀ i < w.x.len,
    t'.coordinateAt lookup time k j i = w.innerTime time >>= fun n =>
      t.coordinateAt lookup n (w.z.index k) (w.y.index j) (w.x.index i)

theorem shows_of_subset (ht : t.Made) (h : t.subset cut = .ok t') :
    t'.Shows t (opened t.shape t.times cut) := by
  have ha := alike_of_subset ht.fitted h
  refine ⟨ht.subset h, ha.shape, ha.times, fun lookup time k hk j hj i hi => ?_⟩
  rw [ha.coordinateAt, coordinateAt_view lookup time hk hj hi]

/-- A transform shows itself through the window that cuts nothing. -/
theorem shows_self (ht : t.Made) : t.Shows t (opened t.shape t.times {}) := by
  have htime : (opened t.shape t.times {}).time = none := by cases h : t.times <;> rfl
  refine ⟨ht, rfl, (seenTimes_open htime _).symm, fun lookup time k _ j _ i _ => ?_⟩
  rw [innerTime_open htime, ok_bind, opened, Slice.orWhole_none, Slice.index_whole,
    Slice.orWhole_none, Slice.index_whole, Slice.orWhole_none, Slice.index_whole]

end VerticalTransform

end Gridded
