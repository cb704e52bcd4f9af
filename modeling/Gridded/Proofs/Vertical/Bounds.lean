import Gridded.Proofs.Vertical.Profiles

/-!
# Indices that are there

Coordinates are computed from numbers that are looked up by level, row and column. Here the same
computations are done with look-ups that give nothing where there is no entry. They give the same, so
every index is there, whatever the source of arrays answers.

* `Tensor.generate3?`, `Tensor.column?`, `Column.coordinate?`, `Window.pick?`, `Window.pickLevels?`: the
  steps of a computation with such look-ups, and when they give what the plain steps give;
* `Coordinates.array?`, `Coordinates.profile?`, `VerticalTransform.array?`,
  `VerticalTransform.profile?`: the whole computations;
* `VerticalTransform.Bounded`: the two computations agree, with `Coordinates.bounded` for sources and
  `VerticalTransform.Bounded.view` for windows.
-/

namespace Gridded

/-! ### Look-ups in arrays and lists -/

section Lookups

variable {α β : Type}

/-- Go on from the result of a computation with look-ups, if there is a result. -/
def lookUp (f : α → Option β) : Except Error α → Option (Except Error β)
  | .ok a => .ok <$> f a
  | .error e => some (.error e)

theorem lookUp_eq {f : α → Option β} {g : α → β} {x : Except Error α}
    (h : ∀ a, x = .ok a → f a = some (g a)) : lookUp f x = some (g <$> x) := by
  cases x with
  | error e => rfl
  | ok a => rw [lookUp, h a rfl]; rfl

namespace Tensor

/-- An array of three dimensions filled by look-ups, if there is an entry at each of its indices. -/
def generate3? (layers rows columns : Nat) (f : Nat → Nat → Nat → Option α) : Option (Tensor α) :=
  (fun entries => ⟨[layers, rows, columns], entries.toArray⟩) <$>
    (generate3 layers rows columns f).entries.toList.mapM id

theorem generate3?_eq {layers rows columns : Nat} {f : Nat → Nat → Nat → Option α}
    {g : Nat → Nat → Nat → α}
    (h : ∀ k < layers, ∀ j < rows, ∀ i < columns, f k j i = some (g k j i)) :
    generate3? layers rows columns f = some (generate3 layers rows columns g) := by
  have hentries : (generate3 layers rows columns f).entries.toList =
      (generate3 layers rows columns g).entries.toList.map some := by
    rw [generate3_congr h]
    simp [generate3, generate, List.map_ofFn, Function.comp_def]
  have hsome : ∀ xs : List α, (xs.map some).mapM id = some xs := by
    intro xs
    rw [List.mapM_map, mapM_eq_some (g := id) fun a _ => by rfl, List.map_id]
  rw [generate3?, hentries, hsome]
  rfl

/-- The entries above a row and a column, if they are there. -/
def column? (t : Tensor α) (j i : Nat) : Option (List α) :=
  match t.shape with
  | [layers, rows, columns] =>
    if j < rows ∧ i < columns then (List.range layers).mapM fun k => t.get3? k j i else none
  | _ => none

theorem column?_eq [Scalar α] {t : Tensor α} {layers rows columns j i : Nat} (h : t.IsFull)
    (hshape : t.shape = [layers, rows, columns]) (hj : j < rows) (hi : i < columns) :
    t.column? j i = some (t.columnAt layers j i) := by
  rw [column?, hshape]
  dsimp only
  rw [if_pos ⟨hj, hi⟩]
  exact mapM_eq_some fun k hk => get3?_eq h hshape (List.mem_range.1 hk) hj hi Scalar.nan

end Tensor

variable [Scalar α]

/-- The coordinate of a level, if each list of numbers has one at this level. -/
def Column.coordinate? (c : Column α) (k : Nat) (surface depth : α) : Option α :=
  if ∀ xs ∈ c.lists, k < xs.length then some (c.coordinate k surface depth) else none

namespace Window

variable {w : Window} {shape : GridShape} {times : Option Nat}

/-- The entries of an array that are seen, if they are there. -/
def pick? (w : Window) (t : Tensor α) : Option (Tensor α) :=
  Tensor.generate3? w.z.len w.y.len w.x.len fun k j i =>
    t.get3? (w.z.index k) (w.y.index j) (w.x.index i)

/-- The levels of a column that are seen, if they are there. -/
def pickLevels? (w : Window) (column : List α) : Option (List α) :=
  w.z.indices.mapM fun k => column[k]?

theorem pick?_eq (hw : w.Fits shape times) {t : Tensor α} (ht : t.IsFull)
    (hshape : t.shape = shape.toList) : w.pick? t = some (w.pick t) :=
  Tensor.generate3?_eq fun k hk j hj i hi =>
    Tensor.get3?_eq ht hshape (hw.z k hk) (hw.y j hj) (hw.x i hi) Scalar.nan

theorem pickLevels?_eq {column : List α} (hz : w.z.Below column.length) :
    w.pickLevels? column = some (w.pickLevels column) := by
  refine mapM_eq_some fun k hk => ?_
  obtain ⟨i, hi, rfl⟩ := List.mem_map.1 hk
  have hlt : w.z.index i < column.length := hz i (List.mem_range.1 hi)
  simp [List.getD, hlt]

end Window

end Lookups

/-! ### Sources -/

section Sources

variable {α : Type} [Scalar α]

namespace FormulaSource

/-- The coordinate of every point at a time step, if all indices are there. -/
def array? (f : FormulaSource α) (time : Nat) : Option (Except Error (Tensor α)) :=
  lookUp (fun (surface, depth) =>
      Tensor.generate3? f.base.shape.levels f.base.shape.rows f.base.shape.columns fun k j i => do
        f.column.coordinate? k (← surface.get2? j i) (← depth.get2? j i))
    (f.base.timeStep time >>= f.planes)

/-- The coordinate of every level at a time step, a column and a row, if all indices are there. -/
def profile? (f : FormulaSource α) (time x y : Nat) : Option (Except Error (List α)) :=
  lookUp (fun (surface, depth) => do
      let atSurface ← surface.get2? y x
      let atDepth ← depth.get2? y x
      (List.range f.base.shape.levels).mapM fun k => f.column.coordinate? k atSurface atDepth)
    (do f.base.checkPoint x y; f.planes (← f.base.timeStep time))

variable {f : FormulaSource α} {d : Dataset α}

theorem coordinate?_eq (h : f.Sound d) {k : Nat} (hk : k < f.base.shape.levels)
    (surface depth : α) :
    f.column.coordinate? k surface depth = some (f.column.coordinate k surface depth) :=
  if_pos fun xs hxs => (h.levels xs hxs).symm ▸ hk

/-- The planes are full and have the extent of the grid. -/
theorem isFull_of_planes (h : f.Sound d) (hd : d.Full) (hdataset : f.base.dataset = d) {step : Nat}
    {surface depth : Tensor α} (hplanes : f.planes step = .ok (surface, depth)) :
    (surface.IsFull ∧ surface.shape = [f.base.shape.rows, f.base.shape.columns]) ∧
      depth.IsFull ∧ depth.shape = [f.base.shape.rows, f.base.shape.columns] := by
  have hterm : ∀ g ∈ f.terms, ∀ a, g.load f.base.dataset step = .ok a →
      a.IsFull ∧ a.shape = [f.base.shape.rows, f.base.shape.columns] := by
    intro g hg a ha
    obtain ⟨name, v, factor, -, hloaded⟩ := h.loaded g hg
    obtain ⟨hrows, hcolumns⟩ := h.extent g hg
    rw [hdataset] at ha
    rw [← hrows, ← hcolumns]
    exact ⟨hloaded.isFull_of_load hd hd ha, hloaded.shape_of_load ha⟩
  obtain ⟨hsurface, hdepth⟩ := planes_eq_ok.1 hplanes
  exact ⟨hterm _ (mem_terms.2 (.inl rfl)) _ hsurface, hterm _ (mem_terms.2 (.inr rfl)) _ hdepth⟩

theorem array?_eq (h : f.Sound d) (hd : d.Full) (hdataset : f.base.dataset = d) (time : Nat) :
    f.array? time = some (f.array time) := by
  have harray : f.array time = (fun planes : Tensor α × Tensor α =>
      Tensor.generate3 f.base.shape.levels f.base.shape.rows f.base.shape.columns fun k j i =>
        f.column.coordinate k (planes.1.get2 Scalar.nan j i) (planes.2.get2 Scalar.nan j i)) <$>
      (f.base.timeStep time >>= f.planes) := by
    simp only [array, map_eq_pure_bind, bind_assoc]
  rw [harray]
  refine lookUp_eq fun planes hplanes => Tensor.generate3?_eq fun k hk j hj i hi => ?_
  obtain ⟨surface, depth⟩ := planes
  obtain ⟨step, -, hplanes⟩ := bind_eq_ok.1 hplanes
  obtain ⟨⟨hsurface, hsshape⟩, hdepth, hdshape⟩ := isFull_of_planes h hd hdataset hplanes
  rw [Tensor.get2?_eq hsurface hsshape hj hi Scalar.nan,
    Tensor.get2?_eq hdepth hdshape hj hi Scalar.nan]
  exact coordinate?_eq h hk _ _

theorem profile?_eq (h : f.Sound d) (hd : d.Full) (hdataset : f.base.dataset = d)
    (time x y : Nat) : f.profile? time x y = some (f.profile time x y) := by
  have hprofile : f.profile time x y = (fun planes : Tensor α × Tensor α =>
      (List.range f.base.shape.levels).map fun k =>
        f.column.coordinate k (planes.1.get2 Scalar.nan y x) (planes.2.get2 Scalar.nan y x)) <$>
      (do f.base.checkPoint x y; f.planes (← f.base.timeStep time)) := by
    simp only [profile, map_eq_pure_bind, bind_assoc]
  rw [hprofile]
  refine lookUp_eq fun planes hplanes => ?_
  obtain ⟨surface, depth⟩ := planes
  obtain ⟨⟨⟩, hpoint, hplanes⟩ := bind_eq_ok.1 hplanes
  obtain ⟨step, -, hplanes⟩ := bind_eq_ok.1 hplanes
  obtain ⟨hx, hy⟩ := VerticalBase.checkPoint_eq_ok.1 hpoint
  obtain ⟨⟨hsurface, hsshape⟩, hdepth, hdshape⟩ := isFull_of_planes h hd hdataset hplanes
  dsimp only
  rw [Tensor.get2?_eq hsurface hsshape hy hx Scalar.nan,
    Tensor.get2?_eq hdepth hdshape hy hx Scalar.nan]
  exact mapM_eq_some fun k hk => coordinate?_eq h (List.mem_range.1 hk) _ _

theorem isFull_of_array {time : Nat} {a : Tensor α} (h : f.array time = .ok a) : a.IsFull := by
  obtain ⟨step, -, h⟩ := bind_eq_ok.1 h
  obtain ⟨⟨surface, depth⟩, -, h⟩ := bind_eq_ok.1 h
  cases h
  exact Tensor.isFull_generate3 _ _ _ _

end FormulaSource

namespace StoredSource

/-- The coordinate of every level at a time step, a column and a row, if all indices are there. -/
def profile? (f : StoredSource α) (time x y : Nat) : Option (Except Error (List α)) :=
  lookUp (fun data => data.column? y x) (do f.base.checkPoint x y; f.array time)

variable {f : StoredSource α} {d : Dataset α}

/-- Every array is full and has the extent of the grid. -/
theorem isFull_of_array (h : f.Sound d) (hd : d.Full) (hdataset : f.base.dataset = d) {time : Nat}
    {a : Tensor α} (ha : f.array time = .ok a) : a.IsFull ∧ a.shape = f.base.shape.toList := by
  obtain ⟨step, -, ha⟩ := bind_eq_ok.1 ha
  cases h with
  | static _ hread hclean =>
    cases ha
    exact ⟨isFull_of_clean (hd.read hread) hclean, shape_of_clean hclean⟩
  | timed _ _ _ =>
    obtain ⟨data, hread, hclean⟩ := bind_eq_ok.1 ha
    rw [hdataset] at hread
    exact ⟨isFull_of_clean (hd.readAt hread) hclean, shape_of_clean hclean⟩

theorem profile?_eq (h : f.Sound d) (hd : d.Full) (hdataset : f.base.dataset = d)
    (time x y : Nat) : f.profile? time x y = some (f.profile time x y) := by
  have hprofile : f.profile time x y =
      (fun data => data.columnAt f.base.shape.levels y x) <$>
        (do f.base.checkPoint x y; f.array time) := by
    simp only [profile, map_eq_pure_bind, bind_assoc]
    rfl
  rw [hprofile]
  refine lookUp_eq fun data hdata => ?_
  obtain ⟨⟨⟩, hpoint, hdata⟩ := bind_eq_ok.1 hdata
  obtain ⟨hx, hy⟩ := VerticalBase.checkPoint_eq_ok.1 hpoint
  obtain ⟨hfull, hshape⟩ := isFull_of_array h hd hdataset hdata
  exact Tensor.column?_eq hfull hshape hy hx

end StoredSource

namespace Coordinates

/-- The coordinate of every point at a time step, if all indices are there. A stored array is handed out
whole. -/
def array? (time : Nat) : Coordinates α → Option (Except Error (Tensor α))
  | formula f => f.array? time
  | stored f => some (f.array time)

/-- The coordinate of every level at a time step, a column and a row, if all indices are there. -/
def profile? (time x y : Nat) : Coordinates α → Option (Except Error (List α))
  | formula f => f.profile? time x y
  | stored f => f.profile? time x y

end Coordinates

end Sources

/-! ### Transforms -/

namespace VerticalTransform

variable {α : Type} [Scalar α]

/-- The coordinate of every point at a time step, if all indices are there, where `c` is the source. -/
def array? (c : Coordinates α) (time : Nat) :
    VerticalTransform α → Option (Except Error (Tensor α))
  | source _ => c.array? time
  | view inner window =>
    match window.innerTime time with
    | .error e => some (.error e)
    | .ok n => array? c n inner >>= lookUp window.pick?

/-- The coordinate of every level at a time step, a column and a row, if all indices are there, where
`c` is the source. -/
def profile? (c : Coordinates α) (time x y : Nat) :
    VerticalTransform α → Option (Except Error (List α))
  | source _ => c.profile? time x y
  | view inner window =>
    let inside : Except Error (Nat × Nat × Nat) := do
      return (← window.x.element x, ← window.y.element y, ← window.innerTime time)
    match inside with
    | .error e => some (.error e)
    | .ok (x, y, n) => profile? c n x y inner >>= lookUp window.pickLevels?

/-- All indices are there, and arrays are full. -/
structure Bounded (c : Coordinates α) (t : VerticalTransform α) : Prop where
  array : ∀ time, t.array? c time = some (t.array time)
  profile : ∀ time x y, t.profile? c time x y = some (t.profile time x y)
  isFull : ∀ {time a}, t.array time = .ok a → a.IsFull

variable {c : Coordinates α} {t inner : VerticalTransform α} {w : Window}

/-- A column has as many entries as there are levels. -/
theorem Coherent.length_eq (h : t.Coherent) {time x y : Nat} {column : List α}
    (hcolumn : t.profile time x y = .ok column) : column.length = t.shape.levels := by
  by_cases hx : x < t.shape.columns
  · by_cases hy : y < t.shape.rows
    · rw [h.inside time x y hx hy] at hcolumn
      obtain ⟨a, -, rfl⟩ := map_eq_ok.1 hcolumn
      simp [Tensor.columnAt]
    · rw [h.beyondRows time x y hx (Nat.not_lt.1 hy)] at hcolumn
      cases hcolumn
  · rw [h.beyondColumns time x y (Nat.not_lt.1 hx)] at hcolumn
    cases hcolumn

/-- Through a window that fits, all indices are there. -/
theorem Bounded.view (h : inner.Bounded c) (hinner : inner.Coherent)
    (hw : w.Fits inner.shape inner.times) : (view inner w).Bounded c where
  array time := by
    rw [VerticalTransform.array, VerticalTransform.array?]
    cases w.innerTime time with
    | error e => rfl
    | ok n =>
      dsimp only
      rw [h.array, ok_bind]
      exact lookUp_eq fun a ha => Window.pick?_eq hw (h.isFull ha) (hinner.shape ha)
  profile time x y := by
    rw [VerticalTransform.profile, VerticalTransform.profile?]
    cases w.x.element x with
    | error e => rfl
    | ok i =>
      cases w.y.element y with
      | error e => rfl
      | ok j =>
        cases w.innerTime time with
        | error e => rfl
        | ok n =>
          simp only [ok_bind, pure, Except.pure, h.profile]
          refine lookUp_eq fun column hcolumn => Window.pickLevels?_eq ?_
          rw [hinner.length_eq hcolumn]
          exact hw.z
  isFull ha := by
    obtain ⟨n, -, ha⟩ := bind_eq_ok.1 ha
    obtain ⟨a, -, rfl⟩ := map_eq_ok.1 ha
    exact Tensor.isFull_generate3 _ _ _ _

end VerticalTransform

theorem Coordinates.bounded {α : Type} [Scalar α] {c : Coordinates α} {d : Dataset α}
    (h : c.Sound d) (hd : d.Full) (hdataset : c.base.dataset = d) :
    (VerticalTransform.source c.source).Bounded c := by
  cases c with
  | formula f =>
    exact ⟨f.array?_eq h hd hdataset, f.profile?_eq h hd hdataset, f.isFull_of_array⟩
  | stored f =>
    exact ⟨fun _ => rfl, f.profile?_eq h hd hdataset, fun ha =>
      (f.isFull_of_array h hd hdataset ha).1⟩

/-- **All indices are there.** However a sound source is cut, computing an array or a column never runs
into an index beyond the end. -/
theorem VerticalTransform.bounded_of_made {α : Type} [Scalar α] {c : Coordinates α} {d : Dataset α}
    {t : VerticalTransform α} (ht : t.Made) (horigin : t.origin = c.source) (h : c.Sound d)
    (hd : d.Full) (hdataset : c.base.dataset = d) : t.Bounded c := by
  induction t with
  | source s =>
    cases horigin
    exact Coordinates.bounded h hd hdataset
  | view inner w ih =>
    obtain ⟨hinner, hfits⟩ := ht.fits
    have hcoherent : inner.Coherent := by
      refine coherent_of_made hinner ?_
      rw [show inner.origin = c.source from horigin]
      exact c.coherent h
    exact (ih hinner horigin).view hcoherent hfits

end Gridded
