import Gridded.Proofs.Axis.Building
import Gridded.Proofs.Axis.Words
import Gridded.Proofs.Numbers

/-!
# Slices of axes

Taking a slice of an axis keeps everything but the coordinates, remembers which indices of the first
axis it holds, and holds the coordinates at these indices.

* `Axis.Taken`: how a slice of an axis relates to it; `Axis.taken_of_take`;
* `Axis.Samples`: an axis that has the coordinates of another at the indices of a slice;
* `Axis.Precise`: the axes whose coordinates are stored or computed exactly; `Axis.samples_of_take` says
  which coordinates a slice of such an axis has;
* `Axis.exists_take`: a slice within the axis can be taken;
* `Axis.chain_reads_first`: after any chain of slices, an axis has the coordinates of the first one at
  the indices that it remembers; the next slice is taken unless the product of two strides does not fit.
-/

namespace Gridded.Axis

open Outcome

section Structure

variable {α : Type} [Scalar α]

@[simp] theorem label_draftOf (a : Axis α) (s : Slice) (last : Nat) :
    (a.draftOf s last).label = a.label := by
  unfold draftOf spreadOf
  split <;> (try split_ifs) <;> rfl

@[simp] theorem size_draftOf (a : Axis α) (s : Slice) (last : Nat) :
    (a.draftOf s last).size = s.len := by
  unfold draftOf spreadOf
  split <;> (try split_ifs) <;> rfl

/-- The draft of a slice of an axis, whose indices on the first axis are `range`. -/
def partOf (a : Axis α) (s : Slice) (last : Nat) (range : Slice) : Draft α :=
  { a.draftOf s last with range := some range, isSubset := true }

theorem count_partOf (a : Axis α) {s : Slice} (last : Nat) (range : Slice) (hs : 0 < s.len)
    (spacing : Spacing) : (a.partOf s last range).count spacing = s.len := by
  have hd : (a.partOf s last range).size = s.len := size_draftOf a s last
  unfold Draft.count
  rw [hd]
  split
  · omega
  · rfl

theorem take_eq_ok {a b : Axis α} {s : Slice} :
    a.take s = .ok b ↔
      ∃ last range, s.last = some last ∧ s.Below a.size ∧ a.range.compose s = .ok range ∧
        (a.partOf s last range).Makes b := by
  unfold take
  cases hl : s.last with
  | none => simp
  | some last =>
    simp only [bind_eq_ok, Draft.build_eq_ok, Option.some.injEq]
    constructor
    · rintro ⟨⟨⟩, hwithin, range, hrange, hmakes⟩
      exact ⟨last, range, rfl, Slice.within_eq_ok.1 hwithin, hrange, hmakes⟩
    · rintro ⟨_, range, rfl, hbelow, hrange, hmakes⟩
      exact ⟨(), Slice.within_eq_ok.2 hbelow, range, hrange, hmakes⟩

/-- How a slice of an axis relates to it. -/
structure Taken (a b : Axis α) (s : Slice) : Prop where
  built : b.Built
  label : b.label = a.label
  isSubset : b.isSubset = true
  len_pos : 0 < s.len
  below : s.Below a.size
  size : b.size = s.len
  range : b.range.Reads a.range s

theorem taken_of_take {a b : Axis α} {s : Slice} (h : a.take s = .ok b) : Taken a b s := by
  obtain ⟨last, range, hl, hbelow, hrange, hmakes⟩ := take_eq_ok.1 h
  obtain ⟨hpos, -⟩ := Slice.last_eq_some.1 hl
  have hlabel : b.label = a.label := hmakes.label.trans (label_draftOf a s last)
  have hsize : b.size = s.len := hmakes.size.trans (count_partOf a last range hpos _)
  have hreads : b.range.Reads a.range s := by
    have hr := Slice.reads_of_compose hrange
    obtain ⟨-, hb⟩ := Draft.rangeFor_eq_ok.1 hmakes.range
    rw [hb]
    exact ⟨hr.below, by rw [len_rangeNamed]; exact hr.len,
      fun i hi => by rw [index_rangeNamed]; exact hr.index i hi⟩
  exact ⟨⟨_, Draft.build_eq_ok.2 hmakes⟩, hlabel, hmakes.isSubset, hpos, hbelow, hsize, hreads⟩

end Structure

/-! ### Stored values -/

section Values

variable {α : Type}

theorem getD_flatMap_pair (l : List Nat) (f g : Nat → α) (other : α) (k : Nat) (hk : k < l.length) :
    (l.flatMap fun i => [f i, g i]).getD (2 * k) other = f l[k] ∧
      (l.flatMap fun i => [f i, g i]).getD (2 * k + 1) other = g l[k] := by
  induction l generalizing k with
  | nil => simp at hk
  | cons i l ih =>
    cases k with
    | zero => simp
    | succ k =>
      have h := ih k (by simpa using hk)
      simpa [List.flatMap_cons, Nat.mul_succ] using h

variable [Scalar α]

theorem value_eq {a : Axis α} {values : List α} (h : a.values = values) (i : Nat) :
    a.value i = values.getD i Scalar.nan := by rw [value, h]

theorem getD_edgesOf (a : Axis α) (s : Slice) (other : α) {k : Nat} (hk : k < s.len) :
    (a.edgesOf s).getD (2 * k) other = a.edge1At (s.index k) ∧
      (a.edgesOf s).getD (2 * k + 1) other = a.edge2At (s.index k) := by
  have h := getD_flatMap_pair s.indices a.edge1At a.edge2At other k (by simpa using hk)
  rwa [Slice.getElem_indices] at h

theorem length_edgesOf (a : Axis α) (s : Slice) : (a.edgesOf s).length = 2 * s.len := by
  simp [edgesOf, List.length_flatMap, Nat.mul_comm]

end Values

/-! ### Coordinates -/

section Samples

variable {α : Type} [Scalar α]

/-- `b` has the coordinates of `a` at the indices of `s`. Points have their neighbours' cells, so only
cells that are stored or regular keep their edges. -/
structure Samples (b a : Axis α) (s : Slice) : Prop where
  size : b.size = s.len
  below : s.Below a.size
  isInterval : b.spacing.isInterval = a.spacing.isInterval
  midpointAt : ∀ i < s.len, b.midpointAt i = a.midpointAt (s.index i)
  edge1At : a.spacing.isInterval = true → ∀ i < s.len, b.edge1At i = a.edge1At (s.index i)
  edge2At : a.spacing.isInterval = true → ∀ i < s.len, b.edge2At i = a.edge2At (s.index i)

theorem Samples.trans {a b c : Axis α} {r s t : Slice} (hc : c.Samples b t) (hb : b.Samples a s)
    (hr : r.Reads s t) : c.Samples a r where
  size := hc.size.trans hr.len.symm
  below := hr.below_of_below hb.below
  isInterval := hc.isInterval.trans hb.isInterval
  midpointAt i hi := by
    have hi' : i < t.len := hr.len ▸ hi
    rw [hc.midpointAt i hi', hb.midpointAt _ (hr.below i hi'), hr.index i hi']
  edge1At hint i hi := by
    have hi' : i < t.len := hr.len ▸ hi
    rw [hc.edge1At (hb.isInterval.trans hint) i hi', hb.edge1At hint _ (hr.below i hi'),
      hr.index i hi']
  edge2At hint i hi := by
    have hi' : i < t.len := hr.len ▸ hi
    rw [hc.edge2At (hb.isInterval.trans hint) i hi', hb.edge2At hint _ (hr.below i hi'),
      hr.index i hi']

theorem samples_of_fixed {a : Axis α} {s : Slice} (hlen : s.len = a.size)
    (hs : ∀ i < s.len, s.index i = i) : a.Samples a s where
  size := hlen.symm
  below i hi := by rwa [hs i hi, ← hlen]
  isInterval := rfl
  midpointAt i hi := by rw [hs i hi]
  edge1At _ i hi := by rw [hs i hi]
  edge2At _ i hi := by rw [hs i hi]

theorem samples_self {a : Axis α} {s : Slice} (hlen : s.len = a.size) (hs : s.IsIdentity) :
    a.Samples a s :=
  samples_of_fixed hlen fun i _ => hs.index i

/-- A function that agrees at the indices of a slice agrees with the checks of the indices. -/
theorem Samples.checked {β : Type} {b a : Axis α} {s : Slice} (h : b.Samples a s) {f g : Nat → β}
    (hfg : ∀ i < s.len, f i = g (s.index i)) (i : Nat) :
    b.checked i f = s.element i >>= fun j => a.checked j g := by
  by_cases hi : i < s.len
  · rw [Slice.element_of_lt hi, ok_bind, checked_of_lt (h.below i hi), checked_of_lt (h.size ▸ hi),
      hfg i hi]
  · rw [Slice.element_of_le (Nat.le_of_not_lt hi), error_bind,
      checked_of_le (by rw [h.size]; omega), h.size]

theorem Samples.coordinateAt {b a : Axis α} {s : Slice} (h : b.Samples a s) {i : Nat}
    (hi : i < s.len) : b.coordinateAt i = a.coordinateAt (s.index i) := by
  unfold Axis.coordinateAt
  rw [h.isInterval]
  split_ifs with hint
  · simp only [cellAt, h.edge1At hint i hi, h.edge2At hint i hi]
  · rw [h.midpointAt i hi]

end Samples

/-! ### Coordinates that are stored or exact -/

section Precise

variable {α : Type} [Scalar α]

/-- The coordinates of the axis are stored, or else they are computed exactly. -/
def Precise (a : Axis α) : Prop := a.spacing.isRegular = true → Scalar.Exact α

theorem precise_rat (a : Axis ℚ) : a.Precise := fun _ => inferInstance

/-- The midpoint of a cell is the center of its edges. -/
theorem midpointAt_eq_center {a : Axis α} (ha : a.Precise) (h : a.spacing.isInterval = true) (i : Nat) :
    a.midpointAt i = (a.edge1At i + a.edge2At i) / 2 := by
  cases hsp : a.spacing with
  | regularPoint => simp [hsp, Spacing.isInterval] at h
  | irregularPoint => simp [hsp, Spacing.isInterval] at h
  | regularInterval =>
    have hexact := ha (by rw [hsp]; rfl)
    simp only [midpointAt, edge1At, edge2At, hsp, hexact.center_eq]
  | contiguousInterval => simp only [midpointAt, hsp]
  | discontiguousInterval => simp only [midpointAt, hsp]

variable {a b : Axis α} {s : Slice} {last : Nat} {range : Slice}

/-- Only a regular axis has regular parts, and then of its own spacing. -/
theorem spacing_of_regular (h : (a.draftOf s last).spacing = some b.spacing)
    (hreg : b.spacing.isRegular = true) : a.spacing = b.spacing := by
  unfold draftOf at h
  split at h <;> (try split_ifs at h) <;> first
    | exact Option.some.inj h
    | (rw [← Option.some.inj h] at hreg; cases hreg)

/-- What is taken of coordinates that are stored or exact is so as well. -/
theorem Precise.take (ha : a.Precise) (h : a.take s = .ok b) : b.Precise := fun hreg => by
  obtain ⟨last, range, -, -, -, hm⟩ := take_eq_ok.1 h
  exact ha ((spacing_of_regular hm.spacing hreg).symm ▸ hreg)

/-- What a part of an axis has of its draft. -/
theorem draft_of_makes {d : Draft α} (hdraft : a.draftOf s last = d)
    (hm : (a.partOf s last range).Makes b) :
    d.spacing = some b.spacing ∧ b.resolution = d.resolution ∧
      (b.spacing.isRegular = true → b.start = d.start) ∧
      (b.spacing.isRegular = false → d.values = some b.values) := by
  subst hdraft
  exact ⟨hm.spacing, hm.resolution, fun h => hm.start_eq h, fun h => hm.values_eq h⟩

theorem samples_of_regularPoint (ha : a.Precise) (hsp : a.spacing = .regularPoint) (ht : Taken a b s)
    (hm : (a.partOf s last range).Makes b) : b.Samples a s := by
  have hdraft : a.draftOf s last = a.toDraft.regular s.len (a.midpointAt s.first)
      (a.midpointAt last) (a.resolution * Scalar.ofNat s.stride) := by
    unfold draftOf
    rw [hsp]
  obtain ⟨hspacing, hres, hstart, -⟩ := draft_of_makes hdraft hm
  have hb : b.spacing = .regularPoint := (Option.some.inj hspacing).symm.trans hsp
  have hstart : b.start = a.midpointAt s.first := hstart (by rw [hb]; rfl)
  have hres : b.resolution = a.resolution * Scalar.ofNat s.stride := hres
  have hint : a.spacing.isInterval ≠ true := by rw [hsp]; decide
  have hexact := ha (by rw [hsp]; rfl)
  refine ⟨ht.size, ht.below, by rw [hb, hsp], ?_, fun h => absurd h hint, fun h => absurd h hint⟩
  intro i _
  simp only [midpointAt, hb, hsp, hstart, hres, Slice.index, hexact.steps_add]

theorem samples_of_irregularPoint (hsp : a.spacing = .irregularPoint) (ht : Taken a b s)
    (hm : (a.partOf s last range).Makes b) : b.Samples a s := by
  have hdraft : a.draftOf s last =
      { a.toDraft with size := s.len, values := some (s.indices.map a.value) } := by
    unfold draftOf
    rw [hsp]
  obtain ⟨hspacing, -, -, hvalues⟩ := draft_of_makes hdraft hm
  have hb : b.spacing = .irregularPoint := (Option.some.inj hspacing).symm.trans hsp
  have hvalues : b.values = s.indices.map a.value :=
    (Option.some.inj (hvalues (by rw [hb]; rfl))).symm
  have hint : a.spacing.isInterval ≠ true := by rw [hsp]; decide
  refine ⟨ht.size, ht.below, by rw [hb, hsp], ?_, fun h => absurd h hint, fun h => absurd h hint⟩
  intro i hi
  simp only [midpointAt, hb, hsp]
  rw [value_eq hvalues, Slice.getD_map_indices _ _ _ hi]

/-- Cells that follow from both edges have their midpoints with them. -/
theorem samples_of_edges (hpa : a.Precise) (hpb : b.Precise) (ha : a.spacing.isInterval = true)
    (hb : b.spacing.isInterval = true) (ht : Taken a b s)
    (h₁ : ∀ i < s.len, b.edge1At i = a.edge1At (s.index i))
    (h₂ : ∀ i < s.len, b.edge2At i = a.edge2At (s.index i)) : b.Samples a s := by
  refine ⟨ht.size, ht.below, by rw [ha, hb], ?_, fun _ => h₁, fun _ => h₂⟩
  intro i hi
  rw [midpointAt_eq_center hpb hb, midpointAt_eq_center hpa ha, h₁ i hi, h₂ i hi]

/-- Cells that are stored one by one keep both edges. -/
theorem samples_of_spread (ha : a.Precise) (hint : a.spacing.isInterval = true) (ht : Taken a b s)
    (hdraft : a.draftOf s last = a.spreadOf s) (hm : (a.partOf s last range).Makes b) :
    b.Samples a s := by
  obtain ⟨hspacing, -, -, hvalues⟩ := draft_of_makes hdraft hm
  have hb : b.spacing = .discontiguousInterval := (Option.some.inj hspacing).symm
  have hvalues : b.values = a.edgesOf s := (Option.some.inj (hvalues (by rw [hb]; rfl))).symm
  have hstored : b.Precise := fun hreg => by
    rw [hb] at hreg
    cases hreg
  refine samples_of_edges ha hstored hint (by rw [hb]; rfl) ht ?_ ?_
  · intro i hi
    simp only [edge1At, hb]
    rw [value_eq hvalues, (getD_edgesOf a s _ hi).1]
    rfl
  · intro i hi
    simp only [edge2At, hb]
    rw [value_eq hvalues, (getD_edgesOf a s _ hi).2]
    rfl

theorem samples_of_regularInterval (ha : a.Precise) (hsp : a.spacing = .regularInterval)
    (hs : s.stride = 1) (ht : Taken a b s) (hm : (a.partOf s last range).Makes b) : b.Samples a s := by
  have hdraft : a.draftOf s last = a.toDraft.regular s.len (a.edge1At s.first) (a.edge2At last)
      a.resolution := by
    unfold draftOf
    rw [hsp]
    exact if_pos hs
  obtain ⟨hspacing, hres, hstart, -⟩ := draft_of_makes hdraft hm
  have hb : b.spacing = .regularInterval := (Option.some.inj hspacing).symm.trans hsp
  have hstart : b.start = a.edge1At s.first := hstart (by rw [hb]; rfl)
  have hres : b.resolution = a.resolution := hres
  have hexact := ha (by rw [hsp]; rfl)
  -- A step of the part is one step of the axis.
  have hstep : ∀ i, b.start + Scalar.ofNat i * b.resolution =
      a.start + Scalar.ofNat (s.first + i) * a.resolution := fun i => by
    have hadd := hexact.steps_add a.start a.resolution s.first i 1
    rw [hexact.step_one, Nat.mul_one] at hadd
    rw [hstart, hres, ← hadd, edge1At, hsp]
  refine samples_of_edges ha (fun _ => hexact) (by rw [hsp]; rfl) (by rw [hb]; rfl) ht ?_ ?_
  · intro i _
    simp only [edge1At, hb, hsp, hstep, Slice.index, hs, Nat.mul_one]
  · intro i _
    simp only [edge2At, hb, hsp, hstep, Slice.index, hs, Nat.mul_one, Nat.add_assoc]

theorem samples_of_contiguousInterval (ha : a.Precise) (hsp : a.spacing = .contiguousInterval) (hs : s.stride = 1)
    (hl : s.last = some last) (ht : Taken a b s) (hm : (a.partOf s last range).Makes b) :
    b.Samples a s := by
  have hdraft : a.draftOf s last = { a.toDraft with
      size := s.len
      values := some ((a.values.drop s.first).take (last + 2 - s.first)) } := by
    unfold draftOf
    rw [hsp]
    exact if_pos hs
  obtain ⟨hspacing, -, -, hvalues⟩ := draft_of_makes hdraft hm
  have hb : b.spacing = .contiguousInterval := (Option.some.inj hspacing).symm.trans hsp
  have hvalues : b.values = (a.values.drop s.first).take (last + 2 - s.first) :=
    (Option.some.inj (hvalues (by rw [hb]; rfl))).symm
  -- There is one more edge than there are cells, so `i` may be the number of cells here.
  have hvalue : ∀ i ≤ s.len, b.value i = a.value (s.first + i) := by
    intro i hi
    obtain ⟨hpos, rfl⟩ := Slice.last_eq_some.1 hl
    have hlt : i < s.index (s.len - 1) + 2 - s.first := by
      simp only [Slice.index, hs]
      omega
    rw [value_eq hvalues, List.getD, List.getElem?_take_of_lt hlt, List.getElem?_drop]
    rfl
  have hstored : b.Precise := fun hreg => by
    rw [hb] at hreg
    cases hreg
  refine samples_of_edges ha hstored (by rw [hsp]; rfl) (by rw [hb]; rfl) ht ?_ ?_
  · intro i hi
    simp only [edge1At, hb, hsp, Slice.index, hs, Nat.mul_one]
    exact hvalue i (Nat.le_of_lt hi)
  · intro i hi
    simp only [edge2At, hb, hsp, Slice.index, hs, Nat.mul_one]
    exact hvalue (i + 1) hi

/-- **A slice of an axis has the coordinates at its indices.** -/
theorem samples_of_take (ha : a.Precise) (h : a.take s = .ok b) : b.Samples a s := by
  have ht := taken_of_take h
  obtain ⟨last, range, hl, -, -, hm⟩ := take_eq_ok.1 h
  cases hsp : a.spacing with
  | regularPoint => exact samples_of_regularPoint ha hsp ht hm
  | irregularPoint => exact samples_of_irregularPoint hsp ht hm
  | regularInterval =>
    by_cases hs : s.stride = 1
    · exact samples_of_regularInterval ha hsp hs ht hm
    · refine samples_of_spread ha (by rw [hsp]; rfl) ht ?_ hm
      simp [draftOf, hsp, hs]
  | contiguousInterval =>
    by_cases hs : s.stride = 1
    · exact samples_of_contiguousInterval ha hsp hs hl ht hm
    · refine samples_of_spread ha (by rw [hsp]; rfl) ht ?_ hm
      simp [draftOf, hsp, hs]
  | discontiguousInterval =>
    refine samples_of_spread ha (by rw [hsp]; rfl) ht ?_ hm
    simp [draftOf, hsp]

/-! ### Success -/

/-- What is stored of a slice of an axis is as much as its spacing needs. -/
theorem exists_stored_draftOf (hp : a.Precise) (ha : a.WellFormed) (hl : s.last = some last)
    (hlt : last < a.size) : ∃ spacing, (a.draftOf s last).spacing = some spacing ∧
      ∃ t, (a.draftOf s last).stored spacing s.len = .ok t := by
  have hfinite : a.spacing.isRegular = true → ∀ x : α, Scalar.isFinite x = true :=
    fun hreg => (hp hreg).isFinite_eq
  -- Cells that need not touch take two values each, whatever the stride.
  have hspread : ∃ t, (a.spreadOf s).stored .discontiguousInterval s.len = .ok t :=
    ⟨_, (Draft.stored_irregular rfl).2 ⟨_, rfl, length_edgesOf a s, rfl⟩⟩
  obtain ⟨hpos, rfl⟩ := Slice.last_eq_some.1 hl
  cases hsp : a.spacing with
  | regularPoint =>
    simp only [draftOf, hsp]
    have hfinite := hfinite (by rw [hsp]; rfl)
    exact ⟨_, congrArg some hsp, _,
      (Draft.stored_regular rfl).2 ⟨rfl, hfinite _, hfinite _, rfl⟩⟩
  | irregularPoint =>
    simp only [draftOf, hsp]
    refine ⟨_, congrArg some hsp, _, (Draft.stored_irregular rfl).2 ⟨_, rfl, ?_, rfl⟩⟩
    rw [List.length_map, Slice.length_indices]
    rfl
  | regularInterval =>
    by_cases hs : s.stride = 1
    · simp only [draftOf, hsp, if_pos hs]
      have hfinite := hfinite (by rw [hsp]; rfl)
      exact ⟨_, congrArg some hsp, _,
        (Draft.stored_regular rfl).2 ⟨rfl, hfinite _, hfinite _, rfl⟩⟩
    · simp only [draftOf, hsp, if_neg hs]
      exact ⟨_, rfl, hspread⟩
  | contiguousInterval =>
    by_cases hs : s.stride = 1
    · simp only [draftOf, hsp, if_pos hs]
      refine ⟨_, congrArg some hsp, _, (Draft.stored_irregular rfl).2 ⟨_, rfl, ?_, rfl⟩⟩
      -- The slice of the edges ends one beyond the last cell, which is still an edge of the axis.
      have hlen : a.values.length = a.size + 1 := by rw [ha.length_values, hsp]; rfl
      simp only [Slice.index, hs] at hlt ⊢
      rw [List.length_take, List.length_drop, hlen]
      show _ = s.len + 1
      omega
    · simp only [draftOf, hsp, if_neg hs]
      exact ⟨_, rfl, hspread⟩
  | discontiguousInterval =>
    simp only [draftOf, hsp]
    exact ⟨_, rfl, hspread⟩

/-- A slice within the axis can be taken. -/
theorem exists_take (hp : a.Precise) (ha : a.WellFormed) (hpos : 0 < s.len) (hbelow : s.Below a.size)
    (hscalar : a.dependence = .scalar → s.len = 1) : ∃ b, a.take s = .ok b := by
  obtain ⟨last, hl⟩ : ∃ last, s.last = some last := ⟨_, Slice.last_eq_some.2 ⟨hpos, rfl⟩⟩
  have hlt : last < a.size := (Slice.below_iff_last_lt hl _).1 hbelow
  obtain ⟨range, hrange⟩ := Slice.exists_compose_iff.2 (ha.len_range ▸ hbelow)
  have hlabel : (a.partOf s last range).label = a.label := label_draftOf a s last
  have hdep : (a.partOf s last range).dependence = a.dependence := congrArg Label.dependence hlabel
  have hkind : (a.partOf s last range).kind = a.kind := congrArg Label.kind hlabel
  have hparents : (a.partOf s last range).parents = a.parents := congrArg Label.parents hlabel
  obtain ⟨spacing, hspacing, hstored⟩ := exists_stored_draftOf hp ha hl hlt
  obtain ⟨b, hb⟩ : ∃ b, (a.partOf s last range).build = .ok b := by
    refine Draft.exists_build hspacing ?_ ?_ ?_ ?_
    · rw [Draft.checkDependence_eq_ok, hdep, hkind, hparents]
      exact ⟨ha.kind_ne_none, ha.parents_ne_nil⟩
    · rw [count_partOf a last range hpos, Draft.checkCount_eq_ok, hdep]
      exact ⟨hpos, hscalar⟩
    · rw [count_partOf a last range hpos]
      exact hstored
    · rw [count_partOf a last range hpos]
      exact ⟨_, Draft.rangeFor_eq_ok.2 ⟨(Slice.reads_of_compose hrange).len, rfl⟩⟩
  exact ⟨b, take_eq_ok.2 ⟨last, range, hl, hbelow, hrange, Draft.build_eq_ok.1 hb⟩⟩

omit [Scalar α] in
/-- A slice of a scalar axis is a single index, unless it repeats one. -/
theorem WellFormed.len_of_scalar (ha : a.WellFormed) (hs : 0 < s.stride) (hpos : 0 < s.len)
    (hbelow : s.Below a.size) (h : a.dependence = .scalar) : s.len = 1 :=
  Slice.len_eq_one hs hpos (ha.size_scalar h ▸ hbelow)

theorem exists_take_iff (hp : a.Precise) (ha : a.WellFormed) (hs : 0 < s.stride) :
    (∃ b, a.take s = .ok b) ↔ ∃ last, s.last = some last ∧ last < a.size := by
  constructor
  · rintro ⟨b, hb⟩
    obtain ⟨last, -, hl, hbelow, -⟩ := take_eq_ok.1 hb
    exact ⟨last, hl, (Slice.below_iff_last_lt hl _).1 hbelow⟩
  · rintro ⟨last, hl, hlt⟩
    have hpos : 0 < s.len := (Slice.last_eq_some.1 hl).1
    have hbelow : s.Below a.size := (Slice.below_iff_last_lt hl _).2 hlt
    exact exists_take hp ha hpos hbelow (ha.len_of_scalar hs hpos hbelow)

end Precise

/-! ### Chains -/

section Chains

variable {a b : Axis ℚ}

theorem built_of_foldlM {l : List Slice} (ha : a.Built) (h : l.foldlM take a = .ok b) :
    b.Built :=
  foldlM_eq_ok_induction (fun _ _ _ _ _ hstep => (taken_of_take hstep).built) ha h

/-- Each step of a chain leaves the axis at the indices of its range. -/
theorem samples_of_foldlM {l : List Slice} (ha : a.WellFormed) (hr : a.range.IsIdentity)
    (h : l.foldlM take a = .ok b) : b.Samples a b.range := by
  have hstep : ∀ c : Axis ℚ, ∀ s ∈ l, ∀ d, c.Samples a c.range → c.take s = .ok d →
      d.Samples a d.range :=
    fun c s _ d hc hd => (samples_of_take (precise_rat c) hd).trans hc (taken_of_take hd).range
  exact foldlM_eq_ok_induction hstep (samples_self ha.len_range hr) h

/-- **A chain of slices reads the first axis.** The next slice of the chain is taken exactly if it
picks something and nothing beyond the end, and the product of its stride and of that of the range fits
into a word. If only this product does not fit, there is no answer; then the slice picks one index, which
needs no stride. Every coordinate so far is that of the first axis at the index that the range tells, and
so are both edges of a cell. -/
theorem chain_reads_first {a f : Axis ℚ} {l : List Slice} (ha : a.Built)
    (hr : a.range.IsIdentity) (h : l.foldlM takeWord a = pure f) :
    (∀ s : Slice, 0 < s.stride →
      ((∃ g, f.takeWord s = pure g) ↔
        (∃ last, s.last = some last ∧ last < f.size) ∧ f.range.StrideFits s) ∧
      (f.takeWord s = brokenOff ↔
        (∃ last, s.last = some last ∧ last < f.size) ∧ ¬f.range.StrideFits s) ∧
      (a.size ≤ UInt64.size → f.takeWord s = brokenOff → s.len = 1)) ∧
    f.size = f.range.len ∧
    (∀ k, f.midpoint k = f.range.element k >>= a.midpoint) ∧
    (a.spacing.isInterval = true →
      ∀ k, f.edge1 k = f.range.element k >>= a.edge1 ∧
        f.edge2 k = f.range.element k >>= a.edge2) := by
  have hexact : l.foldlM take a = .ok f := (Agrees.foldlM agrees_takeWord l a).eq_ok h
  have hf : f.WellFormed := (built_of_foldlM ha hexact).wellFormed
  have hsamples : f.Samples a f.range := samples_of_foldlM ha.wellFormed hr hexact
  refine ⟨fun s hs => ⟨?_, takeWord_eq_brokenOff hf.len_range, fun hwords hbroken => ?_⟩,
    hsamples.size, ?_, ?_⟩
  · simp only [takeWord_eq_pure, exists_and_right, exists_take_iff (precise_rat f) hf hs]
  · obtain ⟨⟨last, hl, hlt⟩, hwide⟩ := (takeWord_eq_brokenOff hf.len_range).1 hbroken
    have hbelow : s.Below f.range.len := (Slice.below_iff_last_lt hl _).2 (hf.len_range ▸ hlt)
    by_contra hlen
    exact hwide (Slice.strideFits_of_below hsamples.below hwords hbelow hlen)
  · exact hsamples.checked hsamples.midpointAt
  · intro hint k
    exact ⟨hsamples.checked (hsamples.edge1At hint) k, hsamples.checked (hsamples.edge2At hint) k⟩

/-- Five cells that touch. -/
def touchingCells : Draft ℚ :=
  { Draft.blank with
    name := "depth"
    kind := some .geoZ
    spacing := some .contiguousInterval
    values := some [0, 1, 3, 6, 10, 15] }

/-- Every other cell, and then the second of these, is the third cell. -/
theorem chain_reads_first_touchingCells :
    ∃ a f : Axis ℚ, touchingCells.build = .ok a ∧
      [⟨none, 0, 3, 2⟩, Slice.single 1].foldlM takeWord a = pure f ∧
      (∃ g, f.takeWord (.single 0) = pure g) ∧
      f.size = 1 ∧ f.spacing = .discontiguousInterval ∧ f.midpoint 0 = a.midpoint 2 ∧
      f.edge1 0 = .ok 3 ∧ f.edge2 0 = .ok 6 := by
  have ha : touchingCells.build = .ok _ := rfl
  obtain ⟨hnext, hsize, hmid, hedges⟩ :=
    chain_reads_first (l := [⟨none, 0, 3, 2⟩, Slice.single 1]) ⟨touchingCells, ha⟩
      ((Draft.build_eq_ok.1 ha).isIdentity_range rfl) rfl
  have hfits : Slice.StrideFits ⟨some "GeoZ", 2, 1, 2⟩ (.single 0) := fun _ => by decide
  exact ⟨_, _, ha, rfl, (hnext (.single 0) Nat.one_pos).1.2 ⟨⟨0, rfl, Nat.one_pos⟩, hfits⟩, hsize, rfl,
    hmid 0, (hedges rfl 0).1, (hedges rfl 0).2⟩

/-- The first cell in very wide steps, and again the first of these. The second slice picks one cell that
is there, but there is no answer, as the product of the steps is too large. -/
theorem not_chain_reads_first_touchingCells :
    ∃ a f : Axis ℚ, ∃ wide double : Slice, touchingCells.build = .ok a ∧ a.range.IsIdentity ∧
      Slice.strided 0 0 9223372036854775808 = .ok wide ∧ Slice.strided 0 0 2 = .ok double ∧
      [wide].foldlM takeWord a = pure f ∧ (∃ last, double.last = some last ∧ last < f.size) ∧
      f.takeWord double = brokenOff ∧ ¬∃ g, f.takeWord double = pure g := by
  have ha : touchingCells.build = .ok _ := rfl
  refine ⟨_, _, _, _, ha, (Draft.build_eq_ok.1 ha).isIdentity_range rfl, rfl, rfl, rfl,
    ⟨0, rfl, Nat.one_pos⟩, rfl, ?_⟩
  rintro ⟨g, hg⟩
  cases hg

end Chains

end Gridded.Axis
