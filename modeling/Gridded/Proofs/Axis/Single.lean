import Gridded.Axis.Timed
import Gridded.Proofs.Axis.Accessing
import Gridded.Proofs.Axis.Taking

/-!
# Axes of one coordinate

On an axis of one coordinate every search ends at the same index, whatever it was that a longer axis was
searched for. Taking this index of an axis that is left of a longer one changes nothing.

* `Slice.again`: the slice that picks the only index of what a slice picked;
* `Axis.closest_of_one`, `Axis.closestCell_of_one`: the searches, in exact arithmetic;
* `SystemAxis.selectedRange_again`: what a selection picks on what it left of an axis;
* `Axis.take_again`: the part of a part.
-/

namespace Gridded

/-- The slice that picks the only index of what was picked. -/
def Slice.again (r : Option Slice) : Option Slice := r.map fun _ => .single 0

namespace Axis

/-! ### Searching -/

section Searching

variable {a b : Axis ℚ} {s : Selection ℚ}

theorem indices_of_one (hb : b.size = 1) : b.indices = [0] := by
  rw [indices, hb]
  rfl

theorem closest_of_one (hb : b.size = 1) (x : ℚ) : b.closest x = .ok 0 := by
  -- The only cell may contain the number or not, and is found in either case.
  have hcell : b.containing x = [] ∨ b.containing x = [0] := by
    rw [containing, indices_of_one hb]
    split_ifs
    · cases hin : (b.cellAt 0).contains x <;> simp [hin]
    · exact .inl rfl
  rw [closest, if_neg (by exact Bool.false_ne_true), indices_of_one hb]
  rcases hcell with hcell | hcell <;> rw [hcell] <;> rfl

theorem closestCell_of_one (hb : b.size = 1) (c : Interval ℚ) : b.closestCell c = .ok 0 := by
  rw [closestCell, if_neg (by exact Bool.false_ne_true), indices_of_one hb, closest_of_one hb]
  split_ifs <;> rfl

/-! ### Selecting -/

theorem pick_again (hb : b.size = 1) {point : Option ℚ} {cell : Option (Interval ℚ)} {o : Option Nat}
    (h : a.pick point cell = .ok o) : b.pick point cell = .ok (o.map fun _ => 0) := by
  rcases point with _ | x
  · rcases cell with _ | c
    · cases h
      rfl
    · obtain ⟨i, -, rfl⟩ := map_eq_ok.1 h
      simp only [pick, closestCell_of_one hb]
      rfl
  · obtain ⟨i, -, rfl⟩ := map_eq_ok.1 h
    simp only [pick, closest_of_one hb]
    rfl

theorem selectedIndex_again (hb : b.size = 1) {kind : AxisKind} {o : Option Nat}
    (h : a.selectedIndex s kind = .ok o) : b.selectedIndex s kind = .ok (o.map fun _ => 0) := by
  cases kind with
  | geoZ | height | pressure => exact pick_again hb h
  | ensemble => exact pick_again hb h
  | timeOffset =>
    obtain ⟨picked, hpicked, h⟩ := bind_eq_ok.1 h
    simp only [selectedIndex, pick_again hb hpicked, ok_bind]
    cases picked with
    | some i =>
      cases h
      rfl
    | none =>
      cases h
      cases s.firstTimeOffset <;> rfl
  | _ =>
    cases h
    rfl

theorem selectedRange_again (hb : b.size = 1) (hkind : b.kind = a.kind) {r : Option Slice}
    (h : a.selectedRange s = .ok r) : b.selectedRange s = .ok (Slice.again r) := by
  unfold selectedRange at h ⊢
  rw [hkind]
  split at h
  · cases h
    rfl
  · split_ifs at h ⊢ with hground
    obtain ⟨o, ho, rfl⟩ := map_eq_ok.1 h
    rw [selectedIndex_again hb ho]
    cases o <;> rfl

end Searching

end Axis

theorem TimeAxis.pick_again {t u : TimeAxis ℚ} (hu : u.axis.size = 1) {date : Option Instant}
    {latest : Bool} {r : Option Slice} (h : t.pick date latest = .ok r) :
    u.pick date latest = .ok (Slice.again r) := by
  cases date with
  | some date =>
    obtain ⟨i, -, rfl⟩ := map_eq_ok.1 h
    simp only [pick, Axis.closest_of_one hu]
    rfl
  | none =>
    cases h
    rw [pick, hu]
    cases latest <;> rfl

theorem TimeAxis.selectedRange_again {t u : TimeAxis ℚ} {s : Selection ℚ} (hu : u.axis.size = 1)
    (hkind : u.axis.kind = t.axis.kind) {r : Option Slice} (h : t.selectedRange s = .ok r) :
    u.selectedRange s = .ok (Slice.again r) := by
  unfold selectedRange at h ⊢
  rw [hkind]
  split at h
  · exact pick_again hu h
  · exact pick_again hu h
  · exact pick_again hu h
  · exact Axis.selectedRange_again hu hkind h

/-- What a selection picks on an axis, it picks again on the only coordinate that is left. -/
theorem SystemAxis.selectedRange_again {a b : SystemAxis ℚ} {s : Selection ℚ} (hb : b.size = 1)
    (hkind : b.axis.kind = a.axis.kind) (htimed : b.timed?.isSome = a.timed?.isSome)
    {r : Option Slice} (h : a.selectedRange s = .ok r) :
    b.selectedRange s = .ok (Slice.again r) := by
  cases a with
  | plain a =>
    cases b with
    | plain b => exact Axis.selectedRange_again hb hkind h
    | timed u => cases htimed
  | timed t =>
    cases b with
    | plain b => cases htimed
    | timed u => exact TimeAxis.selectedRange_again hb hkind h

/-! ### Taking -/

theorem Slice.compose_single_zero {s : Slice} (hs : s.len = 1) : s.compose (.single 0) = .ok s := by
  obtain ⟨name, first, len, stride⟩ := s
  cases hs
  simp [compose, last, index, single]

namespace Axis

/-- A slice that has the name of a kind keeps it. -/
theorem rangeNamed_of_name {kind : Option AxisKind} {s : Slice}
    (h : ∀ k, kind = some k → s.name = some k.name) : rangeNamed kind s = s := by
  cases kind with
  | none => rfl
  | some k =>
    obtain ⟨name, first, len, stride⟩ := s
    cases h k rfl
    rfl

variable {a b : Axis ℚ} {i : Nat}

/-- The end of a regular part of one coordinate is its point, or the end of its cell. -/
theorem stop_of_take_single (h : a.take (.single i) = .ok b) :
    (b.spacing = .regularPoint → b.stop = b.midpointAt 0) ∧
      (b.spacing = .regularInterval → b.stop = b.edge2At 0) := by
  have hsamples := samples_of_take (precise_rat a) h
  obtain ⟨last, range, hl, -, -, hm⟩ := take_eq_ok.1 h
  obtain rfl : i = last := by simpa [Slice.last, Slice.single, Slice.index] using hl
  have hstop : b.spacing.isRegular = true → b.stop = (a.draftOf (.single i) i).stop := fun hreg => by
    obtain ⟨-, -, -, ht⟩ := (Draft.stored_regular hreg).1 hm.stored
    exact congrArg (fun t => t.2.1) ht
  constructor
  · intro hb
    have hreg : b.spacing.isRegular = true := by rw [hb]; rfl
    have ha : a.spacing = .regularPoint := (spacing_of_regular hm.spacing hreg).trans hb
    rw [hstop hreg, hsamples.midpointAt 0 Nat.one_pos, Slice.index_single, draftOf, ha]
    rfl
  · intro hb
    have hreg : b.spacing.isRegular = true := by rw [hb]; rfl
    have ha : a.spacing = .regularInterval := (spacing_of_regular hm.spacing hreg).trans hb
    rw [hstop hreg, hsamples.edge2At (by rw [ha]; rfl) 0 Nat.one_pos, Slice.index_single, draftOf, ha]
    rfl

/-- The draft of the only coordinate of an axis keeps the spacing, the resolution and the stored
values. -/
theorem draftOf_of_one (hb : b.WellFormed) (hsize : b.size = 1) :
    (b.draftOf (.single 0) 0).spacing = some b.spacing ∧
      (b.draftOf (.single 0) 0).resolution = b.resolution ∧
      (b.spacing.isRegular = false → (b.draftOf (.single 0) 0).values = some b.values) := by
  have hlength := hb.length_values
  rw [hsize] at hlength
  have hunit : b.resolution * Scalar.ofNat 1 = b.resolution := by
    rw [ofNat_rat, Nat.cast_one, mul_one]
  cases hsp : b.spacing with
  | regularPoint =>
    simp only [draftOf, hsp]
    exact ⟨congrArg some hsp, hunit, fun hreg => by cases hreg⟩
  | regularInterval =>
    simp only [draftOf, hsp]
    exact ⟨congrArg some hsp, rfl, fun hreg => by cases hreg⟩
  | irregularPoint =>
    rw [hsp] at hlength
    obtain ⟨v, hv⟩ := List.length_eq_one_iff.1 hlength
    simp only [draftOf, hsp]
    refine ⟨congrArg some hsp, rfl, fun _ => ?_⟩
    simp [Slice.indices, Slice.single, Slice.index, value, hv]
  | contiguousInterval =>
    rw [hsp] at hlength
    obtain ⟨v, w, hvw⟩ := List.length_eq_two.1 hlength
    simp only [draftOf, hsp]
    refine ⟨congrArg some hsp, rfl, fun _ => ?_⟩
    simp [Slice.single, hvw]
  | discontiguousInterval =>
    rw [hsp] at hlength
    obtain ⟨v, w, hvw⟩ := List.length_eq_two.1 hlength
    simp only [draftOf, hsp]
    refine ⟨rfl, hunit, fun _ => ?_⟩
    simp [spreadOf, edgesOf, Slice.indices, Slice.single, Slice.index, edge1At, edge2At, hsp, value, hvw]

theorem midpointAt_zero_of_regularPoint (hb : b.spacing = .regularPoint) : b.midpointAt 0 = b.start := by
  simp [midpointAt, hb, ofNat_rat]

theorem edge1At_zero_of_regularInterval (hb : b.spacing = .regularInterval) :
    b.edge1At 0 = b.start := by
  simp [edge1At, hb, ofNat_rat]

/-- What is stored of the only coordinate of a part is what the part stores. -/
theorem stored_again (h : a.take (.single i) = .ok b) :
    (b.draftOf (.single 0) 0).stored b.spacing b.size = .ok (b.start, b.stop, b.values) := by
  have ht := taken_of_take h
  obtain ⟨-, -, hvalues⟩ := draftOf_of_one ht.built.wellFormed ht.size
  obtain ⟨hpoint, hcell⟩ := stop_of_take_single h
  obtain ⟨last, range, -, -, -, hm⟩ := take_eq_ok.1 h
  cases hreg : b.spacing.isRegular with
  | false =>
    -- The first and the last value are those that made the part.
    obtain ⟨values, -, hlength, hends⟩ := (Draft.stored_irregular hreg).1 hm.stored
    obtain rfl : b.values = values := congrArg (fun t => t.2.2) hends
    exact (Draft.stored_irregular hreg).2 ⟨b.values, hvalues hreg, hlength, hends⟩
  | true =>
    obtain ⟨-, -, -, hends⟩ := (Draft.stored_regular hreg).1 hm.stored
    have hnone : b.values = [] := congrArg (fun t => t.2.2) hends
    refine (Draft.stored_regular hreg).2 ?_
    cases hsp : b.spacing with
    | regularPoint =>
      simp only [draftOf, hsp, hnone, hpoint hsp, Slice.single, midpointAt_zero_of_regularPoint hsp]
      exact ⟨rfl, rfl, rfl, by simp [Draft.regular]⟩
    | regularInterval =>
      simp only [draftOf, hsp, hnone, hcell hsp, Slice.single, edge1At_zero_of_regularInterval hsp]
      exact ⟨rfl, rfl, rfl, by simp [Draft.regular]⟩
    | _ => rw [hsp] at hreg; cases hreg

/-- A part of one coordinate is the part of itself at its only index. -/
theorem take_again (h : a.take (.single i) = .ok b) : b.take (.single 0) = .ok b := by
  have ht := taken_of_take h
  have hsize : b.size = 1 := ht.size
  have hintact := ht.built.intact
  obtain ⟨hspacing, hresolution, -⟩ := draftOf_of_one hintact.toWellFormed hsize
  have hcompose := Slice.compose_single_zero (hintact.len_range.trans hsize)
  have hlabel : (b.partOf (.single 0) 0 b.range).label = b.label := label_draftOf b _ _
  have hdep : (b.partOf (.single 0) 0 b.range).dependence = b.dependence :=
    congrArg Label.dependence hlabel
  have hkind : (b.partOf (.single 0) 0 b.range).kind = b.kind := congrArg Label.kind hlabel
  have hparents : (b.partOf (.single 0) 0 b.range).parents = b.parents :=
    congrArg Label.parents hlabel
  refine take_eq_ok.2 ⟨0, b.range, rfl, hsize ▸ Slice.below_whole none 1, hcompose, hlabel.symm,
    hspacing, ?_, hresolution.symm, ht.isSubset, ?_, ?_, stored_again h, ?_⟩
  · rw [count_partOf b 0 b.range Nat.one_pos]
    exact hsize
  · rw [Draft.checkDependence_eq_ok, hdep, hkind, hparents]
    exact ⟨hintact.kind_ne_none, hintact.parents_ne_nil⟩
  · rw [Draft.checkCount_eq_ok, hdep]
    exact ⟨hintact.size_pos, hintact.size_scalar⟩
  · refine Draft.rangeFor_eq_ok.2 ⟨hintact.len_range, ?_⟩
    rw [hkind]
    exact (rangeNamed_of_name hintact.name_range).symm

end Axis

end Gridded
