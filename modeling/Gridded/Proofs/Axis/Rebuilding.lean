import Gridded.Proofs.Axis.Single
import Gridded.Proofs.System.Provenance

/-!
# Building an axis again

An axis can be turned back into a draft. Building recomputes from the draft what the axis holds: the number
of coordinates, the ends, the values and the name of the range. On the axes that pass every check again,
and on no others, all of this comes out as it was.

* `Axis.Rebuildable`: the invariant of the fields together with what is checked of regular coordinates;
* `Axis.build_toDraft_eq_ok`: the axes that their own draft builds; every axis that some draft builds is one
  of them (`Axis.Built.rebuildable`);
* `Axis.build_toDraft_of_produced`: so is every axis that arises from settings, slices and selections.
-/

namespace Gridded.Axis

variable {α : Type} [Scalar α]

/-- The fields of an axis pass every check of building, those of regular coordinates included. -/
structure Rebuildable (a : Axis α) : Prop extends a.Intact where
  isFinite_resolution : a.spacing.isRegular = true → Scalar.isFinite a.resolution = true
  isFinite_start : a.spacing.isRegular = true → Scalar.isFinite a.start = true

theorem Built.rebuildable {a : Axis α} (h : a.Built) : a.Rebuildable := by
  have hintact : a.Intact := h.intact
  obtain ⟨d, hd⟩ := h
  have hm := Draft.build_eq_ok.1 hd
  refine ⟨hintact, fun hreg => ?_, fun hreg => ?_⟩
  · obtain ⟨-, hresolution, -⟩ := (Draft.stored_regular hreg).1 hm.stored
    rw [hm.resolution]
    exact hresolution
  · obtain ⟨-, -, hstart, -⟩ := (Draft.stored_regular hreg).1 hm.stored
    rw [hm.start_eq hreg]
    exact hstart

/-! ### What building finds in the draft of an axis -/

section Draft

variable {a : Axis α}

omit [Scalar α] in
/-- An axis with coordinates tells their number, so that its values need not be counted. -/
theorem count_toDraft (hsize : 0 < a.size) : a.toDraft.count a.spacing = a.size := by
  obtain ⟨n, hn⟩ := Nat.exists_eq_succ_of_ne_zero hsize.ne'
  simp only [Draft.count, toDraft, hn]

/-- The ends of an intact axis are found again among its values. -/
theorem Intact.ends_eq (ha : a.Intact) (hreg : a.spacing.isRegular = false) :
    a.start = a.values.getD 0 Scalar.nan ∧
      a.stop = a.values.getD (a.spacing.valuesLen a.size - 1) Scalar.nan := by
  have hstart := ha.start_eq hreg
  have hstop := ha.stop_eq hreg
  rw [List.head?_eq_getElem?] at hstart
  rw [List.getLast?_eq_getElem?, ha.length_values] at hstop
  simp only [List.getD, hstart, hstop, Option.getD_some, and_self]

/-- What is stored of an axis is stored again. -/
theorem Rebuildable.stored_toDraft (ha : a.Rebuildable) :
    a.toDraft.stored a.spacing a.size = .ok (a.start, a.stop, a.values) := by
  cases hreg : a.spacing.isRegular with
  | true =>
    -- A regular axis stores no values, and its draft gives none.
    have hlength : a.values.length = 0 := by
      rw [ha.length_values]
      cases hsp : a.spacing <;> simp_all [Spacing.isRegular, Spacing.valuesLen]
    have hnone : a.toDraft.values = none := by simp [toDraft, values?, hreg]
    refine (Draft.stored_regular hreg).2
      ⟨hnone, ha.isFinite_resolution hreg, ha.isFinite_start hreg, ?_⟩
    rw [List.length_eq_zero_iff.1 hlength]
    rfl
  | false =>
    have hsome : a.toDraft.values = some a.values := by simp [toDraft, values?, hreg]
    obtain ⟨hstart, hstop⟩ := ha.ends_eq hreg
    exact (Draft.stored_irregular hreg).2 ⟨a.values, hsome, ha.length_values, by rw [← hstart, ← hstop]⟩

/-- The draft of an axis builds that very axis exactly if the axis is rebuildable. -/
theorem build_toDraft_eq_ok : a.toDraft.build = .ok a ↔ a.Rebuildable := by
  refine ⟨fun h => Built.rebuildable ⟨_, h⟩, fun ha => Draft.build_eq_ok.2 ?_⟩
  exact
    { label := rfl
      spacing := rfl
      size := (count_toDraft ha.size_pos).symm
      resolution := rfl
      isSubset := rfl
      checkDependence := Draft.checkDependence_eq_ok.2 ⟨ha.kind_ne_none, ha.parents_ne_nil⟩
      checkCount := Draft.checkCount_eq_ok.2 ⟨ha.size_pos, ha.size_scalar⟩
      stored := ha.stored_toDraft
      range := Draft.rangeFor_eq_ok.2 ⟨ha.len_range, (rangeNamed_of_name ha.name_range).symm⟩ }

end Draft

/-- **Building an axis again changes nothing.** However the axis was made, remade and cut, the draft that it
is turned into builds, and what it builds has the same name, coordinates, ends, range and everything else. -/
theorem build_toDraft_of_produced {a : Axis α} (h : Produced a) : a.toDraft.build = .ok a :=
  build_toDraft_eq_ok.2 h.built.rebuildable

/-- Four layers of air over a time axis that they follow, the lowest edge of which is missing. -/
def driftingLayers : List (Setting Float) :=
  [.name "height", .kind .height, .dependence .dependent, .parents ["time"],
    .spacing .contiguousInterval, .values [Scalar.nan, 10, 30, 60, 100], .range ⟨some "z", 7, 4, 3⟩]

/-- Every other layer is taken, so that cells that touched are now apart, the first without its lower edge. -/
theorem build_toDraft_of_produced_driftingLayers :
    ∃ a b : Axis Float, (Draft.blank.setAll driftingLayers).build = .ok a ∧
      a.take ⟨none, 0, 2, 2⟩ = .ok b ∧ b.spacing = .discontiguousInterval ∧ b.isSubset = true ∧
      b.values = [Scalar.nan, 10, 30, 60] ∧ b.range = ⟨some "Height", 7, 2, 6⟩ ∧
      b.toDraft.build = .ok b := by
  have hproduced : ∀ a b : Axis Float, (Draft.blank.setAll driftingLayers).build = .ok a →
      a.take ⟨none, 0, 2, 2⟩ = .ok b → Produced b := fun a b ha hb => .take _ (.make _ ha) hb
  exact ⟨_, _, rfl, rfl, rfl, rfl, rfl, rfl, build_toDraft_of_produced (hproduced _ _ rfl rfl)⟩

end Gridded.Axis
