import Mathlib.Data.List.Nodup
import Mathlib.Data.Set.Defs
import Gridded.Proofs.Axis.Taking
import Gridded.Proofs.Slice.Association
import Gridded.Proofs.Slice.Views

/-!
# Where slices come from

Slices are made from their ends, renamed and composed, and read from documents, by themselves or as the
ranges of a selection. Whatever is made has a stride. Reading looks at no number, so a document may state
a slice without one, and it is then the only source of such slices.

* `Slice.StatedBy`: the slices that a document states; `Slice.statedBy_toDocument`,
  `Slice.statedBy_horizontal`: every slice in words is stated by some document;
* `Slice.Obtained`: the slices that arise when some documents are read; `Slice.Obtained.forward`;
* `Slice.views_agree`: what is made without reading answers consistently;
* `Slice.forward_iff`: everything has a stride exactly if the documents state it.
-/

namespace Gridded.Slice

variable {s : Slice} {D : Set Document}

/-! ### Documents -/

/-- The slices that a document states, by itself or as the ranges of a selection. -/
inductive StatedBy (d : Document) : Slice → Prop
  | alone {s : Slice} : ofDocument? d = some s → StatedBy d s
  | rows {p : Selection Float} {ranges : HorizontalRanges} :
      Selection.ofDocument? d = some p → p.horizontal = some ranges → StatedBy d ranges.y
  | columns {p : Selection Float} {ranges : HorizontalRanges} :
      Selection.ofDocument? d = some p → p.horizontal = some ranges → StatedBy d ranges.x

/-- The numbers of the slice fit into words. -/
structure InWords (s : Slice) : Prop where
  first : s.first < Document.wordSize
  len : s.len < Document.wordSize
  stride : s.stride < Document.wordSize

theorem natural?_whole {n : Nat} (h : n < Document.wordSize) :
    (Document.whole n).natural? = some n := by
  have hword : (0 : Int) ≤ n ∧ (n : Int) < Document.wordSize :=
    ⟨Int.natCast_nonneg n, Int.ofNat_lt.2 h⟩
  simp only [Document.natural?, if_pos hword, Int.toNat_natCast]

theorem optional?_ofText? (name : Option String) :
    (Document.ofText? name).optional? Document.text? = some name := by
  cases name <;> rfl

theorem bind_of_eq_some {β γ : Type} {x : Option β} {b : β} (h : x = some b) (f : β → Option γ) :
    x >>= f = f b := by
  rw [h]
  rfl

/-- Reading a slice back checks nothing but the size of its numbers. -/
theorem ofDocument?_toDocument (h : s.InWords) : ofDocument? s.toDocument = some s := by
  have hname : (s.toDocument.get "name").optional? Document.text? = some s.name :=
    optional?_ofText? s.name
  have hfirst : s.toDocument.field? "first" = some (.whole s.first) := rfl
  have hlen : s.toDocument.field? "len" = some (.whole s.len) := rfl
  have hstride : s.toDocument.field? "stride" = some (.whole s.stride) := rfl
  show (do
    return Slice.mk (← (s.toDocument.get "name").optional? Document.text?)
      (← (← s.toDocument.field? "first").natural?) (← (← s.toDocument.field? "len").natural?)
      (← (← s.toDocument.field? "stride").natural?)) = some s
  rw [bind_of_eq_some hname, bind_of_eq_some hfirst, bind_of_eq_some (natural?_whole h.first),
    bind_of_eq_some hlen, bind_of_eq_some (natural?_whole h.len), bind_of_eq_some hstride,
    bind_of_eq_some (natural?_whole h.stride)]
  rfl

theorem statedBy_toDocument (h : s.InWords) : StatedBy s.toDocument s :=
  .alone (ofDocument?_toDocument h)

/-- A selection of rows and columns, in exchange form. -/
def horizontalDocument (rows columns : Slice) : Document :=
  .table [("horiz_ranges", .table [("y", rows.toDocument), ("x", columns.toDocument)])]

theorem ofDocument?_horizontalDocument {columns : Slice} (hs : s.InWords) (hc : columns.InWords) :
    Selection.ofDocument? (horizontalDocument s columns) =
      some { horizontal := some ⟨s, columns⟩ } := by
  have hranges : Selection.horizontal?
      (.table [("y", s.toDocument), ("x", columns.toDocument)]) = some ⟨s, columns⟩ := by
    simp [Selection.horizontal?, Document.pair?, List.lookup_cons, ofDocument?_toDocument hs,
      ofDocument?_toDocument hc]
  simp [horizontalDocument, Selection.ofDocument?, Selection.ofFields?, List.lookup_cons, List.lookup_nil,
    Document.optional?, Document.truth?, hranges]

theorem statedBy_horizontal {columns : Slice} (hs : s.InWords) (hc : columns.InWords) :
    StatedBy (horizontalDocument s columns) s ∧ StatedBy (horizontalDocument s columns) columns :=
  ⟨.rows (ofDocument?_horizontalDocument hs hc) rfl,
    .columns (ofDocument?_horizontalDocument hs hc) rfl⟩

/-! ### Histories -/

/-- The slices that arise when the documents of a set are read. -/
inductive Obtained (D : Set Document) : Slice → Prop
  | between {first last : Nat} {s : Slice} : between first last = .ok s → Obtained D s
  | strided {first last stride : Nat} {s : Slice} :
      strided first last stride = .ok s → Obtained D s
  | single (i : Nat) : Obtained D (single i)
  | whole (name : Option String) (n : Nat) : Obtained D (whole name n)
  | empty : Obtained D empty
  | withName {s : Slice} (name : String) : Obtained D s → Obtained D (s.withName name)
  | compose {s sub r : Slice} :
      Obtained D s → Obtained D sub → s.compose sub = .ok r → Obtained D r
  | read {d : Document} {s : Slice} : d ∈ D → StatedBy d s → Obtained D s

theorem forward_of_strided {first last stride : Nat} (h : strided first last stride = .ok s) :
    0 < s.stride := by
  obtain ⟨-, hpos, rfl⟩ := strided_eq_ok.1 h
  exact hpos

theorem forward_of_compose {sub r : Slice} (hs : 0 < s.stride) (hsub : 0 < sub.stride)
    (h : s.compose sub = .ok r) : 0 < r.stride := by
  rcases Nat.eq_zero_or_pos sub.len with hempty | hlen
  · rw [compose_of_empty hempty] at h
    cases h
    exact Nat.one_pos
  · obtain ⟨-, rfl⟩ := (compose_eq_ok hlen).1 h
    exact Nat.mul_pos hs hsub

/-- If the documents state strides, everything that arises has one. -/
theorem Obtained.forward (hD : ∀ d ∈ D, ∀ s, StatedBy d s → 0 < s.stride) (h : Obtained D s) :
    0 < s.stride := by
  induction h with
  | between h => exact forward_of_strided h
  | strided h => exact forward_of_strided h
  | single i => exact Nat.one_pos
  | whole name n => exact Nat.one_pos
  | empty => exact Nat.one_pos
  | withName name _ ih => exact ih
  | compose _ _ h ihs ihsub => exact forward_of_compose ihs ihsub h
  | read hd h => exact hD _ hd _ h

theorem Obtained.forward_of_made (h : Obtained ∅ s) : 0 < s.stride :=
  h.forward fun _ hd => hd.elim

/-- **All views describe one set.** The slice from a first to a last index exists exactly if these are in
order and there is a stride, and it lists the indices that the stride reaches, each once and in order.
Whatever is made of such slices without reading a document gives every answer from its list of indices. -/
theorem views_agree :
    (∀ first last stride,
      ((∃ s, strided first last stride = .ok s) ↔ first ≤ last ∧ 1 ≤ stride) ∧
      ∀ s, strided first last stride = .ok s → s.indices.Pairwise (· < ·) ∧
        ∀ n, n ∈ s.indices ↔ first ≤ n ∧ n ≤ last ∧ stride ∣ n - first) ∧
    ∀ s, Obtained ∅ s → s.Consistent := by
  refine ⟨fun first last stride => ⟨?_, fun s h => ?_⟩, fun s h => ?_⟩
  · simp [strided_eq_ok, Nat.one_le_iff_ne_zero, Nat.pos_iff_ne_zero]
  · exact ⟨pairwise_indices (forward_of_strided h), fun n => mem_indices_of_strided h⟩
  · exact consistent_of_forward (.inr h.forward_of_made)

/-- Every other one of the indices 1, 4 and 7, under a name, is told apart from the indices between. -/
theorem views_agree_thirds :
    ∃ s r : Slice, strided 1 9 3 = .ok s ∧ s.compose ⟨none, 0, 2, 2⟩ = .ok r ∧
      (r.withName "x").indices = [1, 7] ∧ (r.withName "x").Consistent ∧
      (r.withName "x").contains 4 = some false := by
  have hsub : strided 0 2 2 = .ok ⟨none, 0, 2, 2⟩ := rfl
  have hmade : ∀ s r : Slice, strided 1 9 3 = .ok s → s.compose ⟨none, 0, 2, 2⟩ = .ok r →
      Obtained ∅ (r.withName "x") :=
    fun s r hs hr => .withName "x" (.compose (.strided hs) (.strided hsub) hr)
  have hviews := views_agree.2 _ (hmade _ _ rfl rfl)
  exact ⟨_, _, rfl, rfl, rfl, hviews, by rw [hviews.contains]; rfl⟩

/-! ### Slices without a stride -/

theorem Reads.indices {r sub : Slice} (h : Reads r s sub) : r.indices = sub.indices.map s.index := by
  simp only [Slice.indices, h.len, List.map_map]
  exact List.map_congr_left fun i hi => h.index i (List.mem_range.1 hi)

/-- What is taken of an axis comes from different indices, unless there are several coordinates and no
stride. -/
theorem nodup_range_iff {α : Type} [Scalar α] {a b : Axis α} (ha : 0 < a.range.stride)
    (h : a.take s = .ok b) : b.range.indices.Nodup ↔ b.size = 1 ∨ 0 < s.stride := by
  have ht := Axis.taken_of_take h
  have hpos := ht.len_pos
  rw [ht.range.indices, List.nodup_map_iff fun i j => (index_inj ha).1, nodup_indices_iff, ht.size]
  omega

/-- **Where strides come from.** Everything that arises has a stride exactly if every slice that the
documents state has one; and documents may state any slice in words, by itself and within a selection,
whatever its stride. Where there are indices and no stride, membership cannot be told, and several
coordinates of an axis that are taken at them are the same one. -/
theorem forward_iff {D : Set Document} {α : Type} [Scalar α] :
    ((∀ s, Obtained D s → 0 < s.stride) ↔ ∀ d ∈ D, ∀ s, StatedBy d s → 0 < s.stride) ∧
    (∀ s : Slice, s.InWords →
      StatedBy s.toDocument s ∧ StatedBy (horizontalDocument s s) s) ∧
    ∀ s : Slice, ((∀ n, s.contains n ≠ none) ↔ s.len = 0 ∨ 0 < s.stride) ∧
      ∀ a b : Axis α, 0 < a.range.stride → a.take s = .ok b →
        (b.range.indices.Nodup ↔ b.size = 1 ∨ 0 < s.stride) := by
  refine ⟨⟨fun h d hd s hs => h s (.read hd hs), fun hD s h => h.forward hD⟩, fun s hs => ?_,
    fun s => ⟨contains_ne_none_iff, fun a b ha hb => nodup_range_iff ha hb⟩⟩
  exact ⟨statedBy_toDocument hs, (statedBy_horizontal hs hs).1⟩

/-- Rows and columns with a stride, in exchange form. -/
def everyOther : Document := horizontalDocument ⟨some "y", 1, 3, 2⟩ ⟨none, 0, 4, 3⟩

/-- Rows that are read with a stride keep one when every other one of them is taken. -/
theorem forward_iff_everyOther :
    ∃ r : Slice, StatedBy everyOther ⟨some "y", 1, 3, 2⟩ ∧
      compose ⟨some "y", 1, 3, 2⟩ ⟨none, 0, 2, 2⟩ = .ok r ∧ Obtained {everyOther} r ∧
      0 < r.stride := by
  have hwords : InWords ⟨some "y", 1, 3, 2⟩ ∧ InWords ⟨none, 0, 4, 3⟩ := by
    refine ⟨⟨?_, ?_, ?_⟩, ⟨?_, ?_, ?_⟩⟩ <;> decide
  have hrows := (statedBy_horizontal hwords.1 hwords.2).1
  have hread := ofDocument?_horizontalDocument hwords.1 hwords.2
  have hsub : strided 0 2 2 = .ok ⟨none, 0, 2, 2⟩ := rfl
  have hobtained : Obtained {everyOther} ⟨some "y", 1, 2, 4⟩ :=
    .compose (.read rfl hrows) (.strided hsub) rfl
  refine ⟨_, hrows, rfl, hobtained, (forward_iff (α := Float)).1.2 ?_ _ hobtained⟩
  rintro _ rfl s (hs | ⟨hp, hranges⟩ | ⟨hp, hranges⟩)
  · cases hs
  · cases hread.symm.trans hp
    cases hranges
    decide
  · cases hread.symm.trans hp
    cases hranges
    decide

/-- Three indices without a stride, in exchange form. -/
def zeroStride : Document := .table [("first", .whole 0), ("len", .whole 3), ("stride", .whole 0)]

/-- Three heights. -/
def threeHeights : Axis.Draft ℚ :=
  { Axis.Draft.blank with
    name := "z"
    kind := some .geoZ
    spacing := some .irregularPoint
    values := some [10, 20, 30] }

/-- What is read without a stride cannot tell its own index, and takes the same height three times. -/
theorem not_forward_zeroStride :
    ∃ s : Slice, StatedBy zeroStride s ∧ Obtained {zeroStride} s ∧ s.stride = 0 ∧
      s.indices = [0, 0, 0] ∧ s.contains 0 = none ∧
      (∃ a b : Axis ℚ, threeHeights.build = .ok a ∧ a.take s = .ok b ∧ b.values = [10, 10, 10] ∧
        b.range.indices = [0, 0, 0]) ∧
      ¬∀ s, Obtained {zeroStride} s → 0 < s.stride := by
  have hstated : StatedBy zeroStride ⟨none, 0, 3, 0⟩ := .alone rfl
  refine ⟨_, hstated, .read rfl hstated, rfl, rfl, rfl, ⟨_, _, rfl, rfl, rfl, rfl⟩, fun h => ?_⟩
  exact absurd (h _ (.read rfl hstated)) (by decide)

end Gridded.Slice
