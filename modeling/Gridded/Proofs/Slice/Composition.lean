import Mathlib.Tactic.Ring
import Gridded.Proofs.Checking
import Gridded.Slice

/-!
# Slices as maps of indices

A slice maps positions to indices. Composing slices composes these maps, and a check of the last
index is a check of every index.

* `Slice.Below`: every index is below a bound; `within_eq_ok`, `exists_compose_iff` say that this is
  what `within` and `compose` check;
* `Slice.Reads`: a slice that picks what one slice picks from the indices of another; `compose`
  makes such a slice (`reads_of_compose`);
* `Slice.index_eq_self_iff`: which slices leave which indices where they are;
* `Slice.orWhole`: the slice that an absent slice stands for;
* `Slice.IsIdentity`: the slices that leave every index as it is.
-/

namespace Gridded.Slice

/-- Every index of the slice is below `n`. -/
def Below (s : Slice) (n : Nat) : Prop := ∀ i < s.len, s.index i < n

/-- `r` picks what `sub` picks from the indices of `s`. -/
structure Reads (r s sub : Slice) : Prop where
  below : sub.Below s.len
  len : r.len = sub.len
  index : ∀ i < sub.len, r.index i = s.index (sub.index i)

/-- The slice if there is one, and otherwise every index below `n`. -/
def orWhole (n : Nat) (s : Option Slice) : Slice := s.getD (whole none n)

/-- The slice starts at zero and skips nothing. -/
def IsIdentity (s : Slice) : Prop := s.first = 0 ∧ s.stride = 1

@[simp] theorem orWhole_some (n : Nat) (s : Slice) : orWhole n (some s) = s := rfl

@[simp] theorem orWhole_none (n : Nat) : orWhole n none = whole none n := rfl

@[simp] theorem index_whole (name : Option String) (n i : Nat) : (whole name n).index i = i := by
  simp [whole, index]

@[simp] theorem index_single (i : Nat) : (single i).index 0 = i := by simp [single, index]

theorem IsIdentity.index {s : Slice} (h : s.IsIdentity) (i : Nat) : s.index i = i := by
  simp [Slice.index, h.1, h.2]

theorem index_mono (s : Slice) {i j : Nat} (h : i ≤ j) : s.index i ≤ s.index j :=
  Nat.add_le_add_left (Nat.mul_le_mul_right s.stride h) s.first

theorem index_inj {s : Slice} (hs : 0 < s.stride) {i j : Nat} : s.index i = s.index j ↔ i = j := by
  unfold index
  rw [Nat.add_left_cancel_iff, Nat.mul_left_inj (by omega)]

theorem last_eq_none {s : Slice} : s.last = none ↔ s.len = 0 := by
  unfold last; split_ifs with h <;> simp [h]

theorem last_eq_some {s : Slice} {n : Nat} :
    s.last = some n ↔ 0 < s.len ∧ s.index (s.len - 1) = n := by
  unfold last
  split_ifs with h
  · simp [h]
  · simp only [Option.some.injEq]
    exact ⟨fun hn => ⟨Nat.pos_of_ne_zero h, hn⟩, fun hn => hn.2⟩

/-! ### Checks -/

theorem below_of_len_eq_zero {s : Slice} (h : s.len = 0) (n : Nat) : s.Below n :=
  fun i hi => by omega

/-- The last index is the largest. -/
theorem below_iff_last_lt {s : Slice} {last : Nat} (h : s.last = some last) (n : Nat) :
    s.Below n ↔ last < n := by
  obtain ⟨hpos, rfl⟩ := last_eq_some.1 h
  constructor
  · intro hs
    exact hs _ (by omega)
  · intro hlt i hi
    exact Nat.lt_of_le_of_lt (s.index_mono (by omega)) hlt

theorem below_whole (name : Option String) (n : Nat) : (whole name n).Below n := by
  intro i hi
  rw [index_whole]
  exact hi

/-- A slice that is not constant picks at most one index below one. -/
theorem len_eq_one {s : Slice} (hs : 0 < s.stride) (hpos : 0 < s.len) (h : s.Below 1) :
    s.len = 1 := by
  have hlast := h (s.len - 1) (by omega)
  have hmul : s.len - 1 ≤ (s.len - 1) * s.stride := Nat.le_mul_of_pos_right _ hs
  simp only [index] at hlast
  omega

theorem within_eq_ok {s : Slice} {n : Nat} : s.within n = .ok () ↔ s.Below n := by
  unfold within
  cases h : s.last with
  | none => simpa using below_of_len_eq_zero (last_eq_none.1 h) n
  | some last =>
    rw [below_iff_last_lt h]
    by_cases hn : n ≤ last
    · simp [hn]
    · simp [hn, Nat.lt_of_not_le hn]

/-! ### Composition -/

/-- Composition refuses exactly the slices that reach beyond the one they are taken from. -/
theorem exists_compose_iff {s sub : Slice} :
    (∃ r, s.compose sub = .ok r) ↔ sub.Below s.len := by
  unfold compose
  cases h : sub.last with
  | none => simpa using below_of_len_eq_zero (last_eq_none.1 h) s.len
  | some last =>
    rw [below_iff_last_lt h]
    by_cases hn : s.len ≤ last
    · simp [hn]
    · simp [hn, Nat.lt_of_not_le hn]

theorem index_mk_compose (s sub : Slice) (name : Option String) (i : Nat) :
    Slice.index ⟨name, s.index sub.first, sub.len, s.stride * sub.stride⟩ i =
      s.index (sub.index i) := by
  simp only [index]
  ring

/-- A composed slice reads the first slice at the second. -/
theorem reads_of_compose {s sub r : Slice} (h : s.compose sub = .ok r) : Reads r s sub := by
  have hbelow : sub.Below s.len := exists_compose_iff.1 ⟨r, h⟩
  unfold compose at h
  cases hl : sub.last with
  | none =>
    have hlen : sub.len = 0 := last_eq_none.1 hl
    rw [hl] at h
    cases h
    exact ⟨hbelow, hlen.symm, fun i hi => by omega⟩
  | some last =>
    have hlt : ¬ s.len ≤ last := Nat.not_le.2 ((below_iff_last_lt hl _).1 hbelow)
    simp only [hl, hlt, if_false] at h
    cases h
    exact ⟨hbelow, rfl, fun i _ => index_mk_compose s sub _ i⟩

theorem Reads.below_of_below {r s sub : Slice} (h : Reads r s sub) {n : Nat} (hs : s.Below n) :
    r.Below n := by
  intro i hi
  rw [h.len] at hi
  rw [h.index i hi]
  exact hs _ (h.below i hi)

theorem exists_compose?_iff {s : Slice} {cut : Option Slice} :
    (∃ r, s.compose? cut = .ok r) ↔ (orWhole s.len cut).Below s.len := by
  cases cut with
  | none => simpa [compose?] using below_whole none s.len
  | some sub => exact exists_compose_iff

theorem reads_of_compose? {s r : Slice} {cut : Option Slice} (h : s.compose? cut = .ok r) :
    Reads r s (orWhole s.len cut) := by
  cases cut with
  | none =>
    cases h
    exact ⟨below_whole none _, rfl, fun i _ => by rw [orWhole_none, index_whole]⟩
  | some sub => exact reads_of_compose h

/-- A slice leaves the indices of another where they are if it starts at zero and skips nothing, or
if zero is the only index. -/
theorem index_eq_self_iff {s sub : Slice} (hs : 0 < s.stride) (hpos : 0 < sub.len) :
    (∀ k < sub.len, s.index (sub.index k) = sub.index k) ↔
      s.first = 0 ∧ (s.stride = 1 ∨ sub.last = some 0) := by
  constructor
  · intro h
    have hlast := h (sub.len - 1) (by omega)
    have hmul : sub.index (sub.len - 1) ≤ sub.index (sub.len - 1) * s.stride :=
      Nat.le_mul_of_pos_right _ hs
    rw [Slice.index] at hlast
    refine ⟨by omega, ?_⟩
    rcases Nat.eq_zero_or_pos (sub.index (sub.len - 1)) with hzero | hone
    · exact .inr (last_eq_some.2 ⟨hpos, hzero⟩)
    · refine .inl (Nat.eq_of_mul_eq_mul_left hone ?_)
      omega
  · rintro ⟨hfirst, hstride | hlast⟩ k hk
    · simp [Slice.index, hfirst, hstride]
    · have hle : sub.index k ≤ sub.index (sub.len - 1) := sub.index_mono (by omega)
      rw [(last_eq_some.1 hlast).2, Nat.le_zero] at hle
      rw [hle, Slice.index, hfirst, Nat.zero_mul]

/-- A slice that picks as many indices below a bound as there are leaves each where it is. -/
theorem index_eq_self_of_below {s : Slice} (hs : 0 < s.stride) (h : s.Below s.len) {i : Nat}
    (hi : i < s.len) : s.index i = i := by
  have hlast : s.index (s.len - 1) < s.len := h _ (by omega)
  -- From `i` on, there are `s.len - 1 - i` more indices, each larger than the one before.
  have hrest : s.index (s.len - 1) = s.index i + (s.len - 1 - i) * s.stride := by
    obtain ⟨k, hk⟩ : ∃ k, s.len - 1 = i + k := ⟨s.len - 1 - i, by omega⟩
    rw [hk, Nat.add_sub_cancel_left]
    simp only [index]
    ring
  have hbefore : i ≤ i * s.stride := Nat.le_mul_of_pos_right _ hs
  have hafter : s.len - 1 - i ≤ (s.len - 1 - i) * s.stride := Nat.le_mul_of_pos_right _ hs
  have hindex : s.index i = s.first + i * s.stride := rfl
  omega

/-! ### Elements -/

theorem element_of_lt {s : Slice} {i : Nat} (h : i < s.len) : s.element i = .ok (s.index i) :=
  if_pos h

theorem element_of_le {s : Slice} {i : Nat} (h : s.len ≤ i) :
    s.element i = .error (.indexOutOfRange i s.len) := if_neg (Nat.not_lt.2 h)

/-- The element of a slice of a slice, or the error of the inner one. -/
theorem Reads.element {r s sub : Slice} (h : Reads r s sub) (i : Nat) :
    r.element i = sub.element i >>= s.element := by
  by_cases hi : i < sub.len
  · rw [element_of_lt hi, ok_bind, element_of_lt (h.below i hi), element_of_lt (h.len ▸ hi),
      h.index i hi]
  · rw [element_of_le (Nat.le_of_not_lt hi), error_bind, element_of_le (by rw [h.len]; omega),
      h.len]

theorem element_eq_ok {s : Slice} {i n : Nat} :
    s.element i = .ok n ↔ i < s.len ∧ s.index i = n := by
  by_cases h : i < s.len
  · rw [element_of_lt h, Except.ok.injEq]
    exact ⟨fun hn => ⟨h, hn⟩, fun hn => hn.2⟩
  · rw [element_of_le (Nat.le_of_not_lt h)]
    exact iff_of_false (fun hn => by cases hn) fun hn => h hn.1

theorem getD_map_indices {α : Type} (f : Nat → α) (s : Slice) (other : α) {k : Nat}
    (hk : k < s.len) : (s.indices.map f).getD k other = f (s.index k) := by
  simp [List.getD, Slice.indices, hk]

end Gridded.Slice
