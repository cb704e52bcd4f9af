import Gridded.Interval
import Gridded.Proofs.Rounding

/-!
# Equality up to a tolerance

Two numbers are nearly equal if their distance is within the tolerance, or within that share of the larger
magnitude. Between doubles the distance can be infinite, and between equal infinities there is none.

* `Doubles.abs_sub_comm`, `Doubles.greatest_abs_comm`: distance and larger magnitude do not depend on the
  order of the numbers;
* `Doubles.nearlyEqual_comm`, `Doubles.nearlyEqual_mono`, `Doubles.nearlyEqual_self`: near equality is
  symmetric, holds for larger tolerances, and holds of a number and itself exactly if it is finite;
* `Interval.fuzzyEq_tolerance`: the same for intervals, whose edges may be infinite.
-/

namespace Gridded

namespace Doubles

open Float.Model Float.Model.UnpackedFloat

/-! ### Distances -/

theorem abs_round (s t : Sign) (m : ℕ) (e : ℤ) : (UnpackedFloat.round Format.binary64 s m e).abs =
    (UnpackedFloat.round Format.binary64 t m e).abs := by
  unfold UnpackedFloat.round roundWithAccuracy
  dsimp only
  split_ifs <;> rfl

theorem abs_normalize_neg (m e : ℤ) (s : Sign) :
    (UnpackedFloat.normalize Format.binary64 (-m) e s).abs =
      (UnpackedFloat.normalize Format.binary64 m e s).abs := by
  unfold UnpackedFloat.normalize
  rcases lt_trichotomy m 0 with h | rfl | h
  · rw [Int.compare_eq_lt.2 h, Int.compare_eq_gt.2 (Int.neg_pos_of_neg h)]
    exact abs_round _ _ _ _
  · rfl
  · rw [Int.compare_eq_gt.2 h, Int.compare_eq_lt.2 (Int.neg_neg_of_pos h), neg_neg]
    exact abs_round _ _ _ _

theorem abs_sub_swap (u v : UnpackedFloat) :
    (u.sub Format.binary64 v).abs = (v.sub Format.binary64 u).abs := by
  rcases u with s | _ | s | ⟨s, m, e, hm⟩ <;> rcases v with t | _ | t | ⟨t, n, f, hn⟩ <;> try rfl
  · cases s <;> cases t <;> rfl
  · cases s <;> cases t <;> rfl
  · simp only [UnpackedFloat.sub]
    rw [min_comm, ← abs_normalize_neg, neg_sub]

/-- Doubles are as far from each other in both directions. -/
theorem abs_sub_comm (x y : Float) : Scalar.abs (x - y) = Scalar.abs (y - x) := by
  refine eq_of_unpacked_eq ?_
  rw [unpacked_abs, unpacked_abs, unpacked_sub, unpacked_sub, abs_repacked, abs_repacked,
    abs_sub_swap]

theorem abs_nonneg {x : Float} (h : Scalar.isNaN x = false) : 0 ≤ Scalar.abs x := by
  refine nonneg_iff.2 ?_
  rw [unpacked_abs]
  rcases hx : unpacked x with s | _ | s | ⟨s, m, e, hm⟩
  · exact .infinity
  · exact absurd hx (isNaN_eq_false_iff.1 h)
  · exact .zero _
  · exact .finite hm (inPlace_of_unpacked_eq hx)

theorem standing_abs_inj {u v : UnpackedFloat} (hu : u ≠ .notANumber) (hv : v ≠ .notANumber)
    (h : standing u.abs = standing v.abs) : u.abs = v.abs := by
  rcases u with s | _ | s | ⟨s, m, e, hm⟩ <;> rcases v with t | _ | t | ⟨t, n, f, hn⟩ <;>
    simp_all [UnpackedFloat.abs, standing]

/-- There is just one double of a magnitude. -/
theorem abs_antisymm {x y : Float} (h : Scalar.abs x ≤ Scalar.abs y) (h' : Scalar.abs y ≤ Scalar.abs x) :
    Scalar.abs x = Scalar.abs y := by
  obtain ⟨hx, hy, hle⟩ := (float_le_iff _ _).1 h
  have hge := ((float_le_iff _ _).1 h').2.2
  rw [isNaN_abs] at hx hy
  rw [unpacked_abs, unpacked_abs] at hle hge
  refine eq_of_unpacked_eq ?_
  rw [unpacked_abs, unpacked_abs]
  exact standing_abs_inj (isNaN_eq_false_iff.1 hx) (isNaN_eq_false_iff.1 hy) (le_antisymm hle hge)

theorem greatest_abs_comm {x y : Float} (hx : Scalar.isNaN x = false) (hy : Scalar.isNaN y = false) :
    Scalar.greatest (Scalar.abs x) (Scalar.abs y) = Scalar.greatest (Scalar.abs y) (Scalar.abs x) := by
  rw [← isNaN_abs] at hx hy
  unfold Scalar.greatest
  rw [hx, hy, if_neg Bool.false_ne_true, if_neg Bool.false_ne_true]
  by_cases hyx : Scalar.abs y < Scalar.abs x
  · have hxy : ¬Scalar.abs x < Scalar.abs y := fun h =>
      Scalar.Ordered.not_le_of_lt hyx (Scalar.Ordered.le_of_lt h)
    rw [if_pos hyx, if_neg hxy]
  · by_cases hxy : Scalar.abs x < Scalar.abs y
    · rw [if_neg hyx, if_pos hxy]
    · rw [if_neg hyx, if_neg hxy]
      exact abs_antisymm (Scalar.Ordered.le_of_not_lt hx hy hxy) (Scalar.Ordered.le_of_not_lt hy hx hyx)

theorem greatest_abs_nonneg {x y : Float} (hx : Scalar.isNaN x = false) (hy : Scalar.isNaN y = false) :
    0 ≤ Scalar.greatest (Scalar.abs x) (Scalar.abs y) := by
  unfold Scalar.greatest
  split_ifs
  · exact abs_nonneg hx
  · exact abs_nonneg hx
  · exact abs_nonneg hy

theorem abs_normalize_zero (e : ℤ) (s : Sign) :
    (UnpackedFloat.normalize Format.binary64 0 e s).abs = .zero .positive := rfl

/-- A finite double has no distance from itself. -/
theorem unpacked_abs_sub_self {x : Float} (h : Scalar.isFinite x = true) :
    unpacked (Scalar.abs (x - x)) = .zero .positive := by
  have hfinite : (unpacked x).isFinite = true := h
  rw [unpacked_abs, unpacked_sub, abs_repacked]
  rcases hx : unpacked x with s | _ | s | ⟨s, m, e, hm⟩ <;> rw [hx] at hfinite
  · cases hfinite
  · cases hfinite
  · cases s <;> rfl
  · simp only [UnpackedFloat.sub, sub_self, abs_normalize_zero, repacked_zero]

/-- The distance of an infinite double from itself is not a number. -/
theorem isNaN_abs_sub_self {x : Float} (h : Scalar.isFinite x = false) :
    Scalar.isNaN (Scalar.abs (x - x)) = true := by
  have hfinite : (unpacked x).isFinite = false := h
  rw [isNaN_abs]
  refine (isNaN_pack _).trans ?_
  show ((unpacked x).sub Format.binary64 (unpacked x)).isNaN = true
  rcases hx : unpacked x with s | _ | s | ⟨s, m, e, hm⟩ <;> rw [hx] at hfinite
  · cases s <;> rfl
  · rfl
  · cases hfinite
  · cases hfinite

/-! ### Near equality -/

/-- There is no product of a number from zero on with another only between a zero and an infinity. -/
theorem mul_eq_notANumber {u v : UnpackedFloat} (hu : Nonneg u) (hv : Nonneg v)
    (h : u.mul Format.binary64 v = .notANumber) :
    (∃ s, u = .zero s ∧ v = .infinity .positive) ∨ u = .infinity .positive := by
  cases hu with
  | zero s =>
    cases hv with
    | zero t => cases h
    | infinity => exact .inl ⟨s, rfl, rfl⟩
    | finite hn hf => cases h
  | infinity => exact .inr rfl
  | finite hm he =>
    cases hv with
    | zero t => cases h
    | infinity => cases h
    | finite hn hf =>
      have hnumber := nonneg_finite_mul hm hn he hf
      rw [h] at hnumber
      cases hnumber

theorem eq_zero_of_standing_le {u : UnpackedFloat} (hu : Nonneg u) {s : Sign}
    (h : standing u ≤ standing (.zero s)) : ∃ t, u = .zero t := by
  cases hu with
  | zero t => exact ⟨t, rfl⟩
  | infinity => simp [standing, Prod.Lex.toLex_le_toLex] at h
  | finite hm he => simp [standing, Prod.Lex.toLex_le_toLex] at h

/-- A tolerance that loses its product with a magnitude by being increased is infinite now. -/
theorem le_of_isNaN_mul {t t' m d : Float} (ht : 0 ≤ t) (hle : t ≤ t') (hm : 0 ≤ m)
    (hd : Scalar.isNaN d = false) (hproduct : Scalar.isNaN (t * m) = false)
    (hproduct' : Scalar.isNaN (t' * m) = true) : d ≤ t' := by
  have ht' : 0 ≤ t' := Scalar.Ordered.le_trans 0 t t' ht hle
  have hmissing : (unpacked t').mul Format.binary64 (unpacked m) = .notANumber := by
    by_contra hne
    rw [isNaN_mul_iff.2 hne] at hproduct'
    cases hproduct'
  rcases mul_eq_notANumber (nonneg_iff.1 ht') (nonneg_iff.1 hm) hmissing with
    ⟨s, hzero, hinfinite⟩ | hinfinite
  · -- A smaller tolerance is zero as well, and has no product either.
    obtain ⟨-, -, hstanding⟩ := (float_le_iff t t').1 hle
    rw [hzero] at hstanding
    obtain ⟨s', hs'⟩ := eq_zero_of_standing_le (nonneg_iff.1 ht) hstanding
    refine absurd ?_ (isNaN_mul_iff.1 hproduct)
    rw [hs', hinfinite]
    rfl
  · refine (float_le_iff d t').2 ⟨hd, (Scalar.Ordered.isNaN_of_le _ _ ht').2, ?_⟩
    rw [hinfinite]
    exact standing_le_infinity _

theorem nearlyEqual_iff {t x y : Float} : nearlyEqual t x y = true ↔ Scalar.abs (x - y) ≤ t ∨
    Scalar.abs (x - y) ≤ t * Scalar.greatest (Scalar.abs x) (Scalar.abs y) := by
  simp only [nearlyEqual, Bool.or_eq_true, decide_eq_true_iff]

theorem nearlyEqual_comm (t : Float) {x y : Float} (hx : Scalar.isNaN x = false)
    (hy : Scalar.isNaN y = false) : nearlyEqual t x y = nearlyEqual t y x := by
  unfold nearlyEqual
  rw [abs_sub_comm, greatest_abs_comm hx hy]

/-- What is nearly equal stays so when the tolerance is increased. -/
theorem nearlyEqual_mono {t t' x y : Float} (ht : 0 ≤ t) (hle : t ≤ t') (hx : Scalar.isNaN x = false)
    (hy : Scalar.isNaN y = false) (h : nearlyEqual t x y = true) : nearlyEqual t' x y = true := by
  have hm := greatest_abs_nonneg hx hy
  rw [nearlyEqual_iff] at h ⊢
  rcases h with hd | hd
  · exact .inl (Scalar.Ordered.le_trans _ _ _ hd hle)
  · obtain ⟨hnumber, hproduct⟩ := Scalar.Ordered.isNaN_of_le _ _ hd
    cases hproduct' : Scalar.isNaN (t' * Scalar.greatest (Scalar.abs x) (Scalar.abs y)) with
    | true => exact .inl (le_of_isNaN_mul ht hle hm hnumber hproduct hproduct')
    | false =>
      exact .inr (Scalar.Ordered.le_trans _ _ _ hd (mul_le_mul_right ht hle hm hproduct hproduct'))

/-- A number is nearly equal to itself exactly if it is finite. -/
theorem nearlyEqual_self {t x : Float} (ht : 0 ≤ t) :
    nearlyEqual t x x = true ↔ Scalar.isFinite x = true := by
  rw [nearlyEqual_iff]
  cases hx : Scalar.isFinite x with
  | true =>
    refine iff_of_true (.inl ((float_le_iff _ _).2 ⟨?_, (Scalar.Ordered.isNaN_of_le _ _ ht).2, ?_⟩)) rfl
    · rw [isNaN_distance x hx]
      exact isNaN_of_isFinite hx
    · rw [unpacked_abs_sub_self hx]
      exact standing_nonneg (nonneg_iff.1 ht)
  | false =>
    have hmissing := isNaN_abs_sub_self hx
    refine iff_of_false ?_ Bool.false_ne_true
    rintro (h | h) <;>
      · rw [(Scalar.Ordered.isNaN_of_le _ _ h).1] at hmissing
        cases hmissing

end Doubles

namespace Interval

open Doubles

/-- Both edges are numbers, which may be infinite. -/
structure IsKnown (cell : Interval Float) : Prop where
  start : Scalar.isNaN cell.start = false
  stop : Scalar.isNaN cell.stop = false

/-- Both edges are finite numbers. -/
structure IsFinite (cell : Interval Float) : Prop where
  start : Scalar.isFinite cell.start = true
  stop : Scalar.isFinite cell.stop = true

theorem fuzzyEq_iff {t : Float} {a b : Interval Float} : fuzzyEq t a b = true ↔
    nearlyEqual t a.start b.start = true ∧ nearlyEqual t a.stop b.stop = true :=
  Bool.and_eq_true_iff

theorem fuzzyEq_self {t : Float} (ht : 0 ≤ t) (a : Interval Float) :
    fuzzyEq t a a = true ↔ a.IsFinite := by
  rw [fuzzyEq_iff, nearlyEqual_self ht, nearlyEqual_self ht]
  exact ⟨fun h => ⟨h.1, h.2⟩, fun h => ⟨h.start, h.stop⟩⟩

theorem fuzzyEq_comm (t : Float) {a b : Interval Float} (ha : a.IsKnown) (hb : b.IsKnown) :
    fuzzyEq t a b = fuzzyEq t b a := by
  unfold fuzzyEq
  rw [nearlyEqual_comm t ha.start hb.start, nearlyEqual_comm t ha.stop hb.stop]

theorem fuzzyEq_mono {t t' : Float} (ht : 0 ≤ t) (hle : t ≤ t') {a b : Interval Float} (ha : a.IsKnown)
    (hb : b.IsKnown) (h : fuzzyEq t a b = true) : fuzzyEq t' a b = true := by
  obtain ⟨hstart, hstop⟩ := fuzzyEq_iff.1 h
  exact fuzzyEq_iff.2 ⟨nearlyEqual_mono ht hle ha.start hb.start hstart,
    nearlyEqual_mono ht hle ha.stop hb.stop hstop⟩

/-- **Equality up to a tolerance** does not depend on the order of the intervals and holds for larger
tolerances. It holds of an interval and itself exactly if both of its edges are finite: an infinite edge has
no distance from itself. -/
theorem fuzzyEq_tolerance {t : Float} (ht : 0 ≤ t) {a b : Interval Float} (ha : a.IsKnown)
    (hb : b.IsKnown) :
    (fuzzyEq t a a = true ↔ a.IsFinite) ∧ fuzzyEq t a b = fuzzyEq t b a ∧
      ∀ t', t ≤ t' → fuzzyEq t a b = true → fuzzyEq t' a b = true :=
  ⟨fuzzyEq_self ht a, fuzzyEq_comm t ha hb, fun _ hle => fuzzyEq_mono ht hle ha hb⟩

/-- The layer from zero to infinity. -/
def openLayer : Interval Float := ⟨0, infinity⟩

/-- The open layer is nearer to one that ends at a number than to itself. -/
theorem fuzzyEq_tolerance_openLayer :
    openLayer.IsKnown ∧ fuzzyEq 0.5 openLayer openLayer = false ∧
      fuzzyEq 0.5 ⟨0.25, 1⟩ openLayer = true ∧ fuzzyEq 1 openLayer ⟨0.25, 1⟩ = true := by
  have hopen : openLayer.IsKnown := ⟨by decide +kernel, by decide +kernel⟩
  have hlayer : (⟨0.25, 1⟩ : Interval Float).IsKnown := ⟨by decide +kernel, by decide +kernel⟩
  have hinfinite : ¬openLayer.IsFinite := fun h => absurd h.stop (by decide +kernel)
  have hnear : fuzzyEq 0.5 openLayer ⟨0.25, 1⟩ = true := by decide +kernel
  obtain ⟨hself, hcomm, hmono⟩ :=
    @fuzzyEq_tolerance 0.5 (by decide +kernel) openLayer ⟨0.25, 1⟩ hopen hlayer
  exact ⟨hopen, Bool.eq_false_iff.2 (mt hself.1 hinfinite), hcomm ▸ hnear,
    hmono 1 (by decide +kernel) hnear⟩

/-- The open layer is not nearly equal to itself. -/
theorem not_fuzzyEq_openLayer :
    ¬∀ (t : Float) (a : Interval Float), 0 ≤ t → a.IsKnown → fuzzyEq t a a = true := by
  intro h
  have hopen : openLayer.IsKnown := ⟨by decide +kernel, by decide +kernel⟩
  have hfalse : fuzzyEq 0.5 openLayer openLayer = false := by decide +kernel
  rw [h 0.5 openLayer (by decide +kernel) hopen] at hfalse
  cases hfalse

end Interval

end Gridded
