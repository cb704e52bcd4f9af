import Mathlib.Algebra.Order.Ring.Rat
import Mathlib.Tactic.NormNum
import Mathlib.Tactic.Ring
import Gridded.Scalar

/-!
# Numbers that may be missing

Coordinates and field values are numbers, save where one is missing and a value stands in its place that
is not a number. What the theory needs to know of such a type is stated as laws. The first four hold of
doubles. Nothing is known of the hyperbolic functions of doubles, so it is assumed that they carry on what
is missing. Steps are exact for fractions, but not for doubles, which round.

* `Scalar.Ordered`: numbers are ordered as on a line, and what is not a number is compared with nothing;
* `Scalar.Contagious`: what is computed from a missing number is missing;
* `Scalar.Unital`: multiplying by one changes no number;
* `Scalar.Canonical`: one value stands for all that is not a number;
* `Hyperbolic.Contagious`: the hyperbolic functions of a missing number are missing;
* `Scalar.Exact`: all numbers are finite, and steps along a line are computed exactly;
* `abs_rat`, `least_rat`, `greatest_rat`: the operations on exact fractions are the usual ones;
* `PartialRat`: exact fractions and one value for what is missing, a type with all these laws but the last.
-/

namespace Gridded

/-- Any two numbers are comparable, and order is transitive. Two different values may be equal in order,
as both zeros of the doubles are. What is not a number is neither above nor below anything. -/
class Scalar.Ordered (α : Type) [Scalar α] : Prop where
  lt_iff : ∀ x y : α, x < y ↔ x ≤ y ∧ ¬y ≤ x
  le_trans : ∀ x y z : α, x ≤ y → y ≤ z → x ≤ z
  le_total : ∀ x y : α, Scalar.isNaN x = false → Scalar.isNaN y = false → x ≤ y ∨ y ≤ x
  isNaN_of_le : ∀ x y : α, x ≤ y → Scalar.isNaN x = false ∧ Scalar.isNaN y = false

namespace Scalar.Ordered

variable {α : Type} [Scalar α] [Ordered α] {x y z : α}

theorem le_of_lt (h : x < y) : x ≤ y := ((lt_iff x y).1 h).1

theorem not_le_of_lt (h : x < y) : ¬y ≤ x := ((lt_iff x y).1 h).2

theorem lt_of_lt_of_le (h : x < y) (h' : y ≤ z) : x < z :=
  (lt_iff x z).2 ⟨le_trans x y z (le_of_lt h) h', fun hzx => not_le_of_lt h (le_trans y z x h' hzx)⟩

theorem le_of_not_lt (hx : Scalar.isNaN x = false) (hy : Scalar.isNaN y = false) (h : ¬x < y) : y ≤ x := by
  rcases le_total x y hx hy with hxy | hyx
  · by_contra hyx
    exact h ((lt_iff x y).2 ⟨hxy, hyx⟩)
  · exact hyx

theorem le_iff_not_lt (hy : Scalar.isNaN y = false) : x ≤ y ↔ Scalar.isNaN x = false ∧ ¬y < x :=
  ⟨fun h => ⟨(isNaN_of_le x y h).1, fun hyx => not_le_of_lt hyx h⟩, fun h => le_of_not_lt hy h.1 h.2⟩

theorem ge_iff_not_lt (hx : Scalar.isNaN x = false) : x ≤ y ↔ Scalar.isNaN y = false ∧ ¬y < x :=
  ⟨fun h => ⟨(isNaN_of_le x y h).2, fun hyx => not_le_of_lt hyx h⟩, fun h => le_of_not_lt h.1 hx h.2⟩

theorem le_self (h : Scalar.isNaN x = false) : x ≤ x := (le_total x x h h).elim id id

/-- What is not a number is below nothing. -/
theorem not_lt_of_isNaN (h : Scalar.isNaN x = true) (y : α) : ¬x < y := fun hxy => by
  rw [(isNaN_of_le x y (le_of_lt hxy)).1] at h
  cases h

end Scalar.Ordered

/-- What is computed from something that is not a number is not a number. -/
class Scalar.Contagious (α : Type) [Scalar α] : Prop where
  isNaN_nan : Scalar.isNaN (Scalar.nan : α) = true
  isNaN_add : ∀ x y : α, Scalar.isNaN x = true ∨ Scalar.isNaN y = true → Scalar.isNaN (x + y) = true
  isNaN_sub : ∀ x y : α, Scalar.isNaN x = true ∨ Scalar.isNaN y = true → Scalar.isNaN (x - y) = true
  isNaN_mul : ∀ x y : α, Scalar.isNaN x = true ∨ Scalar.isNaN y = true → Scalar.isNaN (x * y) = true
  isNaN_div : ∀ x y : α, Scalar.isNaN x = true ∨ Scalar.isNaN y = true → Scalar.isNaN (x / y) = true
  isNaN_abs : ∀ x : α, Scalar.isNaN x = true → Scalar.isNaN (Scalar.abs x) = true

/-- The hyperbolic functions of something that is not a number are not numbers. -/
class Hyperbolic.Contagious (α : Type) [Scalar α] [Hyperbolic α] : Prop where
  isNaN_sinh : ∀ x : α, Scalar.isNaN x = true → Scalar.isNaN (Hyperbolic.sinh x) = true
  isNaN_tanh : ∀ x : α, Scalar.isNaN x = true → Scalar.isNaN (Hyperbolic.tanh x) = true

/-- A number that is multiplied by one stays as it is. -/
class Scalar.Unital (α : Type) [Scalar α] : Prop where
  mul_one : ∀ x : α, Scalar.isNaN x = false → x * 1 = x

/-- What is not a number is the value that stands for a missing one. -/
class Scalar.Canonical (α : Type) [Scalar α] : Prop where
  eq_nan : ∀ x : α, Scalar.isNaN x = true → x = Scalar.nan

/-- Every value is a finite number, and steps of one length are taken along a line without rounding. -/
class Scalar.Exact (α : Type) [Scalar α] : Prop where
  isFinite_eq : ∀ x : α, Scalar.isFinite x = true
  step_one : ∀ d : α, d * Scalar.ofNat 1 = d
  steps_add : ∀ (x d : α) (m k n : ℕ), x + Scalar.ofNat m * d + Scalar.ofNat k * (d * Scalar.ofNat n) =
    x + Scalar.ofNat (m + k * n) * d
  /-- Half a step leads to the center of a step. -/
  center_eq : ∀ (x d : α) (n : ℕ), x + (Scalar.ofNat n + 0.5) * d =
    (x + Scalar.ofNat n * d + (x + Scalar.ofNat (n + 1) * d)) / 2

/-! ### Exact fractions -/

theorem ofNat_rat (n : ℕ) : (Scalar.ofNat n : ℚ) = n := rfl

theorem half_rat :
    (@OfScientific.ofScientific ℚ Scalar.instOfScientific 5 true 1) = (1 / 2 : ℚ) := by
  show (0.5 : ℚ) = 1 / 2
  norm_num

instance : Scalar.Exact ℚ where
  isFinite_eq _ := rfl
  step_one d := mul_one d
  steps_add x d m k n := by
    simp only [ofNat_rat]
    push_cast
    ring
  center_eq x d n := by
    simp only [ofNat_rat, half_rat]
    push_cast
    ring

instance : Scalar.Ordered ℚ where
  lt_iff _ _ := lt_iff_le_not_ge
  le_trans _ _ _ := le_trans
  le_total x y _ _ := le_total x y
  isNaN_of_le _ _ _ := ⟨rfl, rfl⟩

instance : Scalar.Unital ℚ where
  mul_one x _ := mul_one x

instance : Scalar.Canonical ℚ where
  eq_nan _ h := Bool.noConfusion h

theorem abs_rat (x : ℚ) : Scalar.abs x = |x| := by
  by_cases h : x < 0
  · exact (if_pos h).trans (abs_of_neg h).symm
  · exact (if_neg h).trans (abs_of_nonneg (not_lt.1 h)).symm

theorem least_rat (x y : ℚ) : Scalar.least x y = min x y := by
  rw [Scalar.least, if_neg (by exact Bool.false_ne_true)]
  by_cases h : x < y
  · rw [if_pos h, min_eq_left h.le]
  · rw [if_neg h, min_eq_right (not_lt.1 h)]

theorem greatest_rat (x y : ℚ) : Scalar.greatest x y = max x y := by
  rw [Scalar.greatest, if_neg (by exact Bool.false_ne_true)]
  by_cases h : y < x
  · rw [if_pos h, max_eq_left h.le]
  · rw [if_neg h, max_eq_right (not_lt.1 h)]

/-! ### Fractions, some of them missing -/

/-- An exact fraction, or what stands for a missing one. -/
inductive PartialRat
  | missing
  | known (q : ℚ)
  deriving DecidableEq

namespace PartialRat

/-- Compute with a fraction, if it is there. -/
def map (f : ℚ → ℚ) : PartialRat → PartialRat
  | missing => missing
  | known p => known (f p)

/-- Compute with two fractions, if both are there. -/
def combine (f : ℚ → ℚ → PartialRat) : PartialRat → PartialRat → PartialRat
  | known p, known q => f p q
  | _, _ => missing

/-- Whether two fractions are there and are in a relation. -/
def Relates (r : ℚ → ℚ → Prop) : PartialRat → PartialRat → Prop
  | known p, known q => r p q
  | _, _ => False

instance (r : ℚ → ℚ → Prop) [DecidableRel r] : DecidableRel (Relates r)
  | known p, known q => inferInstanceAs (Decidable (r p q))
  | known _, missing => .isFalse id
  | missing, _ => .isFalse id

/-- What a fraction gives, and what is given in place of a missing one. -/
def elim {β : Type} (absent : β) (f : ℚ → β) : PartialRat → β
  | missing => absent
  | known p => f p

/-- Arithmetic on fractions. A result is missing where an operand is, and so is a quotient by zero. -/
instance : Scalar PartialRat where
  add := combine fun p q => known (p + q)
  sub := combine fun p q => known (p - q)
  mul := combine fun p q => known (p * q)
  div := combine fun p q => if q = 0 then missing else known (p / q)
  neg := map fun p => -p
  lt := Relates (· < ·)
  le := Relates (· ≤ ·)
  beq x y := decide (Relates (· = ·) x y)
  decLt := inferInstanceAs (DecidableRel (Relates (· < ·)))
  decLe := inferInstanceAs (DecidableRel (Relates (· ≤ ·)))
  ofInt n := known (Scalar.ofInt n)
  ofScientific m negative e := known (Scalar.ofScientific m negative e)
  abs := map Scalar.abs
  isNaN := elim true fun _ => false
  isFinite := elim false fun _ => true
  nan := missing
  largest := known Scalar.largest
  round low high := elim 0 (Scalar.round low high)
  ofNumeral? n := (Scalar.ofNumeral? n).map known
  plain := elim "NaN" Scalar.plain
  detailed := elim "NaN" Scalar.detailed

theorem known_lt {p q : ℚ} : known p < known q ↔ p < q := Iff.rfl

theorem known_le {p q : ℚ} : known p ≤ known q ↔ p ≤ q := Iff.rfl

theorem exists_known_of_le {x y : PartialRat} (h : x ≤ y) : ∃ p q, x = known p ∧ y = known q := by
  cases x with
  | missing => exact False.elim h
  | known p =>
    cases y with
    | missing => exact False.elim h
    | known q => exact ⟨p, q, rfl, rfl⟩

theorem exists_known_of_isNaN {x : PartialRat} (h : Scalar.isNaN x = false) : ∃ p, x = known p := by
  cases x with
  | missing => exact Bool.noConfusion h
  | known p => exact ⟨p, rfl⟩

theorem eq_missing_of_isNaN {x : PartialRat} (h : Scalar.isNaN x = true) : x = missing := by
  cases x with
  | missing => rfl
  | known p => exact Bool.noConfusion h

theorem isNaN_combine (f : ℚ → ℚ → PartialRat) (x y : PartialRat)
    (h : Scalar.isNaN x = true ∨ Scalar.isNaN y = true) : Scalar.isNaN (combine f x y) = true := by
  rcases h with h | h
  · rw [eq_missing_of_isNaN h]
    rfl
  · rw [eq_missing_of_isNaN h]
    cases x <;> rfl

theorem isNaN_map (f : ℚ → ℚ) (x : PartialRat) (h : Scalar.isNaN x = true) :
    Scalar.isNaN (map f x) = true := by
  rw [eq_missing_of_isNaN h]
  rfl

instance : Scalar.Ordered PartialRat where
  lt_iff x y := by
    cases x with
    | missing => exact ⟨False.elim, fun h => h.1⟩
    | known p =>
      cases y with
      | missing => exact ⟨False.elim, fun h => h.1⟩
      | known q => simp only [known_lt, known_le, lt_iff_le_not_ge]
  le_trans x y z hxy hyz := by
    obtain ⟨p, q, rfl, rfl⟩ := exists_known_of_le hxy
    obtain ⟨-, r, -, rfl⟩ := exists_known_of_le hyz
    exact known_le.2 ((known_le.1 hxy).trans (known_le.1 hyz))
  le_total x y hx hy := by
    obtain ⟨p, rfl⟩ := exists_known_of_isNaN hx
    obtain ⟨q, rfl⟩ := exists_known_of_isNaN hy
    exact (le_total p q).imp known_le.2 known_le.2
  isNaN_of_le x y h := by
    obtain ⟨p, q, rfl, rfl⟩ := exists_known_of_le h
    exact ⟨rfl, rfl⟩

instance : Scalar.Contagious PartialRat where
  isNaN_nan := rfl
  isNaN_add := isNaN_combine _
  isNaN_sub := isNaN_combine _
  isNaN_mul := isNaN_combine _
  isNaN_div := isNaN_combine _
  isNaN_abs := isNaN_map _

instance : Scalar.Unital PartialRat where
  mul_one x h := by
    obtain ⟨p, rfl⟩ := exists_known_of_isNaN h
    exact congrArg known (mul_one p)

instance : Scalar.Canonical PartialRat where
  eq_nan _ h := eq_missing_of_isNaN h

end PartialRat

end Gridded
