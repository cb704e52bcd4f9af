import Mathlib
import Gridded.Proofs.Numbers

/-!
# Doubles as numbers that may be missing

A double is packed into 64 bits and unpacked for every operation. Unpacked it is an infinity, a zero, a
mantissa with an exponent, or not a number. What the theory asks of numbers is read off there.

* `Doubles.standing`: the place of an unpacked double on the line; order of doubles is order of places
  (`Doubles.le_iff`, `Doubles.lt_iff`), so that doubles are `Scalar.Ordered`;
* `Doubles.isNaN_pack`: packing neither makes nor loses what is not a number, and every operation hands it
  on, so that doubles are `Scalar.Contagious`;
* `Doubles.isNaN_distance`: a double has a distance from a finite one exactly if it is a number;
* `Doubles.lt_infinity_iff`, `Doubles.neg_infinity_lt_iff`: what lies between the infinities lies between
  the largest finite number and its opposite;
* `Doubles.eq_of_unpacked_eq`: doubles that are the same unpacked are the same, so that there is just one
  that is not a number, and doubles are `Scalar.Canonical`;
* `Doubles.InPlace`, `Doubles.round_mul_two_pow`: a mantissa that has its place is found there again when
  it is shifted away, so that doubles are `Scalar.Unital`.
-/

namespace Gridded.Doubles

open Float.Model Float.Model.UnpackedFloat

theorem isNaN_eq_false_iff {u : UnpackedFloat} : u.isNaN = false ↔ u ≠ .notANumber := by
  rw [ne_eq, ← isNaN_iff, Bool.not_eq_true]

/-! ### Order -/

/-- The place on the line: first the sign, with the infinities outermost, then the exponent, then the
mantissa. What is not a number has no place, and is given that of zero. -/
def standing : UnpackedFloat → ℤ ×ₗ ℤ ×ₗ ℤ
  | .infinity .negative => toLex (-2, toLex (0, 0))
  | .finite .negative m e _ => toLex (-1, toLex (-e, -m))
  | .notANumber | .zero _ => toLex (0, toLex (0, 0))
  | .finite .positive m e _ => toLex (1, toLex (e, m))
  | .infinity .positive => toLex (2, toLex (0, 0))

theorem compare_sign (s t : Sign) : compare s t =
    match s, t with
    | .negative, .positive => .lt
    | .positive, .negative => .gt
    | _, _ => .eq := by
  cases s <;> cases t <;> rfl

theorem isLE_then_compare (e₁ e₂ : ℤ) (m₁ m₂ : ℕ) :
    ((compare e₁ e₂).then (compare m₁ m₂)).isLE = true ↔ e₁ < e₂ ∨ e₁ = e₂ ∧ m₁ ≤ m₂ := by
  rcases lt_trichotomy e₁ e₂ with h | rfl | h
  · rw [Int.compare_eq_lt.2 h]
    simp [h]
  · rw [Int.compare_eq_eq.2 rfl]
    simp [Nat.isLE_compare]
  · rw [Int.compare_eq_gt.2 h]
    simp [h.not_gt, h.ne']

theorem then_compare_eq_lt (e₁ e₂ : ℤ) (m₁ m₂ : ℕ) :
    (compare e₁ e₂).then (compare m₁ m₂) = .lt ↔ e₁ < e₂ ∨ e₁ = e₂ ∧ m₁ < m₂ := by
  rcases lt_trichotomy e₁ e₂ with h | rfl | h
  · rw [Int.compare_eq_lt.2 h]
    simp [h]
  · rw [Int.compare_eq_eq.2 rfl]
    simp [Nat.compare_eq_lt]
  · rw [Int.compare_eq_gt.2 h]
    simp [h.not_gt, h.ne']

/-- Below zero the larger exponent and the larger mantissa come first. -/
theorem swap_then_compare (e₁ e₂ : ℤ) (m₁ m₂ : ℕ) :
    ((compare e₁ e₂).then (compare m₁ m₂)).swap = (compare (-e₁) (-e₂)).then (compare m₂ m₁) := by
  have hexponent : compare e₂ e₁ = compare (-e₁) (-e₂) := by
    rcases lt_trichotomy e₂ e₁ with h | rfl | h
    · rw [Int.compare_eq_lt.2 h, Int.compare_eq_lt.2 (by omega)]
    · rw [Int.compare_eq_eq.2 rfl, Int.compare_eq_eq.2 rfl]
    · rw [Int.compare_eq_gt.2 h, Int.compare_eq_gt.2 (by omega)]
  rw [Ordering.swap_then, Int.compare_swap, Nat.compare_swap, hexponent]

theorem le_iff (x y : UnpackedFloat) :
    x.le y = true ↔ x.isNaN = false ∧ y.isNaN = false ∧ standing x ≤ standing y := by
  rcases x with (_ | _) | _ | _ | ⟨_ | _, _, _, _⟩ <;>
    rcases y with (_ | _) | _ | _ | ⟨_ | _, _, _, _⟩ <;>
    simp [UnpackedFloat.le, UnpackedFloat.compare, standing, isNaN_eq_false_iff,
      Prod.Lex.toLex_le_toLex, isLE_then_compare, swap_then_compare, compare_sign]

theorem lt_iff (x y : UnpackedFloat) :
    x.lt y = true ↔ x.isNaN = false ∧ y.isNaN = false ∧ standing x < standing y := by
  rcases x with (_ | _) | _ | _ | ⟨_ | _, _, _, _⟩ <;>
    rcases y with (_ | _) | _ | _ | ⟨_ | _, _, _, _⟩ <;>
    simp [UnpackedFloat.lt, UnpackedFloat.compare, standing, isNaN_eq_false_iff,
      Prod.Lex.toLex_lt_toLex, then_compare_eq_lt, swap_then_compare, compare_sign]

/-- A double as it is compared. -/
def unpacked (x : Float) : UnpackedFloat := x.toModel.unpack

theorem float_le_iff (x y : Float) : x ≤ y ↔ Scalar.isNaN x = false ∧ Scalar.isNaN y = false ∧
    standing (unpacked x) ≤ standing (unpacked y) := by
  have h : x ≤ y ↔ (unpacked x).le (unpacked y) = true := by
    show decide _ = true ↔ _
    rw [decide_eq_true_iff]
    rfl
  exact h.trans (le_iff _ _)

theorem float_lt_iff (x y : Float) : x < y ↔ Scalar.isNaN x = false ∧ Scalar.isNaN y = false ∧
    standing (unpacked x) < standing (unpacked y) := by
  have h : x < y ↔ (unpacked x).lt (unpacked y) = true := by
    show decide _ = true ↔ _
    rw [decide_eq_true_iff]
    rfl
  exact h.trans (lt_iff _ _)

instance : Scalar.Ordered Float where
  lt_iff x y := by
    simp only [float_lt_iff, float_le_iff, lt_iff_le_not_ge]
    tauto
  le_trans x y z hxy hyz := by
    obtain ⟨hx, -, hxy⟩ := (float_le_iff x y).1 hxy
    obtain ⟨-, hz, hyz⟩ := (float_le_iff y z).1 hyz
    exact (float_le_iff x z).2 ⟨hx, hz, le_trans hxy hyz⟩
  le_total x y hx hy := by
    simp only [float_le_iff, hx, hy, true_and]
    exact le_total _ _
  isNaN_of_le x y h := by
    obtain ⟨hx, hy, -⟩ := (float_le_iff x y).1 h
    exact ⟨hx, hy⟩

/-! ### What is not a number -/

/-- Bits are not a number where all those of the exponent are set, and some of the mantissa. -/
theorem unpack_packComponents_eq {spec : Format} {s : Sign} {e : BitVec spec.exponentBits}
    {m : BitVec spec.mantissaBitsWithoutImplicit} :
    UnpackedFloat.unpack spec (packComponents spec s e m) = .notANumber ↔ e = -1#_ ∧ m ≠ 0#_ := by
  simp only [UnpackedFloat.unpack, unpackExponent_packComponents, unpackMantissa_packComponents]
  split_ifs with he hm hz hm <;> simp_all

theorem unpack_pack_eq {u : UnpackedFloat} :
    UnpackedFloat.unpack Format.binary64 (UnpackedFloat.pack Format.binary64 u) = .notANumber ↔
      u = .notANumber := by
  fun_cases UnpackedFloat.pack Format.binary64 u with
  | case1 =>
    rw [packedNaN, unpack_packComponents_eq]
    simp
  | case2 s =>
    rw [packedInfinity, unpack_packComponents_eq]
    simp
  | case3 s =>
    rw [packedZero, unpack_packComponents_eq]
    simp
  | case4 s m e hm biased hlarge =>
    -- What is too large becomes an infinity.
    rw [packedInfinity, unpack_packComponents_eq]
    simp
  | case5 s m e hm bits biased hsmall hnormal =>
    rw [unpack_packComponents_eq]
    have hbiased : BitVec.ofNat 11 biased ≠ -1#11 := by
      change ¬2 ^ 11 ≤ biased + 1 at hsmall
      rw [ne_eq, ← BitVec.toNat_inj, BitVec.toNat_ofNat, Nat.mod_eq_of_lt (by omega)]
      show biased ≠ 2047
      omega
    exact iff_of_false (fun h => hbiased h.1) (by simp)
  | case6 s m e hm bits biased hsmall hnormal =>
    rw [unpack_packComponents_eq]
    simp

theorem isNaN_pack (u : UnpackedFloat) : (Float.Model.pack u).isNaN = u.isNaN := by
  rw [Bool.eq_iff_iff, isNaN_iff]
  exact isNaN_iff.trans unpack_pack_eq

theorem round_ne (spec : Format) (s : Sign) (m : ℕ) (e : ℤ) :
    UnpackedFloat.round spec s m e ≠ .notANumber := by
  unfold UnpackedFloat.round UnpackedFloat.roundWithAccuracy
  dsimp only
  split_ifs <;> simp

theorem normalize_ne (spec : Format) (m e : ℤ) (s : Sign) :
    UnpackedFloat.normalize spec m e s ≠ .notANumber := by
  unfold UnpackedFloat.normalize
  split
  · exact round_ne _ _ _ _
  · simp
  · exact round_ne _ _ _ _

/-- Only infinities of one sign have no difference, and then neither of them is finite. -/
theorem sub_eq_notANumber {x y : UnpackedFloat} (hy : y.isFinite = true) :
    x.sub Format.binary64 y = .notANumber ↔ x = .notANumber := by
  cases y with
  | notANumber => simp [UnpackedFloat.isFinite] at hy
  | infinity t => simp [UnpackedFloat.isFinite] at hy
  | zero t =>
    cases x with
    | zero s =>
      simp only [UnpackedFloat.sub]
      split_ifs <;> simp
    | _ => simp [UnpackedFloat.sub]
  | finite t n f hn => cases x <;> simp [UnpackedFloat.sub, normalize_ne]

theorem abs_eq_notANumber {x : UnpackedFloat} : x.abs = .notANumber ↔ x = .notANumber := by
  cases x <;> simp [UnpackedFloat.abs]

theorem isNaN_of_isFinite {x : Float} (h : Scalar.isFinite x = true) : Scalar.isNaN x = false := by
  refine isNaN_eq_false_iff.2 fun hx => ?_
  have hfinite : (unpacked x).isFinite = true := h
  rw [unpacked, hx] at hfinite
  cases hfinite

theorem isNaN_abs (x : Float) : Scalar.isNaN (Scalar.abs x) = Scalar.isNaN x := by
  refine (isNaN_pack _).trans ?_
  rw [Bool.eq_iff_iff, isNaN_iff, abs_eq_notANumber]
  exact isNaN_iff.symm

/-- What is packed is not a number if the operation hands on what is not a number. -/
theorem isNaN_of_operand {f : UnpackedFloat → UnpackedFloat → UnpackedFloat}
    (hleft : ∀ v, f .notANumber v = .notANumber) (hright : ∀ u, f u .notANumber = .notANumber)
    {x y : Float} (h : Scalar.isNaN x = true ∨ Scalar.isNaN y = true) :
    (Float.Model.pack (f (unpacked x) (unpacked y))).isNaN = true := by
  rw [isNaN_pack, isNaN_iff]
  rcases h with h | h
  · have hx : unpacked x = .notANumber := isNaN_iff.1 h
    rw [hx, hleft]
  · have hy : unpacked y = .notANumber := isNaN_iff.1 h
    rw [hy, hright]

/-- Every operation looks first whether an operand is not a number. -/
instance : Scalar.Contagious Float where
  isNaN_nan := by decide +kernel
  isNaN_add _ _ := isNaN_of_operand (f := fun u v => u.add Format.binary64 v)
    (fun v => by cases v <;> rfl) fun u => by cases u <;> rfl
  isNaN_sub _ _ := isNaN_of_operand (f := fun u v => u.sub Format.binary64 v)
    (fun v => by cases v <;> rfl) fun u => by cases u <;> rfl
  isNaN_mul _ _ := isNaN_of_operand (f := fun u v => u.mul Format.binary64 v)
    (fun v => by cases v <;> rfl) fun u => by cases u <;> rfl
  isNaN_div _ _ := isNaN_of_operand (f := fun u v => u.div Format.binary64 v)
    (fun v => by cases v <;> rfl) fun u => by cases u <;> rfl
  isNaN_abs x h := (isNaN_abs x).trans h

/-- A double has a distance from a finite one exactly if it is a number. -/
theorem isNaN_distance (x : Float) {y : Float} (hy : Scalar.isFinite y = true) :
    Scalar.isNaN (Scalar.abs (x - y)) = Scalar.isNaN x := by
  rw [isNaN_abs]
  refine (isNaN_pack _).trans ?_
  rw [Bool.eq_iff_iff, isNaN_iff, sub_eq_notANumber hy]
  exact isNaN_iff.symm

/-! ### The ends of the line -/

/-- The positive infinity. -/
def infinity : Float := Float.ofBits 0x7ff0000000000000

theorem standing_infinity : standing (unpacked infinity) = toLex (2, toLex (0, 0)) := by decide +kernel

theorem standing_neg_infinity : standing (unpacked (-infinity)) = toLex (-2, toLex (0, 0)) := by
  decide +kernel

theorem standing_largest :
    standing (unpacked Scalar.largest) = toLex (1, toLex (971, 2 ^ 53 - 1)) := by decide +kernel

theorem standing_neg_largest :
    standing (unpacked (-Scalar.largest)) = toLex (-1, toLex (-971, -(2 ^ 53 - 1))) := by decide +kernel

/-- The mantissa of a finite double has 53 bits, and its exponent is at most 971. -/
theorem bounds_of_unpacked_eq {x : Float} {s : Sign} {m : ℕ} {e : ℤ} {hm : 0 < m}
    (h : unpacked x = .finite s m e hm) : m < 2 ^ 53 ∧ e ≤ 971 := by
  obtain ⟨⟨bits, valid⟩⟩ := x
  change UnpackedFloat.unpack Format.binary64 bits.toBitVec = _ at h
  have hmantissa : (@unpackMantissa Format.binary64 bits.toBitVec).toNat < 2 ^ 52 :=
    BitVec.isLt _
  have hbias : Format.binary64.exponentBias = 1023 := rfl
  simp only [UnpackedFloat.unpack] at h
  split_ifs at h with hinf hinf' hsub hzero
  · -- A subnormal one: the exponent is the least there is.
    injection h with hs hm he
    rw [hsub] at he
    simp only [BitVec.toNat_ofNat] at he
    omega
  · injection h with hs hm he
    have hlead : (1#1 ++ @unpackMantissa Format.binary64 bits.toBitVec).toNat < 2 ^ (1 + 52) :=
      BitVec.isLt _
    have hexponent : (@unpackExponent Format.binary64 bits.toBitVec).toNat ≠ 2047 :=
      fun heq => hinf (BitVec.eq_of_toNat_eq (heq.trans rfl))
    have hlt : (@unpackExponent Format.binary64 bits.toBitVec).toNat < 2 ^ 11 := BitVec.isLt _
    omega

/-- Below the positive infinity are the numbers up to the largest finite one. -/
theorem lt_infinity_iff (x : Float) : x < infinity ↔ x ≤ Scalar.largest := by
  have hinfinity : Scalar.isNaN infinity = false := by decide +kernel
  have hlargest : Scalar.isNaN (Scalar.largest : Float) = false := by decide +kernel
  rw [float_lt_iff, float_le_iff, standing_infinity, standing_largest, hinfinity, hlargest]
  rcases hx : unpacked x with (_ | _) | _ | _ | ⟨_ | _, m, e, hm⟩
  case finite.positive =>
    have hbounds := bounds_of_unpacked_eq hx
    have hplace : e < 971 ∨ e = 971 ∧ m ≤ 2 ^ 53 - 1 := by omega
    simpa [standing, Prod.Lex.toLex_lt_toLex, Prod.Lex.toLex_le_toLex] using fun _ => hplace
  all_goals simp [standing, Prod.Lex.toLex_le_toLex, Prod.Lex.toLex_lt_toLex]

/-- Above the negative infinity are the numbers from the opposite of the largest finite one. -/
theorem neg_infinity_lt_iff (x : Float) : -infinity < x ↔ -Scalar.largest ≤ x := by
  have hinfinity : Scalar.isNaN (-infinity) = false := by decide +kernel
  have hlargest : Scalar.isNaN (-Scalar.largest : Float) = false := by decide +kernel
  rw [float_lt_iff, float_le_iff, standing_neg_infinity, standing_neg_largest, hinfinity, hlargest]
  rcases hx : unpacked x with (_ | _) | _ | _ | ⟨_ | _, m, e, hm⟩
  case finite.negative =>
    have hbounds := bounds_of_unpacked_eq hx
    have hplace : e < 971 ∨ 971 = e ∧ m ≤ 2 ^ 53 - 1 := by omega
    simpa [standing, Prod.Lex.toLex_lt_toLex, Prod.Lex.toLex_le_toLex] using fun _ => hplace
  all_goals simp [standing, Prod.Lex.toLex_le_toLex, Prod.Lex.toLex_lt_toLex]

/-! ### Multiplying by one -/

theorem eq_of_unpacked_eq {x y : Float} (h : unpacked x = unpacked y) : x = y := by
  obtain ⟨⟨⟨xbits⟩, hx⟩⟩ := x
  obtain ⟨⟨⟨ybits⟩, hy⟩⟩ := y
  obtain rfl : xbits = ybits := (@unpack_inj_of_valid Format.binary64 _ _ hx hy (by decide)).1 h
  rfl

theorem pack_unpacked (x : Float) : Float.ofModel (Float.Model.pack (unpacked x)) = x := by
  obtain ⟨⟨⟨bits⟩, hx⟩⟩ := x
  have hbits : UnpackedFloat.pack Format.binary64 (UnpackedFloat.unpack Format.binary64 bits) = bits :=
    @pack_unpack_of_valid Format.binary64 _ hx (by decide)
  simp only [unpacked, Float.Model.pack, Float.Model.unpack]
  congr 2
  exact congrArg UInt64.ofBitVec hbits

theorem unpacked_nan : unpacked (Scalar.nan : Float) = .notANumber := isNaN_iff.1 (by decide +kernel)

/-- Packing leaves one double that is not a number. -/
instance : Scalar.Canonical Float where
  eq_nan _ h := eq_of_unpacked_eq ((isNaN_iff.1 h).trans unpacked_nan.symm)

/-- The exponent is the one that doubles give to the mantissa: it has 53 bits, or the exponent is the
least there is. -/
def InPlace (m : ℕ) (e : ℤ) : Prop := max ((m.log2 : ℤ) + 1 + e - 53) (-1074) = e

theorem toNat_lead (m : BitVec 52) : (1#1 ++ m).toNat = 2 ^ 52 + m.toNat := by
  rw [BitVec.toNat_append, ← Nat.shiftLeft_add_eq_or_of_lt m.isLt]
  rfl

theorem inPlace_of_unpacked_eq {x : Float} {s : Sign} {m : ℕ} {e : ℤ} {hm : 0 < m}
    (h : unpacked x = .finite s m e hm) : InPlace m e := by
  obtain ⟨⟨bits, valid⟩⟩ := x
  change UnpackedFloat.unpack Format.binary64 bits.toBitVec = _ at h
  have hmantissa : (@unpackMantissa Format.binary64 bits.toBitVec).toNat < 2 ^ 52 :=
    BitVec.isLt _
  have hbias : Format.binary64.exponentBias = 1023 := rfl
  have hbits : Format.binary64.mantissaBitsWithoutImplicit = 52 := rfl
  unfold InPlace
  simp only [UnpackedFloat.unpack] at h
  split_ifs at h with hinf hinf' hsub hzero
  · -- A subnormal one: the exponent is the least there is.
    injection h with hs hm' he
    rw [hsub] at he
    simp only [BitVec.toNat_ofNat] at he
    have hlog : m.log2 < 52 := (Nat.log2_lt hm.ne').2 (hm' ▸ hmantissa)
    omega
  · injection h with hs hm' he
    have hlead : m = 2 ^ 52 + (@unpackMantissa Format.binary64 bits.toBitVec).toNat :=
      hm'.symm.trans (toNat_lead _)
    have hlog : m.log2 = 52 := by
      rw [Nat.log2_eq_iff hm.ne', hlead]
      omega
    have hexponent : (@unpackExponent Format.binary64 bits.toBitVec).toNat ≠ 0 :=
      fun heq => hsub (BitVec.eq_of_toNat_eq (heq.trans rfl))
    omega

theorem shiftRight_mul_two_pow (m k : ℕ) :
    ExtendedMantissa.mk (m * 2 ^ k) false false >>> k = ⟨m, false, false⟩ := by
  induction k generalizing m with
  | zero =>
    rw [pow_zero, mul_one]
    rfl
  | succ k ih =>
    have hstep : ExtendedMantissa.mk (m * 2 ^ (k + 1)) false false >>> (k + 1) =
        (ExtendedMantissa.mk (2 * m * 2 ^ k) false false >>> k).shiftRightOne := by
      rw [pow_succ, ← mul_assoc, mul_comm, ← mul_assoc]
      rfl
    rw [hstep, ih, ExtendedMantissa.shiftRightOne]
    simp

theorem log2_mul_two_pow {m : ℕ} (hm : m ≠ 0) (k : ℕ) : (m * 2 ^ k).log2 = m.log2 + k := by
  obtain ⟨hle, hlt⟩ := (Nat.log2_eq_iff hm).1 rfl
  rw [Nat.log2_eq_iff (by positivity), pow_add, add_right_comm, pow_add]
  exact ⟨Nat.mul_le_mul_right _ hle, Nat.mul_lt_mul_of_pos_right hlt (by positivity)⟩

theorem shift_mul_two_pow {m : ℕ} {e : ℤ} (hm : 0 < m) (k : ℕ) (h : InPlace m e) :
    shiftToTargetExponent Format.binary64 (m * 2 ^ k) (e - k) .exact = (⟨m, false, false⟩, e) := by
  have htarget : Format.binary64.targetExponent (totalExponent (m * 2 ^ k) (e - k)) = e := by
    show max (((m * 2 ^ k).log2 : ℤ) + 1 + (e - k) - 53) (-1074) = e
    rw [log2_mul_two_pow hm.ne']
    unfold InPlace at h
    push_cast
    omega
  have hshift : (e - (e - (k : ℤ))).toNat = k := by omega
  unfold shiftToTargetExponent shiftToExponent
  dsimp only
  rw [htarget, hshift, ExtendedMantissa.ofMantissaAndAccuracy, shiftRight_mul_two_pow]
  simp

/-- Rounding finds a mantissa in its place again. -/
theorem round_mul_two_pow {m : ℕ} {e : ℤ} (s : Sign) (hm : 0 < m) (k : ℕ) (h : InPlace m e) :
    roundWithAccuracy Format.binary64 s (m * 2 ^ k) (e - k) .exact = .finite s m e hm := by
  have hagain := shift_mul_two_pow hm 0 h
  simp only [pow_zero, mul_one, Nat.cast_zero, sub_zero] at hagain
  have hrounded : (ExtendedMantissa.mk m false false).roundedMantissa = m := rfl
  unfold roundWithAccuracy
  rw [shift_mul_two_pow hm k h]
  simp only [hrounded, hagain, hm.ne', dite_false]

theorem mul_positive (s : Sign) : s * .positive = s := by cases s <;> rfl

theorem unpacked_one : unpacked (Scalar.ofInt 1) = .finite .positive (2 ^ 52) (-52) (by positivity) :=
  rfl

theorem unpacked_mul_one (x : Float) :
    (unpacked x).mul Format.binary64 (.finite .positive (2 ^ 52) (-52) (by positivity)) = unpacked x := by
  rcases hx : unpacked x with s | _ | s | ⟨s, m, e, hm⟩
  · rw [UnpackedFloat.mul, mul_positive]
  · rw [UnpackedFloat.mul]
  · rw [UnpackedFloat.mul, mul_positive]
  · rw [UnpackedFloat.mul, mul_positive]
    exact round_mul_two_pow s hm 52 (inPlace_of_unpacked_eq hx)

theorem mul_eq_pack (x y : Float) :
    x * y = Float.ofModel (Float.Model.pack ((unpacked x).mul Format.binary64 (unpacked y))) := rfl

instance : Scalar.Unital Float where
  mul_one x _ := by
    show x * Scalar.ofInt 1 = x
    rw [mul_eq_pack, unpacked_one, unpacked_mul_one, pack_unpacked]

end Gridded.Doubles
