import Gridded.Proofs.Doubles

/-!
# Rounding and products

The exact product of two doubles is shifted until its mantissa has 53 bits or stands at the least place
there is. What was shifted out is remembered in two bits, which decide to which side the mantissa is
rounded. Then the result is packed, where what is too large becomes infinite. Every one of these steps
keeps order, and so does the product.

* `Doubles.StandsFor`: the exact numbers that a mantissa with its two bits stands for; a shift halves them
  (`Doubles.StandsFor.halve`), and rounding keeps their order (`Doubles.StandsFor.roundedMantissa_mono`);
* `Doubles.place`, `Doubles.settled`: the exponent of an exact number, and the double with a mantissa at it;
* `Doubles.standing_round_mono`: exact numbers are rounded to doubles in their order;
* `Doubles.repacked`, `Doubles.standing_repacked_mono`: packing keeps the order of numbers from zero on;
* `Doubles.mul_le_mul_right`: multiplying by a number from zero on keeps order, where there are products.
-/

namespace Gridded.Doubles

open Float.Model Float.Model.UnpackedFloat

/-! ### Residual bits -/

/-- Half way to the next mantissa, if the round bit is set, and else the mantissa itself. -/
def mark (em : ExtendedMantissa) : ℚ := em.mantissa + if em.roundBit then 1 / 2 else 0

/-- The number that a mantissa with residual bits stands for: the mark of its mantissa and its round bit, or
something between this and the next mark if the sticky bit is set. -/
def StandsFor (em : ExtendedMantissa) (q : ℚ) : Prop :=
  if em.stickyBit then mark em < q ∧ q < mark em + 1 / 2 else q = mark em

theorem roundedMantissa_bounds (em : ExtendedMantissa) :
    em.mantissa ≤ em.roundedMantissa ∧ em.roundedMantissa ≤ em.mantissa + 1 := by
  rcases em with ⟨m, _ | _, _ | _⟩ <;>
    simp only [ExtendedMantissa.roundedMantissa, ExtendedMantissa.accuracy,
      Accuracy.roundToNearestEven] <;> omega

namespace StandsFor

variable {em em' : ExtendedMantissa} {q q' : ℚ}

theorem mark_le (h : StandsFor em q) : mark em ≤ q ∧ q < mark em + 1 / 2 := by
  unfold StandsFor at h
  split_ifs at h
  · exact ⟨h.1.le, h.2⟩
  · constructor <;> linarith

theorem mantissa_le (h : StandsFor em q) : (em.mantissa : ℚ) ≤ q ∧ q < em.mantissa + 1 := by
  have hmark : (em.mantissa : ℚ) ≤ mark em ∧ mark em ≤ em.mantissa + 1 / 2 := by
    unfold mark
    split_ifs <;> constructor <;> linarith
  constructor <;> linarith [h.mark_le]

/-- A shift by one place halves the number. -/
theorem halve (h : StandsFor em q) : StandsFor em.shiftRightOne (q / 2) := by
  rcases em with ⟨m, roundBit, stickyBit⟩
  have hsplit : ((m % 2 : ℕ) : ℚ) + 2 * ((m / 2 : ℕ) : ℚ) = m := by exact_mod_cast Nat.mod_add_div m 2
  rcases Nat.mod_two_eq_zero_or_one m with hm | hm <;> rw [hm] at hsplit <;> push_cast at hsplit <;>
    rcases roundBit with _ | _ <;> rcases stickyBit with _ | _ <;>
    simp [StandsFor, mark, ExtendedMantissa.shiftRightOne, hm] at h ⊢ <;>
    first | linarith | (constructor <;> linarith)

theorem shiftRight (h : StandsFor em q) (k : ℕ) : StandsFor (em >>> k) (q / 2 ^ k) := by
  induction k with
  | zero =>
    rw [pow_zero, div_one]
    exact h
  | succ k ih =>
    rw [pow_succ, ← div_div]
    exact ih.halve

/-- Rounding to the nearest mantissa, and to the even one between two, keeps order. -/
theorem roundedMantissa_mono (h : StandsFor em q) (h' : StandsFor em' q') (hle : q ≤ q') :
    em.roundedMantissa ≤ em'.roundedMantissa := by
  have hmantissa : em.mantissa < em'.mantissa + 1 := by
    exact_mod_cast (h.mantissa_le.1.trans hle).trans_lt h'.mantissa_le.2
  rcases (Nat.lt_succ_iff.1 hmantissa).lt_or_eq with hlt | heq
  · exact (roundedMantissa_bounds em).2.trans (hlt.trans_le (roundedMantissa_bounds em').1)
  · rcases em with ⟨m, r, s⟩
    rcases em' with ⟨m', r', s'⟩
    obtain rfl : m = m' := heq
    rcases r with _ | _ <;> rcases s with _ | _ <;> rcases r' with _ | _ <;> rcases s' with _ | _ <;>
      simp [StandsFor, mark, ExtendedMantissa.roundedMantissa, ExtendedMantissa.accuracy,
        Accuracy.roundToNearestEven] at h h' ⊢ <;>
      first | omega | (exfalso; linarith)

end StandsFor

/-! ### Rounding an exact number -/

/-- The exponent that doubles give to an exact number. -/
def place (m : ℕ) (e : ℤ) : ℤ := max ((m.log2 : ℤ) + 1 + e - 53) (-1074)

/-- A mantissa of up to 53 bits at its place, where the next mantissa moves to the next place. -/
def settled (s : Sign) (r : ℕ) (e : ℤ) : UnpackedFloat :=
  if h : r = 0 then .zero s
  else if r = 2 ^ 53 then .finite s (2 ^ 52) (e + 1) (by positivity)
  else .finite s r e (Nat.pos_of_ne_zero h)

theorem shiftToTargetExponent_eq (m : ℕ) (e : ℤ) :
    shiftToTargetExponent Format.binary64 m e .exact =
      (ExtendedMantissa.mk m false false >>> (place m e - e).toNat,
        e + ((place m e - e).toNat : ℤ)) := rfl

theorem standsFor_exact (m : ℕ) : StandsFor ⟨m, false, false⟩ m := by
  simp [StandsFor, mark]

theorem le_place (m : ℕ) (e : ℤ) : -1074 ≤ place m e := le_max_right _ _

/-- The second shift moves a mantissa that has become too long. -/
theorem shift_settled {r : ℕ} {e : ℤ} (hr : r ≤ 2 ^ 53) (he : -1074 ≤ e) :
    shiftToTargetExponent Format.binary64 r e .exact =
      if r = 2 ^ 53 then (⟨2 ^ 52, false, false⟩, e + 1) else (⟨r, false, false⟩, e) := by
  split_ifs with hlong
  · subst hlong
    have hplace : place (2 ^ 53) e = e + 1 := by
      rw [place, Nat.log2_two_pow]
      omega
    have hone : (e + 1 - e).toNat = 1 := by omega
    rw [shiftToTargetExponent_eq, hplace, hone]
    rfl
  · have hlog : r.log2 ≤ 52 := by
      rcases Nat.eq_zero_or_pos r with rfl | hpos
      · simp
      · exact Nat.lt_succ_iff.1 ((Nat.log2_lt hpos.ne').2 (by omega))
    have hplace : place r e ≤ e := by
      unfold place
      omega
    have hzero : (place r e - e).toNat = 0 := by omega
    rw [shiftToTargetExponent_eq, hzero, Nat.cast_zero, add_zero]
    rfl

/-- A number that is shifted to its place has a mantissa of 53 bits, unless this is the least place. -/
theorem exists_shifted {m : ℕ} {e : ℤ} (hm : 0 < m) (he : e ≤ place m e) :
    ∃ em, StandsFor em (m * 2 ^ e / 2 ^ place m e) ∧ em.mantissa < 2 ^ 53 ∧
      (place m e = -1074 ∨ 2 ^ 52 ≤ em.mantissa) ∧
      shiftToTargetExponent Format.binary64 m e .exact = (em, place m e) := by
  obtain ⟨k, hk⟩ : ∃ k : ℕ, place m e = e + k := ⟨(place m e - e).toNat, by omega⟩
  have hshift : (place m e - e).toNat = k := by omega
  have hexact : (m * 2 ^ e / 2 ^ place m e : ℚ) = m / 2 ^ k := by
    rw [hk, zpow_add₀ two_ne_zero, zpow_natCast]
    field_simp
  have hstands := (standsFor_exact m).shiftRight k
  obtain ⟨hlow, hhigh⟩ := (Nat.log2_eq_iff hm.ne').1 rfl
  refine ⟨_, hexact ▸ hstands, ?_, ?_, by rw [shiftToTargetExponent_eq, hshift, ← hk]⟩
  · have hle : m.log2 + 1 ≤ 53 + k := by
      unfold place at hk
      omega
    have hlt : (m : ℚ) / 2 ^ k < 2 ^ 53 := by
      rw [div_lt_iff₀ (by positivity), ← pow_add]
      exact_mod_cast hhigh.trans_le (Nat.pow_le_pow_right (by decide) hle)
    exact_mod_cast hstands.mantissa_le.1.trans_lt hlt
  · refine or_iff_not_imp_left.2 fun hplace => ?_
    have hlog : 52 + k = m.log2 := by
      unfold place at hk hplace
      omega
    have hle : (2 : ℚ) ^ 52 ≤ m / 2 ^ k := by
      rw [le_div_iff₀ (by positivity), ← pow_add, hlog]
      exact_mod_cast hlow
    exact Nat.lt_succ_iff.1 (by exact_mod_cast hle.trans_lt hstands.mantissa_le.2)

/-- What rounding makes of an exact number. -/
theorem exists_rounded (s : Sign) {m : ℕ} {e : ℤ} (hm : 0 < m) (he : e ≤ place m e) :
    ∃ em, StandsFor em (m * 2 ^ e / 2 ^ place m e) ∧ em.roundedMantissa ≤ 2 ^ 53 ∧
      (place m e = -1074 ∨ 2 ^ 52 ≤ em.roundedMantissa) ∧
      roundWithAccuracy Format.binary64 s m e .exact = settled s em.roundedMantissa (place m e) := by
  obtain ⟨em, hstands, hmost, hleast, hshift⟩ := exists_shifted hm he
  obtain ⟨hbelow, habove⟩ := roundedMantissa_bounds em
  have hrounded : em.roundedMantissa ≤ 2 ^ 53 := by omega
  refine ⟨em, hstands, hrounded, hleast.imp_right hbelow.trans', ?_⟩
  unfold roundWithAccuracy settled
  rw [hshift]
  dsimp only
  rw [shift_settled hrounded (le_place m e)]
  by_cases hlong : em.roundedMantissa = 2 ^ 53
  · rw [hlong]
    rfl
  · simp only [if_neg hlong]

theorem standing_settled (r : ℕ) (e : ℤ) : standing (settled .positive r e) =
    if r = 0 then toLex ((0 : ℤ), toLex ((0 : ℤ), (0 : ℤ)))
    else if r = 2 ^ 53 then toLex (1, toLex (e + 1, 2 ^ 52)) else toLex (1, toLex (e, (r : ℤ))) := by
  unfold settled
  split_ifs <;> rfl

/-- The larger of two exact numbers has the later place. -/
theorem place_mono {m n : ℕ} {e f : ℤ} (hm : 0 < m) (hn : 0 < n)
    (hle : (m * 2 ^ e : ℚ) ≤ n * 2 ^ f) : place m e ≤ place n f := by
  have hlow : ((2 ^ m.log2 : ℕ) : ℚ) ≤ m := by exact_mod_cast ((Nat.log2_eq_iff hm.ne').1 rfl).1
  have hhigh : (n : ℚ) < ((2 ^ (n.log2 + 1) : ℕ) : ℚ) := by
    exact_mod_cast ((Nat.log2_eq_iff hn.ne').1 rfl).2
  have hlt : (2 : ℚ) ^ ((m.log2 : ℤ) + e) < 2 ^ ((n.log2 : ℤ) + 1 + f) := by
    rw [zpow_add₀ two_ne_zero, zpow_add₀ two_ne_zero]
    calc (2 : ℚ) ^ (m.log2 : ℤ) * 2 ^ e ≤ m * 2 ^ e := by
          gcongr
          exact_mod_cast hlow
      _ ≤ n * 2 ^ f := hle
      _ < 2 ^ ((n.log2 : ℤ) + 1) * 2 ^ f := by
          gcongr
          exact_mod_cast hhigh
  have hlog := (zpow_lt_zpow_iff_right₀ one_lt_two).1 hlt
  unfold place
  omega

/-- The larger of two exact numbers is not rounded to the smaller double. -/
theorem standing_round_mono {m n : ℕ} {e f : ℤ} (hm : 0 < m) (hn : 0 < n) (he : e ≤ place m e)
    (hf : f ≤ place n f) (hle : (m * 2 ^ e : ℚ) ≤ n * 2 ^ f) :
    standing (roundWithAccuracy Format.binary64 .positive m e .exact) ≤
      standing (roundWithAccuracy Format.binary64 .positive n f .exact) := by
  obtain ⟨em, hem, hmost, -, hround⟩ := exists_rounded .positive hm he
  obtain ⟨em', hem', hmost', hleast', hround'⟩ := exists_rounded .positive hn hf
  have hplace := place_mono hm hn hle
  rw [hround, hround', standing_settled, standing_settled]
  rcases hplace.lt_or_eq with hlt | heq
  · -- A number of a later place has all bits of its mantissa.
    have hlong := hleast'.resolve_left (by have := le_place m e; omega)
    split_ifs <;> simp [Prod.Lex.toLex_le_toLex] <;> omega
  · rw [heq] at hem ⊢
    have hrounded : em.roundedMantissa ≤ em'.roundedMantissa :=
      hem.roundedMantissa_mono hem' (div_le_div_of_nonneg_right hle (by positivity))
    split_ifs <;> simp [Prod.Lex.toLex_le_toLex] <;> omega

/-! ### Packing -/

/-- A result that is packed into a double and unpacked again. -/
def repacked (u : UnpackedFloat) : UnpackedFloat :=
  UnpackedFloat.unpack Format.binary64 (UnpackedFloat.pack Format.binary64 u)

theorem unpacked_pack (u : UnpackedFloat) :
    unpacked (Float.ofModel (Float.Model.pack u)) = repacked u := rfl

theorem repacked_unpacked (x : Float) : repacked (unpacked x) = unpacked x := by
  rw [← unpacked_pack, pack_unpacked]

theorem unpacked_mul (x y : Float) :
    unpacked (x * y) = repacked ((unpacked x).mul Format.binary64 (unpacked y)) := rfl

theorem unpacked_sub (x y : Float) :
    unpacked (x - y) = repacked ((unpacked x).sub Format.binary64 (unpacked y)) := rfl

theorem abs_unpack_packComponents {spec : Format} (s : Sign) (e : BitVec spec.exponentBits)
    (m : BitVec spec.mantissaBitsWithoutImplicit) :
    (UnpackedFloat.unpack spec (packComponents spec s e m)).abs =
      UnpackedFloat.unpack spec (packComponents spec .positive e m) := by
  simp only [UnpackedFloat.unpack, unpackExponent_packComponents, unpackMantissa_packComponents,
    unpackSign_packComponents, Sign.ofBitVec_toBitVec]
  split_ifs <;> rfl

/-- A sign is packed apart from the rest. -/
theorem abs_repacked (u : UnpackedFloat) : (repacked u).abs = repacked u.abs := by
  rcases u with s | _ | s | ⟨s, m, e, hm⟩
  · exact abs_unpack_packComponents s _ _
  · exact abs_unpack_packComponents .positive _ _
  · exact abs_unpack_packComponents s _ _
  · unfold repacked UnpackedFloat.abs UnpackedFloat.pack
    dsimp only
    split_ifs <;> exact abs_unpack_packComponents s _ _

theorem unpacked_abs (x : Float) : unpacked (Scalar.abs x) = (unpacked x).abs := by
  have h : unpacked (Scalar.abs x) = repacked (unpacked x).abs := rfl
  rw [h, ← abs_repacked, repacked_unpacked]

/-- Bits whose exponent has neither all bits nor none are those of a mantissa with its lead. -/
theorem unpack_packComponents {s : Sign} {e : BitVec 11} (m : BitVec 52) (hall : e ≠ -1#11)
    (hnone : e ≠ 0#11) :
    UnpackedFloat.unpack Format.binary64 (packComponents Format.binary64 s e m) =
      .finite s (2 ^ 52 + m.toNat) (e.toNat - 1075) (by positivity) := by
  simp only [UnpackedFloat.unpack, unpackExponent_packComponents, unpackMantissa_packComponents,
    unpackSign_packComponents, Sign.ofBitVec_toBitVec, if_neg hall, if_neg hnone, toNat_lead]
  rfl

/-- Bits without an exponent are those of a mantissa at the least place. -/
theorem unpack_packComponents_zero {s : Sign} {m : BitVec 52} (hm : m ≠ 0#52) :
    UnpackedFloat.unpack Format.binary64 (packComponents Format.binary64 s 0#11 m) =
      .finite s m.toNat (-1074) (by simpa [BitVec.toNat_pos, BitVec.pos_iff_ne_zero] using hm) := by
  have hall : (0#11) ≠ -1#11 := by decide
  simp only [UnpackedFloat.unpack, unpackExponent_packComponents, unpackMantissa_packComponents,
    unpackSign_packComponents, Sign.ofBitVec_toBitVec, if_neg hall, if_true, dif_neg hm]
  rfl

theorem unpack_packedInfinity (s : Sign) :
    UnpackedFloat.unpack Format.binary64 (packedInfinity Format.binary64 s) = .infinity s := by
  simp [UnpackedFloat.unpack, packedInfinity]

/-- What is packed is the number itself, if it is not too large. -/
theorem repacked_finite {m : ℕ} {e : ℤ} (s : Sign) (hm : 0 < m) (h : InPlace m e) :
    repacked (.finite s m e hm) = if e ≤ 971 then .finite s m e hm else .infinity s := by
  obtain ⟨hlow, hhigh⟩ := (Nat.log2_eq_iff hm.ne').1 rfl
  have hbiased : (e + Format.binary64.exponentBias + Format.binary64.mantissaBitsWithoutImplicit).toNat =
      (e + 1075).toNat := by
    show (e + 1023 + 52).toNat = (e + 1075).toNat
    omega
  have hbits : Format.binary64.mantissaBits = 53 := rfl
  unfold InPlace at h
  unfold repacked UnpackedFloat.pack
  dsimp only
  rw [hbiased, hbits]
  by_cases hlarge : e ≤ 971
  · have hsmall : ¬ 2 ^ 11 ≤ (e + 1075).toNat + 1 := by omega
    rw [if_neg hsmall, if_pos hlarge]
    by_cases hlead : m.log2 + 1 = 53
    · have hlog : m.log2 = 52 := by omega
      rw [hlog] at hlow hhigh
      have hexponent : (BitVec.ofNat 11 (e + 1075).toNat).toNat = (e + 1075).toNat := by
        rw [BitVec.toNat_ofNat, Nat.mod_eq_of_lt (by omega)]
      have hmantissa : 2 ^ 52 + (BitVec.ofNat 52 m).toNat = m := by
        rw [BitVec.toNat_ofNat]
        omega
      have hall : BitVec.ofNat 11 (e + 1075).toNat ≠ -1#11 := fun heq => by
        have hnat : (e + 1075).toNat = 2047 := hexponent.symm.trans (congrArg BitVec.toNat heq)
        omega
      have hnone : BitVec.ofNat 11 (e + 1075).toNat ≠ 0#11 := fun heq => by
        have hnat : (e + 1075).toNat = 0 := hexponent.symm.trans (congrArg BitVec.toNat heq)
        omega
      rw [if_pos hlead, unpack_packComponents _ hall hnone, UnpackedFloat.finite.injEq]
      exact ⟨rfl, hmantissa, by omega⟩
    · -- A mantissa without its lead stands at the least place.
      have hlt : m < 2 ^ 52 := (Nat.log2_lt hm.ne').1 (by omega)
      have hmantissa : (BitVec.ofNat 52 m).toNat = m := by
        rw [BitVec.toNat_ofNat, Nat.mod_eq_of_lt hlt]
      have hne : BitVec.ofNat 52 m ≠ 0#52 := fun heq => by
        have hnat : m = 0 := hmantissa.symm.trans (congrArg BitVec.toNat heq)
        omega
      rw [if_neg hlead, unpack_packComponents_zero hne, UnpackedFloat.finite.injEq]
      exact ⟨rfl, hmantissa, by omega⟩
  · have hoverflow : 2 ^ 11 ≤ (e + 1075).toNat + 1 := by omega
    rw [if_pos hoverflow, if_neg hlarge, unpack_packedInfinity]

/-! ### Numbers from zero on -/

/-- A number that is not below zero, with its mantissa at its place. -/
inductive Nonneg : UnpackedFloat → Prop
  | zero (s : Sign) : Nonneg (.zero s)
  | finite {m : ℕ} {e : ℤ} (hm : 0 < m) (h : InPlace m e) : Nonneg (.finite .positive m e hm)
  | infinity : Nonneg (.infinity .positive)

theorem standing_nonneg {u : UnpackedFloat} (h : Nonneg u) : toLex (0, toLex (0, 0)) ≤ standing u := by
  cases h <;> simp [standing, Prod.Lex.toLex_le_toLex]

theorem nonneg_iff {x : Float} : 0 ≤ x ↔ Nonneg (unpacked x) := by
  have hzero : standing (unpacked 0) = toLex (0, toLex (0, 0)) := by decide +kernel
  rw [float_le_iff, hzero]
  constructor
  · rintro ⟨-, hnumber, hle⟩
    rcases hx : unpacked x with (_ | _) | _ | s | ⟨_ | _, m, e, hm⟩ <;> rw [hx] at hle
    · simp [standing, Prod.Lex.toLex_le_toLex] at hle
    · exact .infinity
    · exact absurd hx (isNaN_eq_false_iff.1 hnumber)
    · exact .zero s
    · simp [standing, Prod.Lex.toLex_le_toLex] at hle
    · exact .finite hm (inPlace_of_unpacked_eq hx)
  · intro h
    refine ⟨by decide +kernel, isNaN_eq_false_iff.2 fun hx => ?_, standing_nonneg h⟩
    have hx : unpacked x = .notANumber := hx
    rw [hx] at h
    cases h

theorem standing_le_infinity (u : UnpackedFloat) : standing u ≤ standing (.infinity .positive) := by
  rcases u with (_ | _) | _ | _ | ⟨_ | _, _, _, _⟩ <;> simp [standing, Prod.Lex.toLex_le_toLex]

theorem nonneg_settled {r : ℕ} {e : ℤ} (he : -1074 ≤ e) (hr : r ≤ 2 ^ 53)
    (hlong : e = -1074 ∨ 2 ^ 52 ≤ r) : Nonneg (settled .positive r e) := by
  unfold settled
  split_ifs with hzero hfull
  · exact .zero _
  · refine .finite _ ?_
    rw [InPlace, Nat.log2_two_pow]
    omega
  · refine .finite _ ?_
    have hlog : r.log2 ≤ 52 := Nat.lt_succ_iff.1 ((Nat.log2_lt hzero).2 (by omega))
    rw [InPlace]
    rcases hlong with hleast | hlong
    · omega
    · have hlog' : 52 ≤ r.log2 := (Nat.le_log2 hzero).2 hlong
      omega

theorem nonneg_round {m : ℕ} {e : ℤ} (hm : 0 < m) (he : e ≤ place m e) :
    Nonneg (roundWithAccuracy Format.binary64 .positive m e .exact) := by
  obtain ⟨em, -, hmost, hleast, hround⟩ := exists_rounded .positive hm he
  rw [hround]
  exact nonneg_settled (le_place m e) hmost hleast

theorem repacked_zero (s : Sign) : repacked (.zero s) = .zero s := by cases s <;> rfl

theorem repacked_infinity (s : Sign) : repacked (.infinity s) = .infinity s := by cases s <;> rfl

/-- Packing keeps order, although it makes numbers infinite that are too large. -/
theorem standing_repacked_mono {u v : UnpackedFloat} (hu : Nonneg u) (hv : Nonneg v)
    (hle : standing u ≤ standing v) : standing (repacked u) ≤ standing (repacked v) := by
  cases hu with
  | zero s =>
    cases hv with
    | zero t => rw [repacked_zero, repacked_zero]; exact hle
    | infinity => rw [repacked_zero, repacked_infinity]; exact hle
    | finite hm h =>
      rw [repacked_zero, repacked_finite _ hm h]
      split_ifs <;> simp [standing, Prod.Lex.toLex_le_toLex]
  | infinity =>
    cases hv with
    | infinity => exact le_rfl
    | zero t => simp [standing, Prod.Lex.toLex_le_toLex] at hle
    | finite hm h => simp [standing, Prod.Lex.toLex_le_toLex] at hle
  | finite hm h =>
    cases hv with
    | zero t => simp [standing, Prod.Lex.toLex_le_toLex] at hle
    | infinity =>
      rw [repacked_finite _ hm h, repacked_infinity]
      split_ifs <;> simp [standing, Prod.Lex.toLex_le_toLex]
    | finite hm' h' =>
      rw [repacked_finite _ hm h, repacked_finite _ hm' h']
      simp only [standing, Prod.Lex.toLex_le_toLex] at hle
      split_ifs <;> simp [standing, Prod.Lex.toLex_le_toLex] <;> omega

/-! ### Products -/

theorem log2_le_log2 {m n : ℕ} (hm : 0 < m) (h : m ≤ n) : m.log2 ≤ n.log2 :=
  (Nat.le_log2 (hm.trans_le h).ne').2 (((Nat.log2_eq_iff hm.ne').1 rfl).1.trans h)

/-- A product has its place no earlier than its exponent says, so that all of it is seen in rounding. -/
theorem add_le_place {m n : ℕ} {e f : ℤ} (hm : 0 < m) (hn : 0 < n) (he : InPlace m e)
    (hf : InPlace n f) : e + f ≤ place (m * n) (e + f) := by
  have hleft := log2_le_log2 hm (Nat.le_mul_of_pos_right m hn)
  have hright := log2_le_log2 hn (Nat.le_mul_of_pos_left n hm)
  unfold InPlace at he hf
  unfold place
  omega

/-- Numbers whose mantissas are at their places are ordered by place first. -/
theorem exact_mono {m n : ℕ} {e f : ℤ} (hm : 0 < m) (hn : 0 < n) (he : InPlace m e)
    (hf : InPlace n f) (h : e < f ∨ e = f ∧ m ≤ n) : (m * 2 ^ e : ℚ) ≤ n * 2 ^ f := by
  rcases h with hlt | ⟨rfl, hle⟩
  · unfold InPlace at he hf
    have hshort : (m : ℚ) ≤ 2 ^ 53 := by
      exact_mod_cast ((Nat.log2_lt hm.ne').1 (by omega : m.log2 < 53)).le
    have hlong : (2 : ℚ) ^ 52 ≤ n := by
      exact_mod_cast (Nat.le_log2 hn.ne').1 (by omega : 52 ≤ n.log2)
    calc (m * 2 ^ e : ℚ) ≤ 2 ^ 53 * 2 ^ e := by gcongr
      _ = 2 ^ 52 * 2 ^ (e + 1) := by
        rw [zpow_add₀ two_ne_zero]
        ring
      _ ≤ n * 2 ^ f := by
        gcongr
        · exact one_le_two
        · omega
  · gcongr

theorem finite_mul {m n : ℕ} {e f : ℤ} (hm : 0 < m) (hn : 0 < n) :
    (UnpackedFloat.finite .positive m e hm).mul Format.binary64 (.finite .positive n f hn) =
      roundWithAccuracy Format.binary64 .positive (m * n) (e + f) .exact := rfl

theorem nonneg_finite_mul {m n : ℕ} {e f : ℤ} (hm : 0 < m) (hn : 0 < n) (he : InPlace m e)
    (hf : InPlace n f) :
    Nonneg ((UnpackedFloat.finite .positive m e hm).mul Format.binary64 (.finite .positive n f hn)) := by
  rw [finite_mul]
  exact nonneg_round (Nat.mul_pos hm hn) (add_le_place hm hn he hf)

theorem nonneg_mul {u v : UnpackedFloat} (hu : Nonneg u) (hv : Nonneg v)
    (hnumber : u.mul Format.binary64 v ≠ .notANumber) : Nonneg (u.mul Format.binary64 v) := by
  cases hu with
  | zero s =>
    cases hv with
    | zero t => exact .zero _
    | infinity => exact absurd rfl hnumber
    | finite hn hf => exact .zero _
  | infinity =>
    cases hv with
    | zero t => exact absurd rfl hnumber
    | infinity => exact .infinity
    | finite hn hf => exact .infinity
  | finite hm he =>
    cases hv with
    | zero t => exact .zero _
    | infinity => exact .infinity
    | finite hn hf => exact nonneg_finite_mul hm hn he hf

theorem standing_finite_mul_mono {m m' n : ℕ} {e e' f : ℤ} (hm : 0 < m) (hm' : 0 < m') (hn : 0 < n)
    (he : InPlace m e) (he' : InPlace m' e') (hf : InPlace n f) (h : e < e' ∨ e = e' ∧ m ≤ m') :
    standing (roundWithAccuracy Format.binary64 .positive (m * n) (e + f) .exact) ≤
      standing (roundWithAccuracy Format.binary64 .positive (m' * n) (e' + f) .exact) := by
  have hexact := exact_mono hm hm' he he' h
  refine standing_round_mono (Nat.mul_pos hm hn) (Nat.mul_pos hm' hn) (add_le_place hm hn he hf)
    (add_le_place hm' hn he' hf) ?_
  rw [zpow_add₀ two_ne_zero, zpow_add₀ two_ne_zero]
  push_cast
  calc (m * n * (2 ^ e * 2 ^ f) : ℚ) = m * 2 ^ e * (n * 2 ^ f) := by ring
    _ ≤ m' * 2 ^ e' * (n * 2 ^ f) := by gcongr
    _ = m' * n * (2 ^ e' * 2 ^ f) := by ring

/-- Multiplying by a number from zero on keeps order, where there are products. -/
theorem standing_mul_mono {u v w : UnpackedFloat} (hu : Nonneg u) (hv : Nonneg v) (hw : Nonneg w)
    (hle : standing u ≤ standing v) (hnumber : u.mul Format.binary64 w ≠ .notANumber)
    (hnumber' : v.mul Format.binary64 w ≠ .notANumber) :
    standing (u.mul Format.binary64 w) ≤ standing (v.mul Format.binary64 w) := by
  have hproduct := nonneg_mul hu hw hnumber
  have hproduct' := nonneg_mul hv hw hnumber'
  cases hu with
  | zero s =>
    cases hw with
    | zero t => exact standing_nonneg hproduct'
    | infinity => exact absurd rfl hnumber
    | finite hn hf => exact standing_nonneg hproduct'
  | infinity =>
    cases hv with
    | infinity => exact le_rfl
    | zero t => simp [standing, Prod.Lex.toLex_le_toLex] at hle
    | finite hm he => simp [standing, Prod.Lex.toLex_le_toLex] at hle
  | finite hm he =>
    cases hv with
    | zero t => simp [standing, Prod.Lex.toLex_le_toLex] at hle
    | infinity =>
      cases hw with
      | zero t => exact absurd rfl hnumber'
      | infinity => exact le_rfl
      | finite hn hf => exact standing_le_infinity _
    | finite hm' he' =>
      cases hw with
      | zero t => exact le_rfl
      | infinity => exact le_rfl
      | finite hn hf =>
        simp only [standing, Prod.Lex.toLex_le_toLex, lt_self_iff_false, false_or, true_and,
          Nat.cast_le] at hle
        exact standing_finite_mul_mono hm hm' hn he he' hf hle

theorem isNaN_mul_iff {x y : Float} : Scalar.isNaN (x * y) = false ↔
    (unpacked x).mul Format.binary64 (unpacked y) ≠ .notANumber := by
  rw [← isNaN_eq_false_iff, ← isNaN_pack]
  rfl

/-- **Multiplying doubles keeps order**, where there are products. -/
theorem mul_le_mul_right {x y z : Float} (hx : 0 ≤ x) (hxy : x ≤ y) (hz : 0 ≤ z)
    (hnumber : Scalar.isNaN (x * z) = false) (hnumber' : Scalar.isNaN (y * z) = false) :
    x * z ≤ y * z := by
  have hu := nonneg_iff.1 hx
  have hv := nonneg_iff.1 (Scalar.Ordered.le_trans 0 x y hx hxy)
  have hw := nonneg_iff.1 hz
  have hproduct := isNaN_mul_iff.1 hnumber
  have hproduct' := isNaN_mul_iff.1 hnumber'
  refine (float_le_iff _ _).2 ⟨hnumber, hnumber', ?_⟩
  rw [unpacked_mul, unpacked_mul]
  exact standing_repacked_mono (nonneg_mul hu hw hproduct) (nonneg_mul hv hw hproduct')
    (standing_mul_mono hu hv hw ((float_le_iff x y).1 hxy).2.2 hproduct hproduct')

end Gridded.Doubles
