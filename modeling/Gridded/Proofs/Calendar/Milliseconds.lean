import Mathlib.Algebra.Order.Field.Basic
import Mathlib.Algebra.Order.Ring.Rat
import Mathlib.Tactic.FieldSimp
import Mathlib.Tactic.Linarith
import Mathlib.Tactic.NormNum
import Mathlib.Tactic.Ring
import Gridded.Calendar.Scale

/-!
# Dates and their numbers

A number on a scale is rounded to whole milliseconds on its way to a date, and a date is cut down to whole
milliseconds on its way to a number. The dates that are reached from a base outside leap seconds stand whole
milliseconds away from it on the line of nanoseconds, so nothing is cut off their way back.

* `abs_roundExact_sub_le`: rounding moves a fraction by a half at most, and a whole number
  (`roundExact_intCast`) not at all;
* `Instant.line`: the place of an instant in nanoseconds;
* `Instant.plusMillis?_eq_some`, `Instant.millisSince_eq`: moving and measuring along the line;
* `TimeScale.millis_of_date?`: the milliseconds of a number whose date is in range are nowhere near the
  limits of their words;
* `TimeScale.abs_offset_sub_le`, `TimeScale.date?_offset_iff`: from numbers to dates and back, and from dates
  to numbers and back.
-/

namespace Gridded

/-! ### Rounding -/

/-- The nearest whole number is off by a half at most. -/
theorem abs_nearest_sub_le (num : ℕ) {den : ℕ} (h : 0 < den) :
    |(Double.nearest num den : ℚ) - num / den| ≤ 1 / 2 := by
  have hlow : Double.nearest num den * (2 * den) ≤ 2 * num + den := Nat.div_mul_le_self _ _
  have hhigh : 2 * num + den < 2 * den * (Double.nearest num den + 1) :=
    Nat.lt_mul_div_succ _ (Nat.mul_pos Nat.two_pos h)
  have hden : (0 : ℚ) < den := Nat.cast_pos.2 h
  have hdiff : (Double.nearest num den : ℚ) - num / den = (Double.nearest num den * den - num) / den := by
    field_simp
  have hlow' : (Double.nearest num den * (2 * den) : ℚ) ≤ 2 * num + den := by exact_mod_cast hlow
  have hhigh' : (2 * num + den : ℚ) < 2 * den * (Double.nearest num den + 1) := by exact_mod_cast hhigh
  rw [hdiff, abs_div, abs_of_pos hden, div_le_iff₀ hden, abs_le]
  constructor <;> linarith

/-- Rounding moves a fraction by a half at most. -/
theorem abs_roundExact_sub_le (q : ℚ) : |(roundExact q : ℚ) - q| ≤ 1 / 2 := by
  have hnear := abs_nearest_sub_le q.num.natAbs q.den_pos
  have hq : (q.num : ℚ) / q.den = q := q.num_div_den
  by_cases hneg : q.num < 0
  · -- The magnitude is rounded, so that both signs are off by the same.
    have hnum : ((q.num.natAbs : ℕ) : ℚ) = -q.num := by rw [Nat.cast_natAbs, abs_of_neg hneg, Int.cast_neg]
    rw [hnum, neg_div, hq, sub_neg_eq_add] at hnear
    rwa [roundExact, if_pos hneg, ← abs_neg, Int.cast_neg, Int.cast_natCast, neg_sub, sub_neg_eq_add,
      add_comm]
  · have hnum : ((q.num.natAbs : ℕ) : ℚ) = q.num := by rw [Nat.cast_natAbs, abs_of_nonneg (not_lt.1 hneg)]
    rw [hnum, hq] at hnear
    rwa [roundExact, if_neg hneg, Int.cast_natCast]

/-- A whole number is left as it is. -/
theorem roundExact_intCast (n : ℤ) : roundExact n = n := by
  have hclose : |((roundExact n - n : ℤ) : ℚ)| < 1 := by
    rw [Int.cast_sub]
    exact (abs_roundExact_sub_le n).trans_lt (by norm_num)
  have hzero : roundExact n - n = 0 := Int.abs_lt_one_iff.1 (by exact_mod_cast hclose)
  exact sub_eq_zero.1 hzero

/-- A number that is moved to no end of the bounds is not moved at all. -/
theorem Double.clamp_eq_self {low high n : ℤ} (hlow : Double.clamp low high n ≠ low)
    (hhigh : Double.clamp low high n ≠ high) : Double.clamp low high n = n := by
  unfold Double.clamp at *
  split_ifs at * with hbelow habove
  · exact absurd rfl hlow
  · exact absurd rfl hhigh
  · rfl

/-! ### The line of nanoseconds -/

namespace Instant

variable {t u base : Instant} {m : ℤ}

/-- The nanoseconds since the start of 1970. Outside leap seconds they tell instants apart. -/
def line (t : Instant) : ℤ := t.seconds * second + t.nanos

theorem nanos_lt (h : t.isLeap = false) : t.nanos < second := by simpa [isLeap] using h

theorem eq_of_line_eq (ht : t.isLeap = false) (hu : u.isLeap = false) (h : t.line = u.line) : t = u := by
  have ht' := nanos_lt ht
  have hu' := nanos_lt hu
  unfold line at h
  unfold second at *
  rw [Instant.mk.injEq]
  omega

/-- The nanoseconds are brought below a second again. -/
theorem isLeap_shift (s n : ℤ) (t : Instant) : (t.shift s n).isLeap = false := by
  rw [isLeap, decide_eq_false_iff_not]
  simp only [shift, second]
  omega

theorem line_shift (s n : ℤ) (t : Instant) : (t.shift s n).line = t.line + (s * second + n) := by
  simp only [line, shift, second]
  omega

/-- Outside leap seconds a move is a step along the line, if it ends in range. -/
theorem plusMillis?_eq_some (hbase : base.isLeap = false) : base.plusMillis? m = some u ↔
    u.inRange = true ∧ u.isLeap = false ∧ u.line = base.line + m * millisecond := by
  -- Seconds and milliseconds are cut off towards zero, so they have one sign and add up.
  have hstep : m.tdiv 1000 * second + m.tmod 1000 * millisecond = m * millisecond := by
    have hsplit := Int.tmod_add_mul_tdiv m 1000
    simp only [second, millisecond]
    omega
  have hmove : base.plusMillis? m =
      (base.shift (m.tdiv 1000) (m.tmod 1000 * millisecond)).checked := by
    rw [plusMillis?, move, hbase]
    rfl
  rw [hmove, checked, Option.ite_none_right_eq_some, Option.some.injEq, ← hstep, ← line_shift]
  constructor
  · rintro ⟨hrange, rfl⟩
    exact ⟨hrange, isLeap_shift _ _ _, rfl⟩
  · rintro ⟨hrange, hleap, hline⟩
    obtain rfl : u = _ := eq_of_line_eq hleap (isLeap_shift _ _ _) hline
    exact ⟨hrange, rfl⟩

/-- Outside leap seconds the distance is cut down from that on the line. -/
theorem millisSince_eq (ht : t.isLeap = false) (hbase : base.isLeap = false) :
    t.millisSince base = (t.line - base.line).tdiv millisecond := by
  have hclock : t.clockDifference base = t.clock - base.clock := by simp [clockDifference, ht, hbase]
  have hseconds : (t.day - base.day) * secondsOfDay + (t.clock - base.clock) = t.seconds - base.seconds := by
    simp only [day, clock, secondsOfDay]
    omega
  have hline : (t.seconds - base.seconds) * second + (t.nanos - base.nanos) = t.line - base.line := by
    unfold line
    ring
  rw [millisSince, hclock, hseconds, hline]

/-- What is reached by whole milliseconds is that far away. -/
theorem millisSince_of_plusMillis? (hbase : base.isLeap = false) (h : base.plusMillis? m = some t) :
    t.millisSince base = m := by
  obtain ⟨-, hleap, hline⟩ := (plusMillis?_eq_some hbase).1 h
  rw [millisSince_eq hleap hbase, hline, add_sub_cancel_left]
  exact Int.mul_tdiv_cancel m (by decide)

/-- The days that are computed with span less than `2 ^ 48` seconds to either side. -/
theorem seconds_bounds (h : t.inRange = true) : -2 ^ 48 < t.seconds ∧ t.seconds < 2 ^ 48 := by
  have hfirst : -2 ^ 30 ≤ Date.firstDay := by decide
  have hlast : Date.lastDay ≤ 2 ^ 30 := by decide
  rw [inRange, Bool.and_eq_true, decide_eq_true_eq, decide_eq_true_eq] at h
  simp only [day, secondsOfDay] at h
  omega

/-- Between two dates in range there are fewer milliseconds than a word counts. -/
theorem abs_lt_of_plusMillis? (hrange : base.inRange = true) (hbase : base.isLeap = false)
    (h : base.plusMillis? m = some u) : |m| < TimeScale.millisLimit - 1 := by
  obtain ⟨hurange, hleap, hline⟩ := (plusMillis?_eq_some hbase).1 h
  have hseconds := seconds_bounds hrange
  have huseconds := seconds_bounds hurange
  have hnanos := nanos_lt hbase
  have hunanos := nanos_lt hleap
  simp only [line, second, millisecond, TimeScale.millisLimit] at *
  rw [abs_lt]
  omega

end Instant

/-! ### Numbers and dates -/

theorem Period.length_pos (p : Period) : (0 : ℚ) < p.length := by
  cases p <;> decide

namespace TimeScale

variable {s : TimeScale} {x : ℚ} {d : Instant} {k : ℤ}

theorem millis_rat (s : TimeScale) (x : ℚ) : s.millis x =
    Double.clamp (-millisLimit) (millisLimit - 1) (roundExact (x * s.period.length * 1000)) := rfl

theorem offset_rat (s : TimeScale) (d : Instant) :
    s.offset d = (d.millisSince s.base : ℚ) / 1000 / s.period.length := rfl

variable (hrange : s.base.inRange = true) (hleap : s.base.isLeap = false)

include hrange hleap

/-- Where there is a date, the milliseconds were only rounded. -/
theorem millis_of_date? (h : s.date? x = some d) :
    s.millis x = roundExact (x * s.period.length * 1000) := by
  have hsmall := abs_lt.1 (Instant.abs_lt_of_plusMillis? hrange hleap h)
  rw [millis_rat] at *
  exact Double.clamp_eq_self (by omega) (by omega)

/-- From a number to its date and back is half a millisecond at most. -/
theorem abs_offset_sub_le (h : s.date? x = some d) :
    |s.offset d - x| ≤ 1 / 2000 / s.period.length := by
  have hlength := Period.length_pos s.period
  have hround := abs_roundExact_sub_le (x * s.period.length * 1000)
  have hdiff : s.offset d - x =
      (roundExact (x * s.period.length * 1000) - x * s.period.length * 1000) / (1000 * s.period.length) := by
    rw [offset_rat, Instant.millisSince_of_plusMillis? hleap h, millis_of_date? hrange hleap h]
    field_simp
  have hpos : 0 < 1000 * (s.period.length : ℚ) := mul_pos (by norm_num) hlength
  rw [hdiff, abs_div, abs_of_pos hpos, div_le_iff₀ hpos]
  have hhalf : 1 / 2000 / (s.period.length : ℚ) * (1000 * s.period.length) = 1 / 2 := by field_simp; norm_num
  rwa [hhalf]

/-- A number of whole milliseconds is the number of its date. -/
theorem offset_of_whole (hx : x * s.period.length * 1000 = k) (h : s.date? x = some d) : s.offset d = x := by
  have hlength := Period.length_pos s.period
  have hmillis : d.millisSince s.base = k := by
    rw [Instant.millisSince_of_plusMillis? hleap h, millis_of_date? hrange hleap h, hx, roundExact_intCast]
  rw [offset_rat, hmillis, ← hx]
  field_simp

/-- A number of whole milliseconds has the date that is so far away, if it is in range. -/
theorem date?_of_whole (hx : x * s.period.length * 1000 = k) (h : s.base.plusMillis? k = some d) :
    s.date? x = some d := by
  have hsmall := abs_lt.1 (Instant.abs_lt_of_plusMillis? hrange hleap h)
  have hmillis : s.millis x = k := by
    rw [millis_rat, hx, roundExact_intCast, Double.clamp, if_neg (by omega), if_neg (by omega)]
  rw [date?, hmillis, h]

/-- The dates that come back from their numbers are those at whole milliseconds from the base. No leap second
is among them, since a base outside of one reaches none. -/
theorem date?_offset_iff : s.date? (s.offset d : ℚ) = some d ↔ ∃ k : ℤ, s.base.plusMillis? k = some d := by
  refine ⟨fun h => ⟨_, h⟩, fun ⟨k, h⟩ => ?_⟩
  have hlength := Period.length_pos s.period
  refine date?_of_whole hrange hleap (k := k) ?_ h
  rw [offset_rat, Instant.millisSince_of_plusMillis? hleap h]
  field_simp

end TimeScale

end Gridded
