import Gridded.Calendar.Date
import Mathlib.Data.Int.Basic
import Mathlib.Tactic.IntervalCases

/-!
# Days and dates

Years are counted from March, in cycles of 400, so that a leap day is the last day of its year. A year of a
cycle starts on the day `Date.yearStart`, and the division that `Date.ofDays` finds the year with is right
because it never decreases and is right on the first and the last day of every year.

* `Date.yearStart`, `Date.yearOfDay`: the first day of a year of the cycle, and the year of a day;
* `Date.yearStart_le`, `Date.lt_yearStart_succ`: a day lies in its year;
* `Date.toDays_ofDays`, `Date.isValid_ofDays`: the date of a day is a date, and that of this day.
-/

namespace Gridded.Date

/-- The days of a cycle of 400 years before a year of it. -/
def yearStart (year : Int) : Int := 365 * year + year / 4 - year / 100 + year / 400

/-- The year of a day of a cycle. -/
def yearOfDay (day : Int) : Int := (day - day / 1460 + day / 36524 - day / 146096) / 365

theorem yearOfDay_le_succ (day : Int) : yearOfDay day ≤ yearOfDay (day + 1) := by
  have hshare : day - day / 1460 + day / 36524 - day / 146096 ≤
      day + 1 - (day + 1) / 1460 + (day + 1) / 36524 - (day + 1) / 146096 := by omega
  exact Int.ediv_le_ediv (by decide) hshare

theorem yearOfDay_mono {day later : Int} (h : day ≤ later) : yearOfDay day ≤ yearOfDay later := by
  induction later, h using Int.leInduction with
  | base => exact le_rfl
  | succ later _ ih => exact ih.trans (yearOfDay_le_succ later)

/-- The first and the last day of a year of the cycle belong to it. -/
theorem yearOfDay_ends {year : Int} (h : 0 ≤ year) (h' : year < 400) :
    yearOfDay (yearStart year) = year ∧ yearOfDay (yearStart (year + 1) - 1) = year := by
  have hall : ∀ n < 400, yearOfDay (yearStart (n : Nat)) = n ∧
      yearOfDay (yearStart ((n : Nat) + 1) - 1) = n := by decide +kernel
  have hyear := hall year.toNat (by omega)
  rwa [Int.toNat_of_nonneg h] at hyear

section Cycle

variable {day : Int} (h : 0 ≤ day) (h' : day < 146097)

include h h'

theorem yearOfDay_bounds : 0 ≤ yearOfDay day ∧ yearOfDay day < 400 := by
  unfold yearOfDay
  omega

/-- A day is not before its year. -/
theorem yearStart_le : yearStart (yearOfDay day) ≤ day := by
  obtain ⟨hpos, hlt⟩ := yearOfDay_bounds h h'
  by_contra hbefore
  -- Otherwise it would belong to the year before, or to none.
  have hle : day ≤ yearStart (yearOfDay day) - 1 := by omega
  have hmono := yearOfDay_mono hle
  rcases hpos.eq_or_lt with hzero | hpos
  · rw [← hzero] at hbefore
    exact hbefore h
  · have hends := (yearOfDay_ends (by omega : 0 ≤ yearOfDay day - 1) (by omega)).2
    rw [sub_add_cancel] at hends
    omega

/-- A day is before the next year. -/
theorem lt_yearStart_succ : day < yearStart (yearOfDay day + 1) := by
  obtain ⟨hpos, hlt⟩ := yearOfDay_bounds h h'
  by_contra hafter
  have hmono := yearOfDay_mono (not_lt.1 hafter)
  rcases (Int.add_one_le_iff.2 hlt).eq_or_lt with hlast | hlt
  · rw [hlast] at hafter
    exact hafter h'
  · have hends := (yearOfDay_ends (by omega : 0 ≤ yearOfDay day + 1) hlt).1
    omega

end Cycle

/-! ### Dates -/

/-- A year from March has a day more if the calendar year that follows is a leap year. -/
theorem yearStart_succ (year : Int) :
    yearStart (year + 1) = yearStart year + if isLeap (year + 1) then 366 else 365 := by
  have h₄ : (year + 1) / 4 = year / 4 + if (year + 1) % 4 = 0 then 1 else 0 := by split_ifs <;> omega
  have h₁₀₀ : (year + 1) / 100 = year / 100 + if (year + 1) % 100 = 0 then 1 else 0 := by
    split_ifs <;> omega
  have h₄₀₀ : (year + 1) / 400 = year / 400 + if (year + 1) % 400 = 0 then 1 else 0 := by
    split_ifs <;> omega
  have hleap : isLeap (year + 1) = true ↔
      (year + 1) % 4 = 0 ∧ ((year + 1) % 100 ≠ 0 ∨ (year + 1) % 400 = 0) := by simp [isLeap]
  have hof100 : (year + 1) % 100 = 0 → (year + 1) % 4 = 0 := by omega
  have hof400 : (year + 1) % 400 = 0 → (year + 1) % 100 = 0 := by omega
  simp only [yearStart, h₄, h₁₀₀, h₄₀₀, hleap]
  split_ifs <;> omega

theorem isLeap_add_cycle (cycle year : Int) : isLeap (cycle * 400 + year) = isLeap year := by
  have h₄ : (cycle * 400 + year) % 4 = year % 4 := by omega
  have h₁₀₀ : (cycle * 400 + year) % 100 = year % 100 := by omega
  have h₄₀₀ : (cycle * 400 + year) % 400 = year % 400 := by omega
  rw [isLeap, isLeap, h₄, h₁₀₀, h₄₀₀]

/-- The date of a day of a year from March. -/
def ofMarch (year ofYear : Int) : Date :=
  let month := (5 * ofYear + 2) / 153
  let day := ofYear - (153 * month + 2) / 5 + 1
  let civil := if month < 10 then month + 3 else month - 9
  ⟨year + (if civil ≤ 2 then 1 else 0), civil.toNat, day.toNat⟩

/-- Each day is a day of a year from March, and of one with a leap day if it is the 366th. -/
theorem exists_ofMarch (days : Int) :
    ∃ year ofYear : Int, 0 ≤ ofYear ∧ ofYear ≤ 365 ∧ (ofYear = 365 → isLeap (year + 1) = true) ∧
      days = year / 400 * 146097 + yearStart (year % 400) + ofYear - 719468 ∧
      ofDays days = ofMarch year ofYear := by
  have hpos : 0 ≤ (days + 719468) % 146097 := by omega
  have hlt : (days + 719468) % 146097 < 146097 := by omega
  have hdays : days = (days + 719468) / 146097 * 146097 + (days + 719468) % 146097 - 719468 := by omega
  have hofDays : ofDays days = ofMarch
      ((days + 719468) / 146097 * 400 + yearOfDay ((days + 719468) % 146097))
      ((days + 719468) % 146097 - (365 * yearOfDay ((days + 719468) % 146097) +
        yearOfDay ((days + 719468) % 146097) / 4 - yearOfDay ((days + 719468) % 146097) / 100)) := rfl
  generalize (days + 719468) % 146097 = day at hpos hlt hdays hofDays
  generalize (days + 719468) / 146097 = cycle at hdays hofDays
  obtain ⟨hyear, hyear'⟩ := yearOfDay_bounds hpos hlt
  have hle := yearStart_le hpos hlt
  have hnext := lt_yearStart_succ hpos hlt
  rw [yearStart_succ, ← isLeap_add_cycle cycle, ← add_assoc] at hnext
  generalize yearOfDay day = year at hyear hyear' hle hnext hofDays
  -- Within a cycle the years divisible by 400 do not count.
  have hstart : 365 * year + year / 4 - year / 100 = yearStart year := by
    unfold yearStart
    omega
  rw [hstart] at hofDays
  have hmod : (cycle * 400 + year) % 400 = year := by omega
  have hdiv : (cycle * 400 + year) / 400 = cycle := by omega
  refine ⟨cycle * 400 + year, day - yearStart year, by omega, ?_, fun hlast => ?_, ?_, hofDays⟩
  · split_ifs at hnext <;> omega
  · by_contra hleap
    rw [if_neg hleap] at hnext
    omega
  · rw [hmod, hdiv]
    omega

section Months

variable {ofYear : Int} (h : 0 ≤ ofYear) (h' : ofYear ≤ 365)

include h h'

/-- Months are counted from March, and have up to 31 days. -/
theorem month_bounds : 0 ≤ (5 * ofYear + 2) / 153 ∧ (5 * ofYear + 2) / 153 ≤ 11 ∧
    0 ≤ ofYear - (153 * ((5 * ofYear + 2) / 153) + 2) / 5 := by omega

theorem toDays_ofMarch (year : Int) :
    (ofMarch year ofYear).toDays = year / 400 * 146097 + yearStart (year % 400) + ofYear - 719468 := by
  obtain ⟨hpos, hle, hday⟩ := month_bounds h h'
  have hstart : yearStart (year % 400) = year % 400 * 365 + year % 400 / 4 - year % 400 / 100 := by
    unfold yearStart
    omega
  rw [hstart]
  unfold ofMarch
  generalize (5 * ofYear + 2) / 153 = month at hpos hle hday
  have hdate : ((ofYear - (153 * month + 2) / 5 + 1).toNat : Int) = ofYear - (153 * month + 2) / 5 + 1 := by
    omega
  -- January and February belong to the year before.
  rcases lt_or_ge month 10 with hlate | hearly
  · have hcivil : (((month + 3).toNat + 9) % 12 : Nat) = month := by omega
    have hnot : ¬ month + 3 ≤ 2 := by omega
    have hnot' : ¬ (month + 3).toNat ≤ 2 := by omega
    simp only [toDays, if_pos hlate, if_neg hnot, if_neg hnot', hcivil, hdate, add_zero]
    omega
  · have hcivil : (((month - 9).toNat + 9) % 12 : Nat) = month := by omega
    have hyes : month - 9 ≤ 2 := by omega
    have hyes' : (month - 9).toNat ≤ 2 := by omega
    simp only [toDays, if_neg (not_lt.2 hearly), if_pos hyes, if_pos hyes', hcivil, hdate,
      add_sub_cancel_right]
    omega

theorem isValid_ofMarch {year : Int} (hleap : ofYear = 365 → isLeap (year + 1) = true) :
    (ofMarch year ofYear).isValid = true := by
  obtain ⟨hpos, hle, -⟩ := month_bounds h h'
  generalize hmonth : (5 * ofYear + 2) / 153 = month at hpos hle
  have hfebruary : month = 11 → ofYear - 337 + 1 ≤ if isLeap (year + 1) then 29 else 28 := by
    rintro rfl
    split_ifs with hyear
    · omega
    · have hlast : ofYear ≠ 365 := fun hlast => hyear (hleap hlast)
      omega
  simp only [isValid, ofMarch, hmonth, Bool.and_eq_true, decide_eq_true_eq]
  interval_cases month <;> simp [monthLength] at hfebruary ⊢ <;> omega

end Months

theorem toDays_ofDays (days : Int) : (ofDays days).toDays = days := by
  obtain ⟨year, ofYear, hpos, hle, -, hdays, hdate⟩ := exists_ofMarch days
  rw [hdate, toDays_ofMarch hpos hle, ← hdays]

theorem isValid_ofDays (days : Int) : (ofDays days).isValid = true := by
  obtain ⟨year, ofYear, hpos, hle, hleap, -, hdate⟩ := exists_ofMarch days
  rw [hdate]
  exact isValid_ofMarch hpos hle hleap

end Gridded.Date
