/-!
# Civil dates

Dates of the Gregorian calendar, extended to all years, and their count of days.

* `Date`: a year, a month and a day, with `Date.isValid`;
* `Date.toDays`, `Date.ofDays`: the number of days since 1970-01-01, and back;
* `Date.firstDay`, `Date.lastDay`: the days between which dates are computed with.
-/

namespace Gridded

/-- A date. -/
structure Date where
  year : Int
  month : Nat
  day : Nat
  deriving DecidableEq, Repr

namespace Date

/-- Whether a year has 366 days. -/
def isLeap (year : Int) : Bool :=
  year % 4 == 0 && (year % 100 != 0 || year % 400 == 0)

/-- The number of days of a month. -/
def monthLength (year : Int) : Nat → Nat
  | 2 => if isLeap year then 29 else 28
  | 4 | 6 | 9 | 11 => 30
  | _ => 31

/-- Whether month and day exist. -/
def isValid (d : Date) : Bool :=
  1 ≤ d.month && d.month ≤ 12 && 1 ≤ d.day && d.day ≤ monthLength d.year d.month

/-- The number of days since 1970-01-01. Years are counted from March, in cycles of 400. -/
def toDays (d : Date) : Int :=
  let year := if d.month ≤ 2 then d.year - 1 else d.year
  let month : Int := ((d.month + 9) % 12 : Nat)
  let cycle := year / 400
  let ofCycle := year % 400
  let ofYear := (153 * month + 2) / 5 + d.day - 1
  cycle * 146097 + ofCycle * 365 + ofCycle / 4 - ofCycle / 100 + ofYear - 719468

/-- The date that many days after 1970-01-01. -/
def ofDays (days : Int) : Date :=
  let shifted := days + 719468
  let cycle := shifted / 146097
  let ofCycle := shifted % 146097
  let year := (ofCycle - ofCycle / 1460 + ofCycle / 36524 - ofCycle / 146096) / 365
  let ofYear := ofCycle - (365 * year + year / 4 - year / 100)
  let month := (5 * ofYear + 2) / 153
  let day := ofYear - (153 * month + 2) / 5 + 1
  let civil := if month < 10 then month + 3 else month - 9
  ⟨cycle * 400 + year + (if civil ≤ 2 then 1 else 0), civil.toNat, day.toNat⟩

/-- The first day that dates are computed with. -/
def firstDay : Int := toDays ⟨-262143, 1, 1⟩

/-- The last day that dates are computed with. -/
def lastDay : Int := toDays ⟨262142, 12, 31⟩

/-- A number with leading zeros up to a width. -/
def padded (width n : Nat) : String :=
  let digits := Nat.toDigits 10 n
  String.ofList (List.replicate (width - digits.length) '0' ++ digits)

/-- A year in four digits, with a sign outside 0 to 9999. -/
def yearText (year : Int) : String :=
  if 0 ≤ year ∧ year ≤ 9999 then padded 4 year.toNat
  else (if year < 0 then "-" else "+") ++ padded 4 year.natAbs

/-- The date as `year-month-day`. -/
def text (d : Date) : String :=
  yearText d.year ++ "-" ++ padded 2 d.month ++ "-" ++ padded 2 d.day

example : toDays ⟨1970, 1, 1⟩ = 0 ∧ toDays ⟨2000, 3, 1⟩ = 11017 := by decide

example : ofDays 11016 = ⟨2000, 2, 29⟩ ∧ ofDays (-719528) = ⟨0, 1, 1⟩ := by decide

end Date

end Gridded
