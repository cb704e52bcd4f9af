import Gridded.Calendar.Date

/-!
# Instants

Points of universal time, to the nanosecond. A leap second is a second that lasts twice as long:
its second half has more than `10 ^ 9` nanoseconds.

* `Instant`: seconds since 1970 and nanoseconds;
* `Instant.plusMillis?`, `Instant.millisSince`: moving by milliseconds, and the distance in them;
* `Instant.isoText`, `Instant.zuluText`, `Instant.secondsText`: the written forms.
-/

namespace Gridded

/-- A point of universal time. -/
structure Instant where
  /-- Seconds since the start of 1970, without leap seconds. -/
  seconds : Int
  /-- Nanoseconds of the second, below `2 · 10 ^ 9`. -/
  nanos : Nat
  deriving DecidableEq, Repr

namespace Instant

/-- The nanoseconds of a second. -/
def second : Nat := 1000000000

/-- The nanoseconds of a millisecond. -/
def millisecond : Nat := 1000000

/-- The nanoseconds of a microsecond. -/
def microsecond : Nat := 1000

/-- The seconds of a day. -/
def secondsOfDay : Int := 86400

/-- The day, counted from 1970-01-01. -/
def day (t : Instant) : Int := t.seconds / secondsOfDay

/-- The second of the day. -/
def clock (t : Instant) : Int := t.seconds % secondsOfDay

/-- Whether the instant is in the second half of a leap second. -/
def isLeap (t : Instant) : Bool := second ≤ t.nanos

/-- Whether dates are computed with on that day. -/
def inRange (t : Instant) : Bool :=
  Date.firstDay ≤ t.day && t.day ≤ Date.lastDay

/-- The instant itself, if it is in range. -/
def checked (t : Instant) : Option Instant :=
  if t.inRange then some t else none

/-- Move by seconds and nanoseconds of one sign, from an instant outside leap seconds. -/
def shift (seconds nanos : Int) (t : Instant) : Instant :=
  let total := t.nanos + nanos
  ⟨t.seconds + seconds + total / second, (total % second).toNat⟩

/-- Move by seconds and nanoseconds of one sign. A move that leaves a leap second starts from the end
of it that lies in the direction of the move; a shorter one stays within. -/
def move (seconds nanos : Int) (t : Instant) : Instant :=
  if t.isLeap then
    if 0 < seconds ∨ (0 < nanos ∧ 2 * second ≤ t.nanos + nanos) then
      shift seconds nanos ⟨t.seconds, t.nanos - second⟩
    else if seconds < 0 then shift seconds nanos ⟨t.seconds + 1, t.nanos - second⟩
    else ⟨t.seconds, (t.nanos + nanos).toNat⟩
  else shift seconds nanos t

/-- The instant that many milliseconds later, if it is in range. -/
def plusMillis? (t : Instant) (millis : Int) : Option Instant :=
  (t.move (millis.tdiv 1000) (millis.tmod 1000 * millisecond)).checked

/-- The seconds between the times of day, a leap second between them included. -/
def clockDifference (t base : Instant) : Int :=
  let difference := t.clock - base.clock
  if base.clock < t.clock ∧ base.isLeap then difference + 1
  else if t.clock < base.clock ∧ t.isLeap then difference - 1
  else difference

/-- The whole milliseconds from `base` to `t`. -/
def millisSince (t base : Instant) : Int :=
  let seconds := (t.day - base.day) * secondsOfDay + t.clockDifference base
  (seconds * second + (t.nanos - base.nanos)).tdiv millisecond

/-! ### Written forms -/

/-- The time of day as `hour:minute:second`. A leap second is second 60. -/
def clockText (t : Instant) : String :=
  let clock := t.clock.toNat
  Date.padded 2 (clock / 3600) ++ ":" ++ Date.padded 2 (clock / 60 % 60) ++ ":" ++
    Date.padded 2 (clock % 60 + t.nanos / second)

/-- The fraction of a second, in as many groups of three digits as it takes. -/
def fractionText (t : Instant) : String :=
  let nanos := t.nanos % second
  if nanos = 0 then ""
  else if nanos % millisecond = 0 then "." ++ Date.padded 3 (nanos / millisecond)
  else if nanos % microsecond = 0 then "." ++ Date.padded 6 (nanos / microsecond)
  else "." ++ Date.padded 9 nanos

/-- The date and the time of day, without fraction and zone. -/
def localText (t : Instant) : String :=
  (Date.ofDays t.day).text ++ "T" ++ t.clockText

/-- The full form, with the zone as an offset. -/
def isoText (t : Instant) : String :=
  t.localText ++ t.fractionText ++ "+00:00"

/-- The full form, with the zone as a letter. -/
def zuluText (t : Instant) : String :=
  t.localText ++ t.fractionText ++ "Z"

/-- The form to whole seconds, with the zone as a letter. -/
def secondsText (t : Instant) : String :=
  t.localText ++ "Z"

end Instant

end Gridded
