import Gridded.Calendar.Reader
import Gridded.Document
import Gridded.Scalar
import Gridded.Text.Lowercase

/-!
# Time scales

A time axis stores numbers that count a period of time since a base: `hours since 2024-01-15`.

* `Period`: what is counted;
* `TimeScale`: the period and the base;
* `TimeScale.ofText`: reading a scale from text;
* `TimeScale.date?`, `TimeScale.offset`: the date of a number and the number of a date.
-/

namespace Gridded

/-- A period of time. -/
inductive Period
  | seconds | minutes | hours | days
  deriving DecidableEq, Repr

namespace Period

/-- The names of a period, in lower case. -/
def names : Period → List String
  | seconds => ["s", "sec", "secs", "second", "seconds"]
  | minutes => ["min", "mins", "minute", "minutes"]
  | hours => ["h", "hr", "hrs", "hour", "hours"]
  | days => ["d", "day", "days"]

/-- The period that a text names, up to case and white space around it. -/
def ofText? (text : String) : Option Period :=
  [seconds, minutes, hours, days].find? fun period => period.names.contains (Text.foldedName text)

/-- The length of a period in seconds. -/
def length {α : Type} [Scalar α] : Period → α
  | seconds => 1
  | minutes => 60
  | hours => 3600
  | days => 86400

/-- The name of a period. -/
def text : Period → String
  | seconds => "seconds"
  | minutes => "minutes"
  | hours => "hours"
  | days => "days"

/-- The name of a period in the exchange form. -/
def title : Period → String
  | seconds => "Seconds"
  | minutes => "Minutes"
  | hours => "Hours"
  | days => "Days"

end Period

/-- Periods counted from a base. -/
structure TimeScale where
  period : Period
  base : Instant
  deriving DecidableEq, Repr

namespace TimeScale

/-- The characters around the first place where `mark` occurs. -/
def splitAround (mark : List Char) : List Char → Option (List Char × List Char)
  | [] => if mark.isEmpty then some ([], []) else none
  | c :: rest =>
    if mark.isPrefixOf (c :: rest) then some ([], (c :: rest).drop mark.length)
    else (splitAround mark rest).map fun parts => (c :: parts.1, parts.2)

/-- The word between the period and the base. -/
def sinceMark : List Char := " since ".toList

/-- Read a scale. -/
def ofText (text : String) : Except Error TimeScale :=
  match splitAround sinceMark text.toList with
  | none => .error (.invalidTime (.notDateUnit text))
  | some (period, base) =>
    match Period.ofText? (String.ofList period) with
    | none => .error (.invalidTime (.unknownPeriod text))
    | some period => do
      return ⟨period, ← Instant.ofText (Text.trim (String.ofList base))⟩

/-- The written form of a scale. -/
def text (s : TimeScale) : String :=
  s.period.text ++ " since " ++ s.base.secondsText

/-- Milliseconds are counted in words of 64 bits with a sign. -/
def millisLimit : Int := 0x8000000000000000

variable {α : Type} [Scalar α]

/-- The whole milliseconds nearest to a number on the scale. -/
def millis (s : TimeScale) (x : α) : Int :=
  Scalar.round (-millisLimit) (millisLimit - 1) (x * s.period.length * 1000)

/-- The date of a number on the scale, if it is in range. -/
def date? (s : TimeScale) (x : α) : Option Instant :=
  s.base.plusMillis? (s.millis x)

/-- The number of a date on the scale. -/
def offset (s : TimeScale) (date : Instant) : α :=
  Scalar.ofInt (date.millisSince s.base) / 1000 / s.period.length

/-- The exchange form. -/
def toDocument (s : TimeScale) : Document :=
  .table [("period", .text s.period.title), ("base", .text s.base.zuluText)]

end TimeScale

end Gridded
