import Gridded.Calendar.Instant
import Gridded.Error
import Gridded.Text.Reader

/-!
# Reading instants

* `Instant.ofZoned?`: the strict form with a zone, `2024-01-15T12:00:00.5+01:00`;
* `Instant.ofZonedLoosely?`: the same with white space between its parts and signed years;
* `Instant.ofLocal?`: a date with an optional time of day, in universal time;
* `Instant.ofText`: the first of these forms that a text has.
-/

namespace Gridded

/-- What a written time says. -/
structure TimeFields where
  date : Date
  hour : Nat := 0
  minute : Nat := 0
  second : Nat := 0
  nanos : Nat := 0
  deriving DecidableEq, Repr

namespace TimeFields

/-- Whether there is such a date and such a time of day, second 60 included. -/
def isValid (f : TimeFields) : Bool :=
  f.date.isValid && f.hour < 24 && f.minute < 60 && f.second ≤ 60

/-- The instant of fields read in a zone that is `offset` seconds ahead of universal time. -/
def toInstant? (f : TimeFields) (offset : Int) : Option Instant := do
  guard f.isValid
  let clock := f.hour * 3600 + f.minute * 60 + min f.second 59
  let wall ← Instant.checked
    ⟨f.date.toDays * Instant.secondsOfDay + clock,
      f.nanos + if f.second = 60 then Instant.second else 0⟩
  Instant.checked { wall with seconds := wall.seconds - offset }

end TimeFields

namespace Reader

/-- Read a fraction of a second, of which nine digits count. -/
def fraction : Reader Nat := do
  let found ← digits 1 9
  (fun chars => some ((), chars.dropWhile Char.isDigit) : Reader Unit)
  return Numeral.ofDigits found * Nat.pow 10 (9 - found.length)

/-- Read a fraction after a point, if there is a point. -/
def fraction? : Reader Nat
  | '.' :: rest => fraction rest
  | chars => some (0, chars)

/-- Read a zone as an offset in seconds, with a separator between its hours and its minutes. -/
def offset (separator : Reader Unit) : Reader Int
  | [] => none
  | mark :: rest =>
    if mark = 'Z' ∨ mark = 'z' then some (0, rest)
    else if mark = '+' ∨ mark = '-' ∨ mark = '−' then
      (do
        let hours ← number 2 2
        separator
        let minutes ← number 2 2
        guard (hours < 24 ∧ minutes < 60)
        let magnitude : Int := (hours * 60 + minutes) * 60
        return if mark = '+' then magnitude else -magnitude : Reader Int) rest
    else none

/-- Read the strict form with a zone: two digits for each field, and four for the year. -/
def zoned : Reader (TimeFields × Int) := do
  let year ← number 4 4
  char '-'
  let month ← number 2 2
  char '-'
  let day ← number 2 2
  oneOf ['T', 't', ' ']
  let hour ← number 2 2
  char ':'
  let minute ← number 2 2
  char ':'
  let second ← number 2 2
  let nanos ← fraction?
  let zone ← offset (char ':')
  return (⟨⟨year, month, day⟩, hour, minute, second, nanos⟩, zone)

/-- Read a year: up to four digits, or any number of them after a sign. -/
def year : Reader Int
  | '-' :: rest => (return -(← longNumber) : Reader Int) rest
  | '+' :: rest => (return ← longNumber : Reader Int) rest
  | chars => (return ← number 1 4 : Reader Int) chars

/-- Read a field of one or two digits after white space. -/
def field : Reader Nat := do
  blanks
  number 1 2

/-- Read a date, with white space before its numbers and, if `spaced`, after them. -/
def date (spaced : Bool) : Reader Date := do
  let gap : Reader Unit := if spaced then blanks else pure ()
  blanks
  let y ← year
  gap
  char '-'
  let m ← field
  gap
  char '-'
  return ⟨y, m, ← field⟩

/-- Skip colons and white space. -/
def colonOrBlanks : Reader Unit :=
  fun chars => some ((), chars.dropWhile fun c => c = ':' || Text.isBlank c)

/-- Read a zone, which may be the name of universal time. -/
def namedZone : Reader Int :=
  fun chars =>
    if (chars.take 3).map Char.toUpper = ['U', 'T', 'C'] then some (0, chars.drop 3)
    else offset colonOrBlanks chars

/-- Read the loose form with a zone. -/
def zonedLoosely : Reader (TimeFields × Int) := do
  let d ← date true
  oneOf ['T', 't', ' ']
  let hour ← field
  blanks
  char ':'
  let minute ← field
  blanks
  char ':'
  let second ← field
  let nanos ← fraction?
  blanks
  let zone ← namedZone
  blanks
  return (⟨d, hour, minute, second, nanos⟩, zone)

/-- Read a date and a time of day, with or without seconds, separated as told. -/
def dateTime (separator : Reader Unit) (withSeconds : Bool) : Reader TimeFields := do
  let d ← date false
  separator
  let hour ← field
  char ':'
  let minute ← field
  if withSeconds then
    char ':'
    return ⟨d, hour, minute, ← field, 0⟩
  else
    return ⟨d, hour, minute, 0, 0⟩

end Reader

namespace Instant

/-- The instant of a text in the strict form with a zone. -/
def ofZoned? (text : String) : Option Instant := do
  let (fields, zone) ← Reader.zoned.all? text.toList
  fields.toInstant? zone

/-- The instant of a text in the loose form with a zone. -/
def ofZonedLoosely? (text : String) : Option Instant := do
  let (fields, zone) ← Reader.zonedLoosely.all? text.toList
  fields.toInstant? zone

/-- The instant of characters in a form without a zone. -/
def ofLocal? (reader : Reader TimeFields) (chars : List Char) : Option Instant := do
  let fields ← reader.all? chars
  fields.toInstant? 0

/-- The forms without a zone that have a time of day, in the order in which they are tried. -/
def localForms : List (Reader TimeFields) :=
  [.dateTime (.char 'T') true, .dateTime .blanks true,
    .dateTime (.char 'T') false, .dateTime .blanks false]

/-- The characters without the letters `Z` at their end. -/
def dropZulu (chars : List Char) : List Char :=
  (chars.reverse.dropWhile (· = 'Z')).reverse

/-- The instant of a text in any of the forms. Without a zone the text is in universal time, which
any number of letters `Z` may say again after a time of day. -/
def ofText? (text : String) : Option Instant :=
  (ofZoned? text).or <|
    (localForms.findSome? fun form => ofLocal? form (dropZulu text.toList)).or <|
      ofLocal? (return { date := ← Reader.date false }) text.toList

/-- The instant of a text, or the text as an error. -/
def ofText (text : String) : Except Error Instant :=
  match ofText? text with
  | some t => .ok t
  | none => .error (.invalidTime (.stated text))

end Instant

end Gridded
