/-!
# Numerals

Reading a number from text: an optional sign, digits with an optional decimal point, and an
optional exponent; or a name of infinity or of what is not a number, in any case of letters.

* `Numeral`: what a text says, before it is rounded to any number type;
* `Numeral.ofText?`: the numeral of a text;
* `Numeral.toFloat`: the nearest double.
-/

namespace Gridded

/-- A number as it is written. -/
inductive Numeral
  | nan
  | infinite (negative : Bool)
  /-- The number `± digits · 10 ^ exponent`. -/
  | decimal (negative : Bool) (digits : Nat) (exponent : Int)
  deriving DecidableEq, Repr

namespace Numeral

/-- The number written by a list of digits. -/
def ofDigits (digits : List Char) : Nat :=
  digits.foldl (fun n c => 10 * n + (c.toNat - '0'.toNat)) 0

/-- A list of characters as its leading digits and the rest. -/
def spanDigits (chars : List Char) : List Char × List Char :=
  (chars.takeWhile Char.isDigit, chars.dropWhile Char.isDigit)

/-- An optional sign and the rest: whether the sign is a minus. -/
def spanSign : List Char → Bool × List Char
  | '-' :: rest => (true, rest)
  | '+' :: rest => (false, rest)
  | chars => (false, chars)

/-- An exponent, which must be all that is left of a numeral. -/
def exponent? : List Char → Option Int
  | [] => some 0
  | mark :: rest =>
    if mark = 'e' ∨ mark = 'E' then
      let (negative, digits) := spanSign rest
      if digits.isEmpty || !digits.all Char.isDigit then none
      else some (if negative then -ofDigits digits else ofDigits digits)
    else none

/-- A numeral of digits, after its sign. At least one digit stands before or after the point. -/
def decimal? (negative : Bool) (chars : List Char) : Option Numeral :=
  let (whole, rest) := spanDigits chars
  let (fraction, rest) :=
    match rest with
    | '.' :: rest => spanDigits rest
    | rest => ([], rest)
  if whole.isEmpty && fraction.isEmpty then none
  else (exponent? rest).map fun power =>
    decimal negative (ofDigits (whole ++ fraction)) (power - fraction.length)

/-- The numeral that a text writes, if it writes one and nothing else. -/
def ofText? (text : String) : Option Numeral :=
  let (negative, chars) := spanSign text.toList
  match String.ofList (chars.map Char.toLower) with
  | "nan" => some nan
  | "inf" => some (infinite negative)
  | "infinity" => some (infinite negative)
  | _ => decimal? negative chars

/-- Positive infinity. -/
def floatInfinity : Float := 1 / 0

/-- The double nearest to `digits · 10 ^ exponent`. Numbers beyond `10 ^ 310` are infinite and those
below `10 ^ -330` are zero, whatever their exponent. -/
def magnitudeToFloat (digits : Nat) (exponent : Int) : Float :=
  let size : Int := (Nat.toDigits 10 digits).length + exponent
  if digits = 0 ∨ size < -330 then 0
  else if 310 < size then floatInfinity
  else OfScientific.ofScientific digits (exponent < 0) exponent.natAbs

/-- The double nearest to a numeral. -/
def toFloat : Numeral → Float
  | nan => 0 / 0
  | infinite negative => if negative then -floatInfinity else floatInfinity
  | decimal negative digits exponent =>
    let magnitude := magnitudeToFloat digits exponent
    if negative then -magnitude else magnitude

end Numeral

end Gridded
