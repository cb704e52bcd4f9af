import Gridded.Decimal.Shortest

/-!
# Number text

How a double is written, once its digits are known.

* `NumberLayout`: when a number is written by position and when with an exponent;
* `NumberLayout.plain`, `NumberLayout.detailed`: the layouts of messages and of listings;
* `NumberLayout.write`: the text of a double.
-/

namespace Gridded

/-- The decisions that turn digits into text. A number is `0.d₁d₂… · 10 ^ point`. -/
structure NumberLayout where
  /-- The least and the largest `point` that is written by position, if there are limits. -/
  positional : Option (Int × Int)
  /-- Whether a whole number written by position ends in `.0`. -/
  pointZero : Bool
  deriving DecidableEq, Repr

namespace NumberLayout

/-- In messages every number is written by position, and a whole number without a point. -/
def plain : NumberLayout := ⟨none, false⟩

/-- In listings numbers from `0.0001` to below `10 ^ 16` are written by position with a point, and
others with an exponent. -/
def detailed : NumberLayout := ⟨some (-3, 16), true⟩

/-- Digits around a decimal point, of which `point` stand before it. -/
def position (layout : NumberLayout) (digits : List Char) (point : Int) : List Char :=
  if point ≤ 0 then
    ['0', '.'] ++ List.replicate (-point).toNat '0' ++ digits
  else
    let whole := point.toNat
    if whole < digits.length then digits.take whole ++ '.' :: digits.drop whole
    else
      digits ++ List.replicate (whole - digits.length) '0' ++
        (if layout.pointZero then ['.', '0'] else [])

/-- Digits with one before the decimal point, and an exponent. -/
def exponential (digits : List Char) (point : Int) : List Char :=
  let power := (toString (point - 1)).toList
  match digits with
  | [] => []
  | [d] => d :: 'e' :: power
  | d :: more => d :: '.' :: more ++ 'e' :: power

/-- The text of a positive decimal. -/
def magnitude (layout : NumberLayout) (d : Decimal) : List Char :=
  let digits := Nat.toDigits 10 d.digits
  let point := d.exponent + digits.length
  let positional :=
    match layout.positional with
    | none => true
    | some (least, most) => least ≤ point && point ≤ most
  if positional then layout.position digits point else exponential digits point

/-- The text of a value. -/
def writeValue (layout : NumberLayout) : Double → String
  | .nan => "NaN"
  | .infinite negative => if negative then "-inf" else "inf"
  | .finite negative mantissa exponent =>
    let unsigned :=
      if mantissa = 0 then if layout.pointZero then ['0', '.', '0'] else ['0']
      else layout.magnitude (Decimal.shortest mantissa exponent)
    String.ofList (if negative then '-' :: unsigned else unsigned)

/-- The text of a double. -/
def write (layout : NumberLayout) (x : Float) : String :=
  layout.writeValue (Double.ofFloat x)

end NumberLayout

end Gridded
