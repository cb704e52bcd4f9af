import Gridded.Decimal.Numeral
import Gridded.Text.Blank

/-!
# Readers of text

* `Reader`: a reader of the start of a list of characters;
* `Reader.char`, `Reader.oneOf`, `Reader.blanks`, `Reader.number`: the readers of the smallest parts;
* `Reader.all?`: what a reader makes of a whole text.
-/

namespace Gridded

/-- A reader of the start of a list of characters. -/
abbrev Reader := StateT (List Char) Option

namespace Reader

/-- Read one given character. -/
def char (c : Char) : Reader Unit
  | d :: rest => if d = c then some ((), rest) else none
  | [] => none

/-- Read one of the given characters. -/
def oneOf (choices : List Char) : Reader Unit
  | d :: rest => if d ∈ choices then some ((), rest) else none
  | [] => none

/-- Skip white space. -/
def blanks : Reader Unit :=
  fun chars => some ((), Text.skipBlanks chars)

/-- Skip the blanks of plain text: spaces, tabs and ends of lines. -/
def gap : Reader Unit :=
  fun chars => some ((), chars.dropWhile (· ∈ [' ', '\t', '\n', '\r']))

/-- Read digits: as many as there are up to `most`, and at least `least`. -/
def digits (least most : Nat) : Reader (List Char) :=
  fun chars =>
    let found := (chars.take most).takeWhile Char.isDigit
    if found.length < least then none else some (found, chars.drop found.length)

/-- Read a number of up to `most` digits. -/
def number (least most : Nat) : Reader Nat :=
  return Numeral.ofDigits (← digits least most)

/-- Read a number of any length. -/
def longNumber : Reader Nat :=
  fun chars => number 1 chars.length chars

/-- The value that a reader finds if it reads all of a text. -/
def all? {β : Type} (reader : Reader β) (chars : List Char) : Option β :=
  match reader chars with
  | some (value, []) => some value
  | _ => none

end Reader

end Gridded
