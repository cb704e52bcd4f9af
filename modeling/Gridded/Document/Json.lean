import Gridded.Document
import Gridded.Text.Reader

/-!
# Documents as JSON text

* `Document.ofJson?`: the document that a JSON text says.

A number without a point and an exponent is whole, except for minus zero. Of several fields of one
name the last one counts.
-/

namespace Gridded.Json

/-! ### Texts -/

/-- The value of a hexadecimal digit. -/
def hexDigit : Reader Nat
  | c :: rest =>
    if c.isDigit then some (c.toNat - '0'.toNat, rest)
    else if 'a' ≤ c.toLower ∧ c.toLower ≤ 'f' then some (c.toLower.toNat - 'a'.toNat + 10, rest)
    else none
  | [] => none

/-- A unit of 16 bits, in four digits. -/
def unit : Reader Nat := do
  let a ← hexDigit
  let b ← hexDigit
  let c ← hexDigit
  return ((a * 16 + b) * 16 + c) * 16 + (← hexDigit)

/-- A character in one unit, or in a pair of units of which the first is a high surrogate. -/
def character : Reader Char := do
  let high ← unit
  if 0xD800 ≤ high ∧ high < 0xDC00 then
    Reader.char '\\'
    Reader.char 'u'
    let low ← unit
    guard (0xDC00 ≤ low ∧ low < 0xE000)
    return Char.ofNat (0x10000 + (high - 0xD800) * 0x400 + (low - 0xDC00))
  else
    guard (high < 0xDC00 ∨ 0xE000 ≤ high)
    return Char.ofNat high

/-- A character after a backslash. -/
def escaped : Reader Char
  | 'n' :: rest => some ('\n', rest)
  | 't' :: rest => some ('\t', rest)
  | 'r' :: rest => some ('\r', rest)
  | 'b' :: rest => some ('\x08', rest)
  | 'f' :: rest => some ('\x0c', rest)
  | 'u' :: rest => character rest
  | c :: rest => if c ∈ ['"', '\\', '/'] then some (c, rest) else none
  | [] => none

/-- The characters of a text up to its closing quote. -/
def characters : (fuel : Nat) → Reader (List Char)
  | 0, _ => none
  | _ + 1, [] => none
  | _ + 1, '"' :: rest => some ([], rest)
  | fuel + 1, '\\' :: rest =>
    (do
      let c ← escaped
      return c :: (← characters fuel) : Reader (List Char)) rest
  | fuel + 1, c :: rest => (characters fuel rest).map fun read => (c :: read.1, read.2)

/-! ### Numbers -/

/-- The characters that numbers are made of. -/
def numeric : List Char := "0123456789+-.eE".toList

/-- The number of a run of characters. -/
def numberOf? (chars : List Char) : Option Document :=
  let text := String.ofList chars
  if text = "-0" then some (.real (-0.0))
  else
    match text.toInt? with
    | some n => some (.whole n)
    | none => (Numeral.ofText? text).map fun n => .real n.toFloat

/-- A number, as far as its characters reach. -/
def number : Reader Document :=
  fun chars =>
    let found := chars.takeWhile (· ∈ numeric)
    (numberOf? found).map fun n => (n, chars.drop found.length)

/-! ### Values -/

/-- The rest of a word. -/
def word (letters : List Char) (value : Document) : Reader Document := do
  letters.forM Reader.char
  return value

/-- Items between commas, up to a closing bracket. -/
def items {β : Type} (close : Char) (item : Reader β) : (fuel : Nat) → Reader (List β)
  | 0 => failure
  | fuel + 1 => do
    let x ← item
    Reader.gap
    (Reader.char close *> pure [x]) <|>
      (Reader.char ',' *> (x :: ·) <$> items close item fuel)

/-- Items after an opening bracket; there may be none. -/
def group {β : Type} (close : Char) (item : Reader β) (fuel : Nat) : Reader (List β) := do
  Reader.gap
  (Reader.char close *> pure []) <|> items close item fuel

/-- A field of a table: its name in quotes, a colon and a value. -/
def field (value : Reader Document) (fuel : Nat) : Reader (String × Document) := do
  Reader.gap
  Reader.char '"'
  let name ← characters fuel
  Reader.gap
  Reader.char ':'
  return (String.ofList name, ← value)

/-- Fields without those that a later field of the same name replaces. -/
def lastOfEach (fields : List (String × Document)) : List (String × Document) :=
  fields.foldr (fun field rest => if (rest.lookup field.1).isSome then rest else field :: rest) []

/-- A value. -/
def value : (fuel : Nat) → Reader Document
  | 0 => failure
  | fuel + 1 => do
    Reader.gap
    fun
      | '"' :: rest => (return .text (String.ofList (← characters fuel)) : Reader Document) rest
      | '[' :: rest => (return .list (← group ']' (value fuel) fuel) : Reader Document) rest
      | '\x7b' :: rest =>
        (return .table (lastOfEach (← group '\x7d' (field (value fuel) fuel) fuel)) :
          Reader Document) rest
      | 'n' :: rest => word "ull".toList .null rest
      | 't' :: rest => word "rue".toList (.truth true) rest
      | 'f' :: rest => word "alse".toList (.truth false) rest
      | chars => number chars

end Gridded.Json

namespace Gridded

/-- The document that a JSON text says. Every value takes at least one character, so that their number
bounds the depth. -/
def Document.ofJson? (text : String) : Option Document :=
  let reader := do
    let d ← Json.value (text.length + 1)
    Reader.gap
    return d
  reader.all? text.toList

end Gridded
