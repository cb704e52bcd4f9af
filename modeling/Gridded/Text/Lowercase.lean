import Gridded.Text.Blank
import Gridded.Text.CaseTable

/-!
# Lower case

* `Text.lowercase`: the full Unicode lower-case mapping of a text, used for names that are matched
  whatever their case;
* `Text.eqIgnoringCase`: equality of texts up to the case of ASCII letters only.
-/

namespace Gridded.Text

/-- The lower case of one character, apart from the surroundings of a sigma. -/
def lowerChar (c : Char) : List Char :=
  if c = 'İ' then ['i', '\u0307']
  else match caseRuns.find? (·.covers c.toNat) with
    | some run => [Char.ofNat (c.toNat + run.shift).toNat]
    | none => [c]

/-- Whether the first character that is not ignorable is a letter with a case. -/
def startsCased (chars : List Char) : Bool :=
  match chars.dropWhile fun c => inTable ignorableTable c.toNat with
  | [] => false
  | c :: _ => inTable casedTable c.toNat

/-- Lower the characters of a text, of which `before` lists those already read, last first. A
capital sigma that ends a word becomes a final sigma. -/
def lowerFrom (before : List Char) : List Char → List Char
  | [] => []
  | c :: rest =>
    (if c = 'Σ' then
      if startsCased before && !startsCased rest then ['ς'] else ['σ']
    else lowerChar c) ++ lowerFrom (c :: before) rest

/-- The text in lower case. -/
def lowercase (text : String) : String :=
  String.ofList (lowerFrom [] text.toList)

/-- Equality up to the case of ASCII letters. -/
def eqIgnoringCase (a b : String) : Bool :=
  a.toList.map Char.toLower == b.toList.map Char.toLower

theorem eqIgnoringCase_iff {a b : String} :
    eqIgnoringCase a b ↔ a.toList.map Char.toLower = b.toList.map Char.toLower := by
  simp [eqIgnoringCase]

@[simp] theorem eqIgnoringCase_refl (a : String) : eqIgnoringCase a a := by
  simp [eqIgnoringCase]

/-- The name by which texts that differ in case or in white space at their ends are one. -/
def foldedName (text : String) : String :=
  lowercase (trim text)

end Gridded.Text
