/-!
# White space

Texts are trimmed and split at the white space of Unicode, not only at that of ASCII.

* `Text.isBlank`: the white space characters;
* `Text.trim`, `Text.trimLeft`: a text without white space at its ends, or at its start;
* `Text.words`: the maximal runs of other characters.
-/

namespace Gridded.Text

/-- The white space code points, as inclusive ranges. -/
def blankTable : List (Nat × Nat) :=
  [(0x9, 0xd), (0x20, 0x20), (0x85, 0x85), (0xa0, 0xa0), (0x1680, 0x1680), (0x2000, 0x200a),
   (0x2028, 0x2029), (0x202f, 0x202f), (0x205f, 0x205f), (0x3000, 0x3000)]

/-- Whether a code point lies in one of the ranges of a table. -/
def inTable (table : List (Nat × Nat)) (code : Nat) : Bool :=
  table.any fun range => range.1 ≤ code && code ≤ range.2

/-- Whether a character is white space. -/
def isBlank (c : Char) : Bool :=
  inTable blankTable c.toNat

theorem isBlank_of_isWhitespace {c : Char} (h : c.isWhitespace) : isBlank c := by
  simp only [Char.isWhitespace, Bool.or_eq_true, decide_eq_true_eq] at h
  rcases h with ((rfl | rfl) | rfl) | rfl <;> decide

/-- The characters that follow leading white space. -/
def skipBlanks (chars : List Char) : List Char :=
  chars.dropWhile isBlank

/-- The text after leading white space. -/
def trimLeft (text : String) : String :=
  String.ofList (skipBlanks text.toList)

/-- The text without white space at either end. -/
def trim (text : String) : String :=
  String.ofList (skipBlanks (skipBlanks text.toList).reverse).reverse

/-- The words of `chars`, where `word` is the part already read of the word that they continue. -/
def wordsFrom (word : List Char) : List Char → List (List Char)
  | [] => if word.isEmpty then [] else [word]
  | c :: rest =>
    if isBlank c then
      if word.isEmpty then wordsFrom [] rest else word :: wordsFrom [] rest
    else wordsFrom (word ++ [c]) rest

/-- The maximal runs of characters that are not white space. -/
def words (text : String) : List String :=
  (wordsFrom [] text.toList).map String.ofList

end Gridded.Text
