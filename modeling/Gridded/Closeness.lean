import Gridded.Scalar
import Gridded.Text.Listing

/-!
# Closeness

Comparing numbers up to a tolerance, with a report of the first difference.

* `Closeness.ofNumbers`: two numbers;
* `Closeness.ofLists`: lists of equal length, number by number;
* `Closeness.ofPairs`: two pairs of numbers.
-/

namespace Gridded

/-- The outcome of a comparison. -/
inductive Closeness
  | close
  | different (report : String)
  | unequalLengths
  deriving DecidableEq, Repr

namespace Closeness

variable {α : Type} [Scalar α]

/-- Whether the distance of two numbers is no more than the tolerance. What is not a number is close to
nothing. -/
def isClose (tolerance left right : α) : Bool :=
  Scalar.abs (left - right) ≤ tolerance

/-- The first line of a report. -/
def headline : String := "assertion failed: " ++ "`(left ≈ right)`"

/-- Compare two numbers. -/
def ofNumbers (tolerance left right : α) : Closeness :=
  if isClose tolerance left right then close
  else different <|
    headline ++ "\n  left: `" ++ Scalar.detailed left ++ "`,\n right: `" ++ Scalar.detailed right ++
      "`,\n  diff: `" ++ Scalar.detailed (Scalar.abs (left - right)) ++ "` > epsilon `" ++
      Scalar.detailed tolerance ++ "`"

/-- Compare two lists number by number. -/
def ofLists (tolerance : α) (left right : List α) : Closeness :=
  if left.length ≠ right.length then unequalLengths
  else
    let show? (xs : List α) := "`" ++ Listing.list (xs.map Scalar.detailed) ++ "`"
    match (left.zip right).findIdx? fun pair => !isClose tolerance pair.1 pair.2 with
    | none => close
    | some i => different <|
      headline ++ " at index " ++ toString i ++ "\n  left: " ++ show? left ++ ",\n right: " ++
        show? right

/-- Compare the first numbers of two pairs, and then the second ones. -/
def ofPairs (tolerance : α) (left right : α × α) : Closeness :=
  match ofNumbers tolerance left.1 right.1 with
  | close => ofNumbers tolerance left.2 right.2
  | other => other

end Closeness

end Gridded
