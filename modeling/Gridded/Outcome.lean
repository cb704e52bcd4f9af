import Gridded.Error

/-!
# Outcomes

A computation gives a result or an error, unless it is broken off. Then there is neither, as where a number
does not fit into a word or where something is read that is not there.

* `Outcome`: what comes of a computation;
* `Outcome.brokenOff`, `Outcome.answer`: no answer, and the answer of a computation that is not broken off.
-/

namespace Gridded

/-- What comes of a computation that may be broken off. -/
abbrev Outcome (α : Type) := ExceptT Error Option α

namespace Outcome

variable {α : Type}

/-- There is no answer. -/
def brokenOff : Outcome α := none

/-- The answer of a computation that is not broken off. -/
def answer (x : Except Error α) : Outcome α := some x

end Outcome

end Gridded
