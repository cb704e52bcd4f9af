import Gridded.Slice.Word
import Gridded.Vertical.Transform

/-!
# Windows in words

A cut of a window is composed with its slices, whose numbers stand for words of 64 bits. Opening a window
composes nothing.

* `Window.cutTimeWord`, `Window.composeWord`: the cut that a cut through a window amounts to;
* `VerticalTransform.subsetWord`: restriction, as long as the strides of all slices are words.
-/

namespace Gridded

namespace Window

/-- The time steps of a cut through a window. -/
def cutTimeWord (w : Window) (time : Option Slice) : Outcome (Option Slice) :=
  match time, w.time with
  | some sub, some s => some <$> s.composeWord sub
  | some sub, none => return some sub
  | none, s => return s

/-- The cut of the whole grid that a cut through the window amounts to. -/
def composeWord (w : Window) (cut : Cut) : Outcome Cut := do
  let time ← w.cutTimeWord cut.time
  let z ← w.z.composeWord? cut.z
  let y ← w.y.composeWord? cut.y
  let x ← w.x.composeWord? cut.x
  return ⟨time, some z, some y, some x⟩

end Window

/-- The transform restricted to a cut. Cutting a window gives a window on what is behind it. -/
def VerticalTransform.subsetWord {α : Type} (t : VerticalTransform α) (cut : Cut) :
    Outcome (VerticalTransform α) :=
  match t with
  | source _ => t.window cut
  | view inner window => do inner.window (← window.composeWord cut)

end Gridded
