import Gridded.Axis.Subset
import Gridded.Axis.Timed
import Gridded.Slice.Word

/-!
# Axes in words

Where axes are made, the number of coordinates is a word of 64 bits, and the number of values that they
need is computed in words. The numbers of a draft and of a slice stand for words here. What is taken from an
axis is as long as its values, so the stride of its range is all that may not be a word.

* `Spacing.valuesLenWord`: how many values coordinates need;
* `Axis.Draft.endsWord`, `Axis.Draft.storedWord`, `Axis.Draft.rangeWord`: the checks that compute in words;
* `Axis.Draft.buildWord`: the checks that turn a draft into an axis, some of which may be broken off;
* `Axis.takeWord`, `TimeAxis.takeWord`, `SystemAxis.takeWord`: the coordinates at the indices of a slice;
* `Axis.followWord`, `TimeAxis.followWord`, `SystemAxis.followWord`: the coordinates that belong to those
  taken from another axis.
-/

namespace Gridded

/-- How many stored values that many coordinates need. -/
def Spacing.valuesLenWord (o : Overflow) (n : UInt64) : Spacing → Option UInt64
  | regularPoint | regularInterval => some 0
  | irregularPoint => some n
  | contiguousInterval => Word.add o n 1
  | discontiguousInterval => Word.mul o 2 n

namespace Axis

variable {α : Type} [Scalar α]

/-! ### Making an axis -/

namespace Draft

variable (o : Overflow)

/-- Check that there are as many values as expected, and give the first, the last and all of them. There is
no answer if the first or the last one is not there. -/
def endsWord (d : Draft α) (values : List α) (expected : UInt64) : Outcome (α × α × List α) :=
  if UInt64.ofNat values.length = expected then do
    let start ← (values[0]? : Option α)
    let last ← Word.sub o expected 1
    let stop ← (values[last.toNat]? : Option α)
    return (start, stop, values)
  else throw (.shapeMismatch d.name [expected.toNat] [values.length])

/-- Check the values that a spacing needs, and give the start, the stop and the values to store. -/
def storedWord (d : Draft α) (spacing : Spacing) (count : UInt64) : Outcome (α × α × List α) :=
  match spacing.isRegular, d.values with
  | false, some values => do d.endsWord o values (← spacing.valuesLenWord o count)
  | _, _ => liftM (d.stored spacing count.toNat)

/-- The range of the axis. One of the wrong length is written out in the message that refuses it. -/
def rangeWord (d : Draft α) (count : UInt64) : Outcome Slice :=
  match d.range with
  | none => liftM (d.rangeFor count.toNat)
  | some s =>
    if s.len = count.toNat then liftM (d.rangeFor count.toNat)
    else do
      let written ← (WordSlice.ofSlice s).text o
      throw (.invalidRange (.stated (RangeFault.wrongLengthText written d.name count.toNat)))

/-- Make the axis, if the draft is complete and fits together. There is no answer if a value is read that is
not there. -/
def buildWord (d : Draft α) : Outcome (Axis α) :=
  match d.spacing with
  | none => throw (.invalidArgument (.noSpacing d.name))
  | some spacing => do
    d.checkDependence
    let count := UInt64.ofNat (d.count spacing)
    d.checkCount count.toNat
    let stored ← d.storedWord o spacing count
    let range ← d.rangeWord o count
    return d.assemble spacing count.toNat stored range

end Draft

/-! ### Taking a part of an axis -/

/-- The coordinates at the indices of a slice, as long as the stride of their range is a word. -/
def takeWord (a : Axis α) (s : Slice) : Outcome (Axis α) :=
  match s.last with
  | none => throw (.invalidRange (.emptySubset a.name))
  | some last => do
    s.within a.size
    let range ← a.range.composeWord s
    { a.draftOf s last with range := some range, isSubset := true }.build

/-- The slice of an axis if one is given, and otherwise the whole axis. -/
def takeWord? (a : Axis α) : Option Slice → Outcome (Axis α)
  | some s => a.takeWord s
  | none => return a

/-- The coordinates at the indices that were taken from an axis that this one depends on. -/
def followWord (a parent : Axis α) : Outcome (Axis α) :=
  if a.parents.contains parent.name then
    if parent.isSubset then a.takeWord parent.range else return a
  else throw (.invalidArgument (.notDependentOn a.name parent.name))

end Axis

variable {α : Type} [Scalar α]

/-- The coordinates at the indices of a slice. -/
def TimeAxis.takeWord (t : TimeAxis α) (s : Slice) : Outcome (TimeAxis α) := do
  return ⟨← t.axis.takeWord s, t.scale⟩

/-- The coordinates at the indices that were taken from an axis that this one depends on. -/
def TimeAxis.followWord (t : TimeAxis α) (parent : Axis α) : Outcome (TimeAxis α) := do
  return ⟨← t.axis.followWord parent, t.scale⟩

namespace SystemAxis

/-- The coordinates at the indices of a slice. -/
def takeWord (s : Slice) : SystemAxis α → Outcome (SystemAxis α)
  | plain a => plain <$> a.takeWord s
  | timed t => timed <$> t.takeWord s

/-- The slice of an axis if one is given, and otherwise the whole axis. -/
def takeWord? (a : SystemAxis α) : Option Slice → Outcome (SystemAxis α)
  | some s => a.takeWord s
  | none => return a

/-- The coordinates at the indices that were taken from an axis that this one depends on. -/
def followWord (parent : Axis α) : SystemAxis α → Outcome (SystemAxis α)
  | plain a => plain <$> a.followWord parent
  | timed t => timed <$> t.followWord parent

end SystemAxis

end Gridded
