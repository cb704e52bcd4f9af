import Gridded.Outcome
import Gridded.Slice

/-!
# Slices in words

Where slices are stored, their numbers are words of 64 bits. A number that does not fit into a word breaks the
computation off, or else it loses its upper part and the computation goes on: which of the two is said when
the program is built.

* `Overflow`: the two ways to deal with a number that does not fit;
* `Word.fit`, `Word.add`, `Word.sub`, `Word.mul`: arithmetic of words;
* `WordSlice`: a slice whose numbers are words, with the operations of `Slice` in words;
* `WordSlice.toSlice`, `WordSlice.ofSlice`: the slice that it stands for, and back;
* `Slice.composeWord`, `Slice.StrideFits`: slices whose numbers stand for words are composed as long as the
  stride of the result is a word.
-/

namespace Gridded

/-- What becomes of a number that does not fit into a word. -/
inductive Overflow
  /-- The computation is broken off. -/
  | stops
  /-- The number loses its upper part. -/
  | wraps
  deriving DecidableEq, Repr

namespace Word

/-- A number as a word. -/
def fit (n : Nat) : Overflow → Option UInt64
  | .stops => if n < UInt64.size then some (.ofNat n) else none
  | .wraps => some (.ofNat n)

/-- The sum of two words. -/
def add (o : Overflow) (a b : UInt64) : Option UInt64 := fit (a.toNat + b.toNat) o

/-- The product of two words. -/
def mul (o : Overflow) (a b : UInt64) : Option UInt64 := fit (a.toNat * b.toNat) o

/-- The difference of two words. -/
def sub (o : Overflow) (a b : UInt64) : Option UInt64 :=
  match o with
  | .stops => if b ≤ a then some (a - b) else none
  | .wraps => some (a - b)

end Word

/-- Equally spaced indices along a dimension, in words. -/
structure WordSlice where
  name : Option String
  first : UInt64
  len : UInt64
  stride : UInt64
  deriving DecidableEq, Repr

namespace WordSlice

/-- The slice that a slice in words stands for. -/
def toSlice (s : WordSlice) : Slice := ⟨s.name, s.first.toNat, s.len.toNat, s.stride.toNat⟩

/-- A slice in words. -/
def ofSlice (s : Slice) : WordSlice := ⟨s.name, .ofNat s.first, .ofNat s.len, .ofNat s.stride⟩

/-- The same indices under another name. -/
def withName (s : WordSlice) (name : String) : WordSlice := { s with name := some name }

/-- Whether the slice picks nothing. -/
def isEmpty (s : WordSlice) : Bool := s.len == 0

variable (o : Overflow)

/-- The indices from `first` to at most `last` in steps of `stride`. -/
def strided (first last stride : UInt64) : Outcome WordSlice :=
  if last < first then throw (.invalidRange (.lastBeforeFirst last.toNat first.toNat))
  else if stride = 0 then throw (.invalidRange .zeroStride)
  else do
    let span ← Word.sub o last first
    let len ← Word.add o (span / stride) 1
    return ⟨none, first, len, stride⟩

/-- The indices from `first` to `last`. -/
def between (first last : UInt64) : Outcome WordSlice :=
  strided o first last 1

/-- The index at a position, whether or not the slice is that long. -/
def index (s : WordSlice) (i : UInt64) : Option UInt64 := do
  Word.add o s.first (← Word.mul o i s.stride)

/-- The last index, if there is one. -/
def last (s : WordSlice) : Option (Option UInt64) :=
  if s.len = 0 then return none
  else do return some (← s.index o (← Word.sub o s.len 1))

/-- The indices, in order. -/
def indices (s : WordSlice) : Option (List UInt64) :=
  (List.range s.len.toNat).mapM fun i => s.index o (.ofNat i)

/-- The index at a position of the slice. -/
def element (s : WordSlice) (i : UInt64) : Outcome UInt64 :=
  if i < s.len then liftM (s.index o i) else throw (.indexOutOfRange i.toNat s.len.toNat)

/-- Whether an index is picked. Deciding this for an index between the ends takes a division by the
stride, so without a stride there is no answer. -/
def contains (s : WordSlice) (i : UInt64) : Option Bool := do
  match ← s.last o with
  | none => return false
  | some last =>
    if s.first ≤ i ∧ i ≤ last then
      if s.stride = 0 then none
      else return (← Word.sub o i s.first) % s.stride == 0
    else return false

/-- The written form. -/
def text (s : WordSlice) : Option String := do
  return Slice.written s.name s.first.toNat ((← s.last o).map UInt64.toNat) s.stride.toNat

/-- The indices of `s` at the positions that `sub` picks. The result keeps the name of `s`. -/
def compose (s sub : WordSlice) : Outcome WordSlice := do
  match ← sub.last o with
  | none => return ⟨s.name, 0, 0, 1⟩
  | some last =>
    if s.len ≤ last then throw (.invalidRange (.beyondParent sub.toSlice s.len.toNat))
    else
      let first ← s.index o sub.first
      let stride ← Word.mul o s.stride sub.stride
      return ⟨s.name.or sub.name, first, sub.len, stride⟩

/-- Check that every index is below `n`. -/
def within (s : WordSlice) (n : UInt64) : Outcome Unit := do
  match ← s.last o with
  | none => return
  | some last =>
    if n ≤ last then throw (.invalidRange (.beyondDimension s.toSlice n.toNat))
    else return

end WordSlice

namespace Slice

/-- What is composed as long as its stride is a word. All other numbers of a slice of a slice are words if
the numbers of the two are. -/
def composeWord (s sub : Slice) : Outcome Slice := do
  let r ← s.compose sub
  if r.stride < UInt64.size then return r else .brokenOff

/-- Compose with a slice if there is one. -/
def composeWord? (s : Slice) : Option Slice → Outcome Slice
  | none => return s
  | some sub => s.composeWord sub

/-- The product of the strides is a word, or it is not needed. -/
def StrideFits (s sub : Slice) : Prop := 0 < sub.len → s.stride * sub.stride < UInt64.size

instance (s sub : Slice) : Decidable (s.StrideFits sub) :=
  inferInstanceAs (Decidable (0 < sub.len → s.stride * sub.stride < UInt64.size))

end Slice

end Gridded
