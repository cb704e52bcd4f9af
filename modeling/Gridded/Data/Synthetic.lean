import Gridded.Data.Tensor
import Gridded.Scalar

/-!
# Synthetic data

Fields and levels whose values follow from their indices, so that it shows where a value was taken
from.
-/

namespace Gridded.Synthetic

variable {α : Type} [Scalar α]

/-- A field whose values tell their row and column. -/
def indexField (rows columns : Nat) : Tensor α :=
  .generate2 rows columns fun j i => Scalar.ofNat (j * 1000 + i)

/-- A field of one value. -/
def constantField (rows columns : Nat) (x : α) : Tensor α :=
  .generate2 rows columns fun _ _ => x

/-- A sea floor that falls from the first column to the last one. -/
def depthField (rows columns : Nat) (shallow deep : α) : Tensor α :=
  .generate2 rows columns fun _ i =>
    shallow + (deep - shallow) * Scalar.ofNat i / Scalar.ofNat (max columns 2 - 1)

/-- A water surface that moves with time and with the column. -/
def surfaceSeries (times rows columns : Nat) (amplitude : Float) : Tensor Float :=
  .generate3 times rows columns fun t _ i =>
    amplitude * (Scalar.ofNat t + 0.1 * Scalar.ofNat i : Float).sin

/-- A surface pressure that rises with time and with the column. -/
def pressureSeries (times rows columns : Nat) : Tensor α :=
  .generate3 times rows columns fun t _ i =>
    100000 + 100 * Scalar.ofNat t + 10 * Scalar.ofNat i

/-- The layer centers of the ocean, from the bottom at -1 to the surface at 0. -/
def oceanLevels (n : Nat) : List α :=
  (List.range n).map fun k => -1 + (Scalar.ofNat k + 0.5) / Scalar.ofNat n

/-- The layer centers of the atmosphere, from the top at 0 to the surface at 1. -/
def sigmaLevels (n : Nat) : List α :=
  (List.range n).map fun k => (Scalar.ofNat k + 0.5) / Scalar.ofNat n

/-- A field of one value that is missing at some rows and columns. -/
def fieldWithGaps (rows columns : Nat) (x : α) (gaps : List (Nat × Nat)) : Tensor α :=
  .generate2 rows columns fun j i => if gaps.contains (j, i) then Scalar.nan else x

end Gridded.Synthetic
