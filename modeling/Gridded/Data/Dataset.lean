import Gridded.Data.Tensor
import Gridded.Data.Variable

/-!
# Datasets

A source of described arrays. Vertical transforms see nothing else of the files behind it.

* `Dataset`: what a source answers;
* `timeSlice`: one index of the outermost dimension of an array;
* `Library`: a source held in memory;
* `Dataset.replacing`: a source whose reads of some variables have other answers.
-/

namespace Gridded

/-- A source of arrays. -/
structure Dataset (α : Type) where
  /-- The description of a variable. -/
  find? : String → Option (Variable α)
  /-- The array of a variable. -/
  read : String → Except Error (Tensor α)
  /-- The array of a variable at one index of its outermost dimension, which is time. -/
  readAt : String → Nat → Except Error (Tensor α)

/-- One index of the outermost dimension of the array of a variable. -/
def timeSlice {α : Type} (name : String) (data : Tensor α) (time : Nat) :
    Except Error (Tensor α) :=
  match data.shape with
  | [] => .error (.invalidArgument (.scalarVariable name))
  | times :: inner =>
    if time < times then .ok (data.outer inner time)
    else .error (.invalidTimeIndex time times)

/-- Arrays with their descriptions, in memory. -/
abbrev Library (α : Type) := Dictionary (Variable α × Tensor α)

namespace Library

variable {α : Type} [Scalar α]

/-- Add an array, which must have the shape that its description says. -/
def add (lib : Library α) (v : Variable α) (data : Tensor α) : Except Error (Library α) :=
  if v.shape = data.shape then .ok (lib.insert v.name (v, data))
  else .error (.shapeMismatch v.name v.shape data.shape)

/-- Add an array that describes its own shape. -/
def addNamed (lib : Library α) (name : String) (dims : List String) (units : Option String)
    (data : Tensor α) : Except Error (Library α) := do
  let v ← Variable.of name dims data.shape
  lib.add (match units with
    | some units => v.withUnits units
    | none => v) data

/-- The array of a variable. -/
def read (lib : Library α) (name : String) : Except Error (Tensor α) :=
  match lib.find? name with
  | some (_, data) => .ok data
  | none => .error (.invalidArgument (.noVariable name))

/-- The library as a source. -/
def toDataset (lib : Library α) : Dataset α where
  find? name := (lib.find? name).map (·.1)
  read name := lib.read name
  readAt name time := do timeSlice name (← lib.read name) time

end Library

/-- A source of full arrays, from which the time slices are cut. -/
def Dataset.ofReads {α : Type} (find? : String → Option (Variable α))
    (read : String → Except Error (Tensor α)) : Dataset α where
  find? := find?
  read := read
  readAt name time := do timeSlice name (← read name) time

/-- The source whose reads of the variables named in `answers` give those answers instead. -/
def Dataset.replacing {α : Type} (d : Dataset α) (answers : Dictionary (Except Error (Tensor α))) :
    Dataset α :=
  Dataset.ofReads d.find? fun name => (answers.find? name).getD (d.read name)

end Gridded
