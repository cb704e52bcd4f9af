/-!
# Exchange documents

The tree in which values are handed to other programs and read back from them: nothing, truth
values, numbers, texts, lists, and tables from names to values.

* `Document`: such a tree;
* `Document.field?`: a field of a table;
* `Document.natural?`, `Document.real?`, `Document.optional?`, `Document.pair?`: readings of a tree.
-/

namespace Gridded

/-- A value in exchange form. Whole numbers are kept apart from other numbers. -/
inductive Document
  | null
  | truth (value : Bool)
  | whole (value : Int)
  | real (value : Float)
  | text (value : String)
  | list (items : List Document)
  | table (fields : List (String × Document))

namespace Document

/-- The text of an optional name. -/
def ofText? : Option String → Document
  | none => null
  | some t => text t

/-- An optional number. -/
def ofReal? : Option Float → Document
  | none => null
  | some x => real x

/-- The field of a table under a name. -/
def field? (name : String) : Document → Option Document
  | table fields => fields.lookup name
  | _ => none

/-- The field of a table under a name, or nothing if the table lacks it. -/
def get (name : String) (d : Document) : Document :=
  (d.field? name).getD null

/-- Indices are stored in words of 64 bits. -/
def wordSize : Nat := 0x10000000000000000

/-- Read an index. -/
def natural? : Document → Option Nat
  | whole n => if 0 ≤ n ∧ n < wordSize then some n.toNat else none
  | _ => none

/-- Read a number; a whole one will do. -/
def real? : Document → Option Float
  | whole n => some (Float.ofInt n)
  | real x => some x
  | _ => none

/-- Read a text. -/
def text? : Document → Option String
  | text t => some t
  | _ => none

/-- Read a truth value. -/
def truth? : Document → Option Bool
  | truth b => some b
  | _ => none

/-- Read a value that may be absent. -/
def optional? {β : Type} (read : Document → Option β) : Document → Option (Option β)
  | null => some none
  | d => (read d).map some

/-- Read a list of values. -/
def list? {β : Type} (read : Document → Option β) : Document → Option (List β)
  | list items => items.mapM read
  | _ => none

/-- Read a record of two fields, either as a table or as a list in that order. -/
def pair? {β : Type} (read : Document → Option β) (first second : String) :
    Document → Option (β × β)
  | list [a, b] => do return (← read a, ← read b)
  | table fields => do
    return (← read (← fields.lookup first), ← read (← fields.lookup second))
  | _ => none

end Document

end Gridded
