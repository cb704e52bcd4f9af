/-!
# Dictionaries

A finite map from names, listed in the order of the names' code points.

* `Dictionary`: the entries, with `insert`, `find?`, `keys` and `size`;
* `Dictionary.find?_insert`: looking up after an insertion.
-/

namespace Gridded

/-- A finite map from names to `β`. -/
structure Dictionary (β : Type) where
  entries : List (String × β)
  deriving DecidableEq, Repr

namespace Dictionary

variable {β : Type}

/-- The dictionary without entries. -/
def empty : Dictionary β := ⟨[]⟩

instance : Inhabited (Dictionary β) := ⟨empty⟩

/-- Put an entry at its place in a sorted list, in place of one of the same name. -/
def place (name : String) (value : β) : List (String × β) → List (String × β)
  | [] => [(name, value)]
  | entry :: rest =>
    if entry.1 = name then (name, value) :: rest
    else if name < entry.1 then (name, value) :: entry :: rest
    else entry :: place name value rest

/-- Add an entry, or replace the one of that name. -/
def insert (d : Dictionary β) (name : String) (value : β) : Dictionary β :=
  ⟨place name value d.entries⟩

/-- Insert several entries in turn. -/
def insertAll (d : Dictionary β) (entries : List (String × β)) : Dictionary β :=
  entries.foldl (fun d entry => d.insert entry.1 entry.2) d

/-- The value under a name. -/
def find? (d : Dictionary β) (name : String) : Option β :=
  d.entries.lookup name

/-- Whether there is an entry of that name. -/
def contains (d : Dictionary β) (name : String) : Bool :=
  (d.find? name).isSome

/-- The names, in order. -/
def keys (d : Dictionary β) : List String :=
  d.entries.map (·.1)

/-- The number of entries. -/
def size (d : Dictionary β) : Nat :=
  d.entries.length

/-- Whether there is no entry. -/
def isEmpty (d : Dictionary β) : Bool :=
  d.entries.isEmpty

@[simp] theorem find?_empty (name : String) : (empty : Dictionary β).find? name = none := rfl

theorem lookup_place (name other : String) (value : β) (entries : List (String × β)) :
    (place name value entries).lookup other =
      if other = name then some value else entries.lookup other := by
  induction entries with
  | nil =>
    by_cases h : other = name
    · simp [place, h]
    · simp [place, List.lookup_cons, h, beq_eq_false_iff_ne.mpr h]
  | cons entry rest ih =>
    obtain ⟨key, v⟩ := entry
    by_cases hk : key = name
    · subst hk
      by_cases h : other = key
      · simp [place, h]
      · simp [place, List.lookup_cons, h, beq_eq_false_iff_ne.mpr h]
    · by_cases hlt : name < key
      · by_cases h : other = name
        · simp [place, hk, hlt, h]
        · simp [place, List.lookup_cons, hk, hlt, h, beq_eq_false_iff_ne.mpr h]
      · by_cases h : other = key
        · subst h
          simp [place, hk, hlt]
        · simp [place, List.lookup_cons, hk, hlt, ih, beq_eq_false_iff_ne.mpr h]

@[simp] theorem find?_insert (d : Dictionary β) (name other : String) (value : β) :
    (d.insert name value).find? other = if other = name then some value else d.find? other :=
  lookup_place name other value d.entries

end Dictionary

end Gridded
