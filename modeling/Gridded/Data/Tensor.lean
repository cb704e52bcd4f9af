/-!
# Tensors

Arrays of numbers with any number of dimensions, the last of which varies fastest.

* `Tensor`: a shape and the entries;
* `Tensor.outer`: the entries at one index of the first dimension;
* `Tensor.generate2`, `Tensor.generate3`: an array filled from its indices;
* `Tensor.get2`, `Tensor.get3`: the entry at given indices.
-/

namespace Gridded

/-- An array of numbers. -/
structure Tensor (α : Type) where
  shape : List Nat
  entries : Array α
  deriving DecidableEq, Repr

namespace Tensor

variable {α : Type}

/-- The number of entries of a shape. -/
def count (shape : List Nat) : Nat := shape.foldr (· * ·) 1

/-- Whether there are as many entries as the shape calls for. -/
def IsFull (t : Tensor α) : Prop := t.entries.size = count t.shape

instance (t : Tensor α) : Decidable t.IsFull := inferInstanceAs (Decidable (_ = _))

/-- A list of numbers. -/
def ofList (xs : List α) : Tensor α := ⟨[xs.length], xs.toArray⟩

/-- A single number. -/
def scalar (x : α) : Tensor α := ⟨[], #[x]⟩

/-- An array filled by position. -/
def generate (shape : List Nat) (f : Nat → α) : Tensor α :=
  ⟨shape, Array.ofFn fun i : Fin (count shape) => f i⟩

/-- An array of two dimensions filled from its indices. -/
def generate2 (rows columns : Nat) (f : Nat → Nat → α) : Tensor α :=
  generate [rows, columns] fun p => f (p / columns) (p % columns)

/-- An array of three dimensions filled from its indices. -/
def generate3 (layers rows columns : Nat) (f : Nat → Nat → Nat → α) : Tensor α :=
  generate [layers, rows, columns] fun p =>
    f (p / (rows * columns)) (p / columns % rows) (p % columns)

/-- The entry at a position, or `other` beyond the last one. -/
def entry (t : Tensor α) (other : α) (p : Nat) : α := t.entries.getD p other

/-- The entry of an array of two dimensions. -/
def get2 (t : Tensor α) (other : α) (j i : Nat) : α :=
  match t.shape with
  | [_, columns] => t.entry other (j * columns + i)
  | _ => other

/-- The entry of an array of three dimensions. -/
def get3 (t : Tensor α) (other : α) (k j i : Nat) : α :=
  match t.shape with
  | [_, rows, columns] => t.entry other ((k * rows + j) * columns + i)
  | _ => other

/-- The entries at one index of the first dimension, whose other dimensions are `inner`. -/
def outer (t : Tensor α) (inner : List Nat) (index : Nat) : Tensor α :=
  ⟨inner, t.entries.extract (index * count inner) ((index + 1) * count inner)⟩

/-- Apply a function to every entry. -/
def map {β : Type} (f : α → β) (t : Tensor α) : Tensor β := ⟨t.shape, t.entries.map f⟩

@[simp] theorem shape_map {β : Type} (f : α → β) (t : Tensor α) : (t.map f).shape = t.shape := rfl

@[simp] theorem shape_generate3 (layers rows columns : Nat) (f : Nat → Nat → Nat → α) :
    (generate3 layers rows columns f).shape = [layers, rows, columns] := rfl

theorem isFull_generate (shape : List Nat) (f : Nat → α) : (generate shape f).IsFull := by
  simp [IsFull, generate]

theorem entry_generate {shape : List Nat} {f : Nat → α} {other : α} {p : Nat}
    (h : p < count shape) : (generate shape f).entry other p = f p := by
  simp [entry, generate, Array.getD, h]

theorem get2_generate2 {rows columns j i : Nat} {f : Nat → Nat → α} {other : α}
    (hj : j < rows) (hi : i < columns) : (generate2 rows columns f).get2 other j i = f j i := by
  have hp : j * columns + i < count [rows, columns] := by
    have h := Nat.mul_le_mul_right columns (Nat.succ_le_of_lt hj)
    simp only [count, List.foldr_cons, List.foldr_nil, Nat.mul_one]
    rw [Nat.succ_mul] at h
    omega
  show (generate [rows, columns] _).entry other (j * columns + i) = f j i
  rw [entry_generate hp, Nat.mul_comm j columns, Nat.mul_add_div (by omega),
    Nat.mul_add_mod, Nat.div_eq_of_lt hi, Nat.mod_eq_of_lt hi, Nat.add_zero]

theorem get3_generate3 {layers rows columns k j i : Nat} {f : Nat → Nat → Nat → α} {other : α}
    (hk : k < layers) (hj : j < rows) (hi : i < columns) :
    (generate3 layers rows columns f).get3 other k j i = f k j i := by
  have h₁ := Nat.mul_le_mul_right rows (Nat.succ_le_of_lt hk)
  rw [Nat.succ_mul] at h₁
  have h₂ : k * rows + j < layers * rows := by omega
  have h₃ := Nat.mul_le_mul_right columns (Nat.succ_le_of_lt h₂)
  rw [Nat.succ_mul] at h₃
  have hp : (k * rows + j) * columns + i < count [layers, rows, columns] := by
    simp only [count, List.foldr_cons, List.foldr_nil, Nat.mul_one, ← Nat.mul_assoc]
    omega
  show (generate [layers, rows, columns] _).entry other _ = f k j i
  have hcol : ((k * rows + j) * columns + i) / columns = k * rows + j := by
    rw [Nat.mul_comm, Nat.mul_add_div (by omega), Nat.div_eq_of_lt hi, Nat.add_zero]
  rw [entry_generate hp, hcol, Nat.mul_comm rows columns, ← Nat.div_div_eq_div_mul, hcol,
    Nat.mul_comm k rows, Nat.mul_add_div (by omega), Nat.mul_add_mod, Nat.div_eq_of_lt hj,
    Nat.mod_eq_of_lt hj, Nat.add_zero]
  congr 1
  rw [Nat.mul_comm, Nat.mul_add_mod, Nat.mod_eq_of_lt hi]

end Tensor

end Gridded
