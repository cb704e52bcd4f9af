import Mathlib.Data.Nat.PSub
import Gridded.Axis.Array
import Gridded.Proofs.Axis.Building

/-!
# Values that are there

The coordinates of an axis are computed from the values that it stores. Here the same computations are
done with look-ups that give nothing where no value is stored, and with differences that give nothing
below zero. On a well-formed axis they give the same, so every value that is asked for is there.

* `Axis.Intact`: the invariant of the fields, with the first and the last value and the name of the range;
  every built axis is intact (`Axis.Built.intact`);
* `Axis.value?`, `Axis.fromEnd?`: the look-ups;
* `Axis.edge1At?`, `Axis.edge2At?`, `Axis.midpointAt?`, `Axis.cellAt?`, `Axis.coordinateAt?`: the
  coordinates by index, with `Axis.checked?` for an index that is checked first;
* `Axis.isAscending?`, `Axis.extent?`, `Axis.midpointArray?`, `Axis.coordinates?`: the axis as a whole;
* `Axis.Bounded`: all of these give what the axis answers (`Axis.WellFormed.bounded`).
-/

namespace Gridded

/-- A spacing that stores values stores some for any coordinates. -/
theorem Spacing.valuesLen_pos {s : Spacing} (h : s.isRegular = false) {n : Nat} (hn : 0 < n) :
    0 < s.valuesLen n := by
  cases s with
  | regularPoint => cases h
  | regularInterval => cases h
  | irregularPoint => exact hn
  | contiguousInterval => exact Nat.succ_pos n
  | discontiguousInterval => exact Nat.mul_pos Nat.two_pos hn

namespace Axis

variable {α : Type} [Scalar α]

/-! ### The ends of an axis and the name of its range -/

/-- The fields of an axis fit together, down to the values at its ends and the name of its range. -/
structure Intact (a : Axis α) : Prop extends a.WellFormed where
  start_eq : a.spacing.isRegular = false → a.values.head? = some a.start
  stop_eq : a.spacing.isRegular = false → a.values.getLast? = some a.stop
  name_range : ∀ kind, a.kind = some kind → a.range.name = some kind.name

/-- An axis starts and stops with the first and the last of its values. -/
theorem Draft.Makes.ends {d : Draft α} {a : Axis α} (h : d.Makes a)
    (hreg : a.spacing.isRegular = false) (hsize : 0 < a.size) :
    a.values.head? = some a.start ∧ a.values.getLast? = some a.stop := by
  obtain ⟨values, -, hlength, ht⟩ := (Draft.stored_irregular hreg).1 h.stored
  simp only [Prod.mk.injEq] at ht
  obtain ⟨hstart, hstop, hvalues⟩ := ht
  have hpos : 0 < values.length := hlength ▸ Spacing.valuesLen_pos hreg hsize
  have hlast : values.length - 1 < values.length := Nat.sub_lt hpos Nat.one_pos
  rw [hvalues, hstart, hstop, ← hlength, List.head?_eq_getElem?, List.getLast?_eq_getElem?]
  exact ⟨by simp [List.getD, hpos], by simp [List.getD, hlast]⟩

theorem Built.intact {a : Axis α} (h : a.Built) : a.Intact := by
  have hw : a.WellFormed := h.wellFormed
  obtain ⟨d, hd⟩ := h
  have hm := Draft.build_eq_ok.1 hd
  refine ⟨hw, fun hreg => (hm.ends hreg hw.size_pos).1, fun hreg => (hm.ends hreg hw.size_pos).2, ?_⟩
  intro kind hkind
  obtain ⟨-, hrange⟩ := Draft.rangeFor_eq_ok.1 hm.range
  have hlabel : d.kind = a.kind := (congrArg Label.kind hm.label).symm
  rw [hrange, hlabel, hkind]
  rfl

/-! ### Look-ups -/

/-- A stored value, if it is there. -/
def value? (a : Axis α) (i : Nat) : Option α := a.values[i]?

/-- The stored value that is `k` before index `n`, if there is such an index and a value at it. -/
def fromEnd? (a : Axis α) (n k : Nat) : Option α := n.psub k >>= a.value?

theorem value?_eq {a : Axis α} {i : Nat} (h : i < a.values.length) : a.value? i = some (a.value i) := by
  rw [value?, value, List.getD, List.getElem?_eq_getElem h]
  rfl

theorem fromEnd?_eq {a : Axis α} {n k : Nat} (hk : k ≤ n) (h : n - k < a.values.length) :
    a.fromEnd? n k = some (a.value (n - k)) := by
  rw [fromEnd?, Nat.psub_eq_sub hk]
  exact value?_eq h

/-! ### Coordinates by index -/

/-- The first edge of a cell, if the values are there. -/
def edge1At? (a : Axis α) (i : Nat) : Option α :=
  match a.spacing with
  | .regularPoint => some (a.start + (Scalar.ofNat i - 0.5) * a.resolution)
  | .regularInterval => some (a.start + Scalar.ofNat i * a.resolution)
  | .irregularPoint =>
    if a.size = 1 then a.value? 0
    else if 0 < i then do
      return ((← a.fromEnd? i 1) + (← a.value? i)) / 2
    else do
      let first ← a.value? 0
      return first - ((← a.value? 1) - first) / 2
  | .contiguousInterval => a.value? i
  | .discontiguousInterval => a.value? (2 * i)

/-- The second edge of a cell, if the values are there. -/
def edge2At? (a : Axis α) (i : Nat) : Option α :=
  match a.spacing with
  | .regularPoint => some (a.start + (Scalar.ofNat i + 0.5) * a.resolution)
  | .regularInterval => some (a.start + Scalar.ofNat (i + 1) * a.resolution)
  | .irregularPoint =>
    if a.size = 1 then a.value? 0
    else if i < a.size - 1 then do
      return ((← a.value? i) + (← a.value? (i + 1))) / 2
    else do
      let last ← a.fromEnd? a.size 1
      return last + (last - (← a.fromEnd? a.size 2)) / 2
  | .contiguousInterval => a.value? (i + 1)
  | .discontiguousInterval => a.value? (2 * i + 1)

/-- The point, or the center of a cell, if the values are there. -/
def midpointAt? (a : Axis α) (i : Nat) : Option α :=
  match a.spacing with
  | .regularPoint => some (a.start + Scalar.ofNat i * a.resolution)
  | .regularInterval => some (a.start + (Scalar.ofNat i + 0.5) * a.resolution)
  | .irregularPoint => a.value? i
  | .contiguousInterval | .discontiguousInterval => do
    return ((← a.edge1At? i) + (← a.edge2At? i)) / 2

/-- A cell, if the values are there. -/
def cellAt? (a : Axis α) (i : Nat) : Option (Interval α) := do
  return ⟨← a.edge1At? i, ← a.edge2At? i⟩

/-- A coordinate, if the values are there. -/
def coordinateAt? (a : Axis α) (i : Nat) : Option (Coordinate α) :=
  if a.spacing.isInterval then .cell <$> a.cellAt? i else .point <$> a.midpointAt? i

/-- What a function with look-ups gives at an index of the axis, if the values are there. -/
def checked? {β : Type} (a : Axis α) (i : Nat) (f : Nat → Option β) : Option (Except Error β) :=
  if i < a.size then .ok <$> f i else some (.error (.indexOutOfRange i a.size))

section Agreement

variable {a : Axis α} {i : Nat}

theorem edge1At?_eq (ha : a.WellFormed) (hi : i < a.size) : a.edge1At? i = some (a.edge1At i) := by
  have hlength := ha.length_values
  cases hsp : a.spacing with
  | regularPoint => simp only [edge1At?, edge1At, hsp]
  | regularInterval => simp only [edge1At?, edge1At, hsp]
  | irregularPoint =>
    have hvalue : ∀ k < a.size, k < a.values.length := fun k hk => by rwa [hlength, hsp]
    simp only [edge1At?, edge1At, hsp]
    split_ifs with hsingle hpos
    · exact value?_eq (hvalue 0 ha.size_pos)
    · rw [fromEnd?_eq hpos (hvalue _ (by omega)), value?_eq (hvalue i hi)]
      rfl
    · have htwo : 1 < a.size := by
        have := ha.size_pos
        omega
      rw [value?_eq (hvalue 0 ha.size_pos), value?_eq (hvalue 1 htwo)]
      rfl
  | contiguousInterval =>
    have hvalue : i < a.values.length := by
      rw [hlength, hsp]
      exact Nat.lt_succ_of_lt hi
    simp only [edge1At?, edge1At, hsp, value?_eq hvalue]
  | discontiguousInterval =>
    have hvalue : 2 * i < a.values.length := by
      rw [hlength, hsp]
      show 2 * i < 2 * a.size
      omega
    simp only [edge1At?, edge1At, hsp, value?_eq hvalue]

theorem edge2At?_eq (ha : a.WellFormed) (hi : i < a.size) : a.edge2At? i = some (a.edge2At i) := by
  have hlength := ha.length_values
  cases hsp : a.spacing with
  | regularPoint => simp only [edge2At?, edge2At, hsp]
  | regularInterval => simp only [edge2At?, edge2At, hsp]
  | irregularPoint =>
    have hvalue : ∀ k < a.size, k < a.values.length := fun k hk => by rwa [hlength, hsp]
    simp only [edge2At?, edge2At, hsp]
    split_ifs with hsingle hinner
    · exact value?_eq (hvalue 0 ha.size_pos)
    · rw [value?_eq (hvalue i hi), value?_eq (hvalue (i + 1) (by omega))]
      rfl
    · -- The cell at the end reaches beyond the last point by what the last two points are apart.
      have htwo : 2 ≤ a.size := by
        have := ha.size_pos
        omega
      rw [fromEnd?_eq ha.size_pos (hvalue _ (by omega)), fromEnd?_eq htwo (hvalue _ (by omega))]
      rfl
  | contiguousInterval =>
    have hvalue : i + 1 < a.values.length := by
      rw [hlength, hsp]
      exact Nat.succ_lt_succ hi
    simp only [edge2At?, edge2At, hsp, value?_eq hvalue]
  | discontiguousInterval =>
    have hvalue : 2 * i + 1 < a.values.length := by
      rw [hlength, hsp]
      show 2 * i + 1 < 2 * a.size
      omega
    simp only [edge2At?, edge2At, hsp, value?_eq hvalue]

theorem midpointAt?_eq (ha : a.WellFormed) (hi : i < a.size) :
    a.midpointAt? i = some (a.midpointAt i) := by
  cases hsp : a.spacing with
  | regularPoint => simp only [midpointAt?, midpointAt, hsp]
  | regularInterval => simp only [midpointAt?, midpointAt, hsp]
  | irregularPoint =>
    have hvalue : i < a.values.length := by rwa [ha.length_values, hsp]
    simp only [midpointAt?, midpointAt, hsp, value?_eq hvalue]
  | contiguousInterval =>
    simp only [midpointAt?, midpointAt, hsp]
    rw [edge1At?_eq ha hi, edge2At?_eq ha hi]
    rfl
  | discontiguousInterval =>
    simp only [midpointAt?, midpointAt, hsp]
    rw [edge1At?_eq ha hi, edge2At?_eq ha hi]
    rfl

theorem cellAt?_eq (ha : a.WellFormed) (hi : i < a.size) : a.cellAt? i = some (a.cellAt i) := by
  rw [cellAt?, edge1At?_eq ha hi, edge2At?_eq ha hi]
  rfl

theorem coordinateAt?_eq (ha : a.WellFormed) (hi : i < a.size) :
    a.coordinateAt? i = some (a.coordinateAt i) := by
  unfold coordinateAt? coordinateAt
  rw [cellAt?_eq ha hi, midpointAt?_eq ha hi]
  split_ifs <;> rfl

omit [Scalar α] in
theorem checked?_eq {β : Type} {f : Nat → Option β} {g : Nat → β}
    (h : ∀ i < a.size, f i = some (g i)) (i : Nat) : a.checked? i f = some (a.checked i g) := by
  by_cases hi : i < a.size
  · rw [checked?, if_pos hi, checked_of_lt hi, h i hi]
    rfl
  · rw [checked?, if_neg hi, checked_of_le (Nat.le_of_not_lt hi)]

end Agreement

/-! ### The axis as a whole -/

/-- Whether coordinates increase, if the values are there. -/
def isAscending? (a : Axis α) : Option Bool :=
  match a.spacing with
  | .regularPoint | .regularInterval => some (0 < a.resolution)
  | .irregularPoint => do return (← a.value? 0) ≤ (← a.fromEnd? a.size 1)
  | .contiguousInterval => do return (← a.value? 0) ≤ (← a.value? a.size)
  | .discontiguousInterval => do return (← a.value? 0) ≤ (← a.fromEnd? (2 * a.size) 1)

/-- The extent of the axis, if the values are there. -/
def extent? (a : Axis α) : Option (Extent α) :=
  match a.spacing with
  | .discontiguousInterval => some (Extent.ofList a.values)
  | _ => do return Extent.between (← a.edge1At? 0) (← a.size.psub 1 >>= a.edge2At?)

/-- The midpoints as an array, if the values are there. -/
def midpointArray? (a : Axis α) : Option (Tensor α) :=
  if a.dependence = .scalar then .scalar <$> a.midpointAt? 0
  else .ofList <$> a.indices.mapM a.midpointAt?

/-- All coordinates in order, if the values are there. -/
def coordinates? (a : Axis α) : Option (List (Coordinate α)) := a.indices.mapM a.coordinateAt?

/-- The axis has every value that its coordinates are computed from. -/
structure Bounded (a : Axis α) : Prop where
  edge1 : ∀ i, a.checked? i a.edge1At? = some (a.edge1 i)
  edge2 : ∀ i, a.checked? i a.edge2At? = some (a.edge2 i)
  midpoint : ∀ i, a.checked? i a.midpointAt? = some (a.midpoint i)
  cell : ∀ i, a.checked? i a.cellAt? = some (a.cell i)
  isAscending : a.isAscending? = some a.isAscending
  extent : a.extent? = some a.extent
  midpointArray : a.midpointArray? = some a.midpointArray
  coordinates : a.coordinates? = some a.coordinates

section Agreement

variable {a : Axis α}

theorem isAscending?_eq (ha : a.WellFormed) : a.isAscending? = some a.isAscending := by
  have hpos := ha.size_pos
  have hlength := ha.length_values
  cases hsp : a.spacing with
  | regularPoint => simp only [isAscending?, isAscending, hsp]
  | regularInterval => simp only [isAscending?, isAscending, hsp]
  | irregularPoint =>
    rw [hsp, Spacing.valuesLen] at hlength
    simp only [isAscending?, isAscending, hsp]
    rw [value?_eq (by omega), fromEnd?_eq hpos (by omega)]
    rfl
  | contiguousInterval =>
    rw [hsp, Spacing.valuesLen] at hlength
    simp only [isAscending?, isAscending, hsp]
    rw [value?_eq (by omega), value?_eq (by omega)]
    rfl
  | discontiguousInterval =>
    rw [hsp, Spacing.valuesLen] at hlength
    simp only [isAscending?, isAscending, hsp]
    rw [value?_eq (by omega), fromEnd?_eq (by omega) (by omega)]
    rfl

theorem extent?_eq (ha : a.WellFormed) : a.extent? = some a.extent := by
  have hlast : a.size - 1 < a.size := Nat.sub_lt ha.size_pos Nat.one_pos
  have hends : (do return Extent.between (← a.edge1At? 0) (← a.size.psub 1 >>= a.edge2At?)) =
      some (Extent.between (a.edge1At 0) (a.edge2At (a.size - 1))) := by
    have hsub : a.size.psub 1 = some (a.size - 1) := Nat.psub_eq_sub ha.size_pos
    rw [hsub, edge1At?_eq ha ha.size_pos, Option.bind_eq_bind, Option.bind_some,
      Option.bind_eq_bind, Option.bind_some, edge2At?_eq ha hlast]
    rfl
  cases hsp : a.spacing <;> simp only [extent?, extent, hsp, hends]

theorem midpointArray?_eq (ha : a.WellFormed) : a.midpointArray? = some a.midpointArray := by
  have hmidpoints : a.indices.mapM a.midpointAt? = some a.midpoints :=
    mapM_eq_some fun _ hi => midpointAt?_eq ha (List.mem_range.1 hi)
  unfold midpointArray? midpointArray
  split_ifs
  · rw [midpointAt?_eq ha ha.size_pos]
    rfl
  · rw [hmidpoints]
    rfl

theorem coordinates?_eq (ha : a.WellFormed) : a.coordinates? = some a.coordinates :=
  mapM_eq_some fun _ hi => coordinateAt?_eq ha (List.mem_range.1 hi)

theorem WellFormed.bounded (ha : a.WellFormed) : a.Bounded where
  edge1 := checked?_eq fun _ hi => edge1At?_eq ha hi
  edge2 := checked?_eq fun _ hi => edge2At?_eq ha hi
  midpoint := checked?_eq fun _ hi => midpointAt?_eq ha hi
  cell := checked?_eq fun _ hi => cellAt?_eq ha hi
  isAscending := isAscending?_eq ha
  extent := extent?_eq ha
  midpointArray := midpointArray?_eq ha
  coordinates := coordinates?_eq ha

end Agreement

end Axis

end Gridded
