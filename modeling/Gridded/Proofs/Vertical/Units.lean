import Gridded.Proofs.Vertical.Terms
import Mathlib.Algebra.Field.Rat

/-!
# Factors between units

* `Settings.conversion`: the factor that turns numbers of one unit into numbers of another one, with
  `Settings.conversion_self` for the same unit;
* `Settings.conversion_mul`: converting twice, between known units of one quantity;
* `Recipe.unitFactor_eq`: in exact arithmetic, terms are multiplied by these factors.
-/

namespace Gridded

/-- The factor that converts numbers of the first unit to the second one, if both are known, they
measure the same quantity, and the settings ask for conversions. -/
def Settings.conversion (settings : Settings) (source target : Option String) : ℚ :=
  match source.bind Measure.ofText?, target.bind Measure.ofText? with
  | some (p : Measure ℚ), some q =>
    if settings.convertTermUnits ∧ p.quantity = q.quantity then p.factor / q.factor else 1
  | _, _ => 1

namespace Measure

theorem ofText?_congr {α : Type} [Scalar α] {source target : String}
    (h : Text.trim source = Text.trim target) :
    (ofText? source : Option (Measure α)) = ofText? target := by
  unfold ofText? Text.foldedName
  rw [h]

theorem known_factor_ne_zero : ∀ row ∈ (known : List (List String × Quantity × ℚ)), row.2.2 ≠ 0 := by
  decide +kernel

theorem factor_ne_zero {text : String} {m : Measure ℚ} (h : ofText? text = some m) :
    m.factor ≠ 0 := by
  obtain ⟨row, hrow, rfl⟩ := Option.map_eq_some_iff.1 h
  exact known_factor_ne_zero row (List.mem_of_find?_eq_some hrow)

end Measure

/-- Numbers of a unit need no conversion to it. -/
theorem Settings.conversion_self (settings : Settings) (unit : Option String) :
    settings.conversion unit unit = 1 := by
  unfold conversion
  rcases h : unit.bind (Measure.ofText? (α := ℚ)) with _ | m
  · rfl
  · obtain ⟨text, -, htext⟩ := Option.bind_eq_some_iff.1 h
    dsimp only
    split_ifs
    · exact div_self (Measure.factor_ne_zero htext)
    · rfl

theorem Settings.conversion_congr (settings : Settings) {source target : String}
    (h : Text.trim source = Text.trim target) :
    settings.conversion (some source) (some target) =
      settings.conversion (some target) (some target) := by
  simp only [conversion, Option.bind_some, Measure.ofText?_congr h]

@[simp] theorem Settings.conversion_none (settings : Settings) (source : Option String) :
    settings.conversion source none = 1 := by
  unfold conversion
  cases source.bind (Measure.ofText? (α := ℚ)) <;> rfl

/-! ### Known units of one quantity -/

theorem Measure.exists_of_measures {quantity : Quantity} {text : String}
    (h : measures quantity text = true) : ∃ m : Measure ℚ, ofText? text = some m ∧
      m.quantity = quantity := by
  have h : quantityOf? text = some quantity := beq_iff_eq.1 h
  exact Option.map_eq_some_iff.1 h

namespace Settings

variable {settings : Settings} {quantity : Quantity} {u v w : String}

theorem conversion_eq_div (hconvert : settings.convertTermUnits = true)
    {p q : Measure ℚ} (hp : Measure.ofText? u = some p) (hq : Measure.ofText? w = some q)
    (hquantity : p.quantity = q.quantity) :
    settings.conversion (some u) (some w) = p.factor / q.factor := by
  unfold conversion
  rw [Option.bind_some, Option.bind_some, hp, hq]
  exact if_pos ⟨hconvert, hquantity⟩

theorem conversion_ne_zero (settings : Settings) (source target : Option String) :
    settings.conversion source target ≠ 0 := by
  unfold conversion
  split
  · rename_i p q hp hq
    obtain ⟨_, -, hp⟩ := Option.bind_eq_some_iff.1 hp
    obtain ⟨_, -, hq⟩ := Option.bind_eq_some_iff.1 hq
    split_ifs
    · exact div_ne_zero (Measure.factor_ne_zero hp) (Measure.factor_ne_zero hq)
    · exact one_ne_zero
  · exact one_ne_zero

/-- Two conversions in turn are one. -/
theorem conversion_mul (hconvert : settings.convertTermUnits = true)
    (hu : measures quantity u = true) (hv : measures quantity v = true)
    (hw : measures quantity w = true) :
    settings.conversion (some u) (some v) * settings.conversion (some v) (some w) =
      settings.conversion (some u) (some w) := by
  obtain ⟨p, hp, hpq⟩ := Measure.exists_of_measures hu
  obtain ⟨q, hq, hqq⟩ := Measure.exists_of_measures hv
  obtain ⟨m, hm, hmq⟩ := Measure.exists_of_measures hw
  rw [conversion_eq_div hconvert hp hq (hpq.trans hqq.symm),
    conversion_eq_div hconvert hq hm (hqq.trans hmq.symm),
    conversion_eq_div hconvert hp hm (hpq.trans hmq.symm),
    div_mul_div_cancel₀ (Measure.factor_ne_zero hq)]

/-- The factor from a known unit to another unit text is there if that measures the same. -/
theorem conversionFactor?_of_measures (hconvert : settings.convertTermUnits = true)
    (hu : measures quantity u = true) (w : String) : conversionFactor? u w =
      if measures quantity w = true then some (settings.conversion (some u) (some w)) else none := by
  obtain ⟨p, hp, rfl⟩ := Measure.exists_of_measures hu
  have hquantity : quantityOf? w = (Measure.ofText? w).map fun m : Measure ℚ => m.quantity := rfl
  unfold conversionFactor? measures
  rw [hp, hquantity]
  rcases hq : Measure.ofText? (α := ℚ) w with _ | q
  · rfl
  · by_cases hpq : p.quantity = q.quantity
    · rw [conversion_eq_div hconvert hp hq hpq]
      simp [Measure.factorTo?, hpq]
    · simp [Measure.factorTo?, hpq, Ne.symm hpq]

end Settings

/-- The factors by which terms are multiplied are these conversions. -/
theorem Recipe.unitFactor_eq (settings : Settings) (source target : Option String) :
    (unitFactor settings source target : ℚ) = settings.conversion source target := by
  rcases source with _ | source
  · rfl
  rcases target with _ | target
  · rw [unitFactor_none, Settings.conversion_none]
  by_cases htrim : Text.trim source = Text.trim target
  · rw [Settings.conversion_congr settings htrim, Settings.conversion_self]
    exact if_pos htrim
  · unfold unitFactor Settings.conversion conversionFactor?
    dsimp only
    rw [if_neg htrim, Option.bind_some, Option.bind_some]
    rcases Measure.ofText? (α := ℚ) source with _ | p
    · rfl
    rcases Measure.ofText? (α := ℚ) target with _ | q
    · rfl
    by_cases hquantity : p.quantity = q.quantity <;> cases settings.convertTermUnits <;>
      simp [Measure.factorTo?, hquantity]

end Gridded
