import Gridded.Calendar.Reader
import Gridded.Proofs.Text.Readers

/-!
# Written fields

What the readers find in the numbers that dates are written with: any number that fills no more than its
width is found in it, whatever stands behind it.

* `Date.ofDigits_padded`, `Date.length_padded`: the value and the length of a padded number;
* `TimeFields.lt_hundred_of_isValid`: the fields that have two digits;
* `Reader.number_padded`, `Reader.field_padded`: reading it;
* `Reader.year_yearText`, `Reader.date_text`: reading a year and a date.
-/

namespace Gridded

/-! ### Padded numbers and years -/

namespace Date

variable {width n : Nat}

theorem toList_padded (width n : Nat) : (padded width n).toList =
    List.replicate (width - (Nat.toDigits 10 n).length) '0' ++ Nat.toDigits 10 n := by
  simp [padded]

theorem isDigit_of_mem_padded : ∀ c ∈ (padded width n).toList, c.isDigit = true := by
  intro c hc
  rw [toList_padded, List.mem_append] at hc
  rcases hc with hzero | hdigit
  · rw [List.eq_of_mem_replicate hzero]
    rfl
  · exact Nat.isDigit_of_mem_toDigits (by decide) (by decide) hdigit

/-- The zeros before a number do not change it. -/
theorem ofDigits_padded : Numeral.ofDigits (padded width n).toList = n := by
  have hfold : ∀ digits, Numeral.ofDigits digits = Nat.ofDigitChars 10 digits 0 :=
    fun digits => Nat.ofDigitChars_eq_foldl.symm
  rw [hfold, toList_padded, Nat.ofDigitChars_append, Nat.ofDigitChars_replicate_zero, Nat.mul_zero,
    Nat.ofDigitChars_toDigits (by decide) (by decide)]

theorem one_le_length_padded : 1 ≤ (padded width n).toList.length := by
  have hpos : 0 < (Nat.toDigits 10 n).length := Nat.length_toDigits_pos
  rw [toList_padded, List.length_append]
  omega

theorem length_padded (hwidth : 0 < width) (h : n < 10 ^ width) :
    (padded width n).toList.length = width := by
  have hle : (Nat.toDigits 10 n).length ≤ width := (Nat.length_toDigits_le_iff (by decide) hwidth).2 h
  rw [toList_padded, List.length_append, List.length_replicate, Nat.sub_add_cancel hle]

/-- A padded number starts with a digit. -/
theorem exists_padded_eq_cons (width n : Nat) :
    ∃ c chars, c.isDigit = true ∧ (padded width n).toList = c :: chars := by
  have hpos : 0 < (padded width n).toList.length := one_le_length_padded
  obtain ⟨c, chars, hcons⟩ := List.exists_cons_of_length_pos hpos
  exact ⟨c, chars, isDigit_of_mem_padded c (by rw [hcons]; exact List.mem_cons_self), hcons⟩

/-- A year outside 0 to 9999 starts with a sign. -/
theorem yearText_signed {y : Int} (h : ¬ (0 ≤ y ∧ y ≤ 9999)) :
    ∃ sign, (sign = '-' ∨ sign = '+') ∧ (yearText y).toList = sign :: (padded 4 y.natAbs).toList := by
  rw [yearText, if_neg h]
  split_ifs
  · exact ⟨'-', .inl rfl, String.toList_append⟩
  · exact ⟨'+', .inr rfl, String.toList_append⟩

theorem exists_yearText_eq_cons (y : Int) :
    ∃ c chars, Text.isBlank c = false ∧ (yearText y).toList = c :: chars := by
  by_cases hfour : 0 ≤ y ∧ y ≤ 9999
  · obtain ⟨c, chars, hc, hcons⟩ := exists_padded_eq_cons 4 y.toNat
    exact ⟨c, chars, Reader.isBlank_of_isDigit hc, by rw [yearText, if_pos hfour, hcons]⟩
  · obtain ⟨sign, hsign, hcons⟩ := yearText_signed hfour
    have hblank : Text.isBlank sign = false := by rcases hsign with rfl | rfl <;> decide
    exact ⟨sign, _, hblank, hcons⟩

theorem toList_text (d : Date) : d.text.toList = (yearText d.year).toList ++
    '-' :: ((padded 2 d.month).toList ++ '-' :: (padded 2 d.day).toList) := by
  simp [text]

end Date

/-! ### The digits of fields -/

theorem Date.monthLength_le (year : Int) (month : Nat) : monthLength year month ≤ 31 := by
  unfold monthLength
  split
  · split_ifs <;> decide
  all_goals decide

/-- The fields of a time have two digits, but for its year and its fraction. -/
theorem TimeFields.lt_hundred_of_isValid {f : TimeFields} (h : f.isValid = true) :
    (f.date.month < 100 ∧ f.date.day < 100) ∧ f.hour < 100 ∧ f.minute < 100 ∧ f.second < 100 := by
  have hlength := Date.monthLength_le f.date.year f.date.month
  simp only [isValid, Date.isValid, Bool.and_eq_true, decide_eq_true_eq] at h
  omega

/-! ### Reading -/

namespace Reader

open Date

variable {width n : Nat}

/-- A number that fills its width is read, whatever stands behind it. -/
theorem number_padded {least : Nat} (hwidth : 0 < width) (hleast : least ≤ width) (h : n < 10 ^ width)
    (rest : List Char) : number least width ((padded width n).toList ++ rest) = some (n, rest) := by
  have hlength := length_padded hwidth h
  rw [number_append isDigit_of_mem_padded (hlength.ge.trans' hleast) hlength.le (.inl hlength),
    ofDigits_padded]

theorem longNumber_padded {rest : List Char} (hnext : ∀ c ∈ rest.head?, c.isDigit = false) :
    longNumber ((padded width n).toList ++ rest) = some (n, rest) := by
  rw [longNumber_append isDigit_of_mem_padded one_le_length_padded hnext, ofDigits_padded]

theorem field_padded (h : n < 100) (rest : List Char) :
    field ((padded 2 n).toList ++ rest) = some (n, rest) := by
  have hread : number 1 2 ((padded 2 n).toList ++ rest) = some (n, rest) :=
    number_padded (by decide) (by decide) h rest
  obtain ⟨c, chars, hc, hcons⟩ := exists_padded_eq_cons 2 n
  rw [hcons, List.cons_append] at hread ⊢
  rw [field, bind_of_eq_some (blanks_cons (isBlank_of_isDigit hc) _), hread]

/-- A year without a sign has up to four digits. -/
theorem year_of_isDigit {c : Char} (hc : c.isDigit = true) (chars : List Char) :
    year (c :: chars) = (number 1 4 >>= fun n => pure (n : Int)) (c :: chars) := by
  have hminus : c ≠ '-' := by
    rintro rfl
    exact absurd hc (by decide)
  have hplus : c ≠ '+' := by
    rintro rfl
    exact absurd hc (by decide)
  rw [year.eq_3 _ (by simp [hminus]) (by simp [hplus])]

/-- A year is read back, with its sign if it has one, up to the character behind it. -/
theorem year_yearText (y : Int) {rest : List Char} (hnext : ∀ c ∈ rest.head?, c.isDigit = false) :
    year ((yearText y).toList ++ rest) = some (y, rest) := by
  unfold yearText
  split_ifs with hfour hneg
  · obtain ⟨c, chars, hc, hcons⟩ := exists_padded_eq_cons 4 y.toNat
    have hread : number 1 4 ((padded 4 y.toNat).toList ++ rest) = some (y.toNat, rest) :=
      number_padded (by decide) (by decide) (by omega) rest
    have hvalue : ((y.toNat : Nat) : Int) = y := Int.toNat_of_nonneg hfour.1
    rw [hcons, List.cons_append] at hread ⊢
    rw [year_of_isDigit hc, bind_of_eq_some hread, pure_apply, hvalue]
  · have hvalue : -((y.natAbs : Nat) : Int) = y := by omega
    have hsign : "-".toList = ['-'] := rfl
    rw [String.toList_append, List.append_assoc, hsign, List.singleton_append, year.eq_1,
      bind_of_eq_some (longNumber_padded hnext), pure_apply, hvalue]
  · have hvalue : ((y.natAbs : Nat) : Int) = y := by omega
    have hsign : "+".toList = ['+'] := rfl
    rw [String.toList_append, List.append_assoc, hsign, List.singleton_append, year.eq_2,
      bind_of_eq_some (longNumber_padded hnext), pure_apply, hvalue]

/-- A date is read back, whatever its year. -/
theorem date_text {d : Date} (hmonth : d.month < 100) (hday : d.day < 100) (rest : List Char) :
    date false (d.text.toList ++ rest) = some (d, rest) := by
  obtain ⟨c, chars, hc, hcons⟩ := exists_yearText_eq_cons d.year
  have hyear : ∀ rest, year (c :: (chars ++ '-' :: rest)) = some (d.year, '-' :: rest) := by
    intro rest
    rw [← List.cons_append, ← hcons]
    exact year_yearText d.year (by simp)
  rw [toList_text, hcons]
  simp only [date, bind_apply, List.cons_append, List.append_assoc, blanks_cons hc, Option.bind_some,
    hyear, Bool.false_eq_true, if_false, pure_apply, char_cons, field_padded hmonth, field_padded hday]

end Reader

end Gridded
