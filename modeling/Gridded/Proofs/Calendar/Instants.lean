import Gridded.Proofs.Calendar.Days
import Gridded.Proofs.Calendar.Fields

/-!
# Instants read and written

An instant that is read lies where dates are computed with, and a leap second stands at the end of a minute.
Written to whole seconds it is read back without its fraction, in the strict form if its year has four digits
and in a form without a zone if its year has a sign.

* `Instant.Proper`: what holds of all instants that are read (`Instant.proper_of_ofText?`);
* `Instant.fields`: what is written of an instant, and `Instant.toInstant?_fields`: what that says;
* `Instant.wholeSecond`: an instant without its fraction of a second;
* `Instant.ofText?_secondsText`: reading what is written.
-/

namespace Gridded

/-! ### Instants that are read -/

/-- What holds of an instant that is read. -/
structure Instant.Proper (t : Instant) : Prop where
  /-- Dates are computed with on its day. -/
  inRange : t.inRange = true
  /-- It has less than two seconds of nanoseconds. -/
  nanos_lt : t.nanos < 2 * Instant.second
  /-- A leap second follows the last second of a minute. -/
  leap : t.isLeap = true → t.seconds % 60 = 59

/-- Fields that are read in a zone of whole minutes give a proper instant. -/
theorem TimeFields.proper_of_toInstant? {f : TimeFields} {offset : Int} {t : Instant}
    (h : f.toInstant? offset = some t) (hnanos : f.nanos < Instant.second) (hoffset : 60 ∣ offset) :
    t.Proper := by
  simp only [toInstant?, Option.bind_eq_bind, Option.bind_eq_some_iff, Instant.checked,
    Option.ite_none_right_eq_some, Option.some.injEq] at h
  obtain ⟨-, -, wall, ⟨-, rfl⟩, hrange, rfl⟩ := h
  refine ⟨hrange, ?_, fun hleap => ?_⟩
  · dsimp only
    split_ifs <;> omega
  · -- A fraction alone stays below a second, so the rest comes from second 60.
    have hsixty : f.second = 60 := by
      by_contra hsixty
      simp only [Instant.isLeap, if_neg hsixty, decide_eq_true_eq] at hleap
      omega
    simp only [hsixty, Instant.secondsOfDay]
    omega

namespace Reader

/-- A fraction is less than a second, since nine digits of it count. -/
theorem finds_fraction : fraction.Finds (· < Instant.second) := by
  refine (finds_digits 1 9).andThen fun found hfound => .bind fun _ => .pure ?_
  obtain ⟨hdigits, -, hmost⟩ := hfound
  calc Numeral.ofDigits found * Nat.pow 10 (9 - found.length)
      < 10 ^ found.length * 10 ^ (9 - found.length) :=
        Nat.mul_lt_mul_of_pos_right (Numeral.ofDigits_lt hdigits) (Nat.pow_pos (by decide))
    _ = 10 ^ 9 := by rw [← Nat.pow_add, Nat.add_sub_cancel' hmost]

theorem finds_fraction? : fraction?.Finds (· < Instant.second) := by
  intro chars nanos rest h
  unfold fraction? at h
  split at h
  · exact finds_fraction h
  · obtain ⟨rfl, -⟩ := Prod.mk.inj (Option.some.inj h)
    decide

/-- A zone is ahead or behind by whole minutes. -/
theorem finds_offset (separator : Reader Unit) : (offset separator).Finds (60 ∣ ·) := by
  intro chars zone rest h
  unfold offset at h
  split at h
  · cases h
  split at h
  · obtain ⟨rfl, -⟩ := Prod.mk.inj (Option.some.inj h)
    exact dvd_zero 60
  split at h
  · refine Finds.bind (fun hours => .bind fun _ => .bind fun minutes => .bind fun _ => .pure ?_) h
    split_ifs <;> omega
  · cases h

theorem finds_zoned : zoned.Finds fun found => found.1.nanos < Instant.second ∧ 60 ∣ found.2 := by
  refine .bind fun year => .bind fun _ => .bind fun month => .bind fun _ => .bind fun day =>
    .bind fun _ => .bind fun hour => .bind fun _ => .bind fun minute => .bind fun _ =>
    .bind fun second => finds_fraction?.andThen fun nanos hnanos => ?_
  exact (finds_offset _).andThen fun zone hzone => .pure ⟨hnanos, hzone⟩

/-- A time without a zone has no fraction. -/
theorem finds_dateTime (separator : Reader Unit) (withSeconds : Bool) :
    (dateTime separator withSeconds).Finds (·.nanos = 0) := by
  refine .bind fun d => .bind fun _ => .bind fun hour => .bind fun _ => .bind fun minute => ?_
  cases withSeconds with
  | true => exact .bind fun _ => .bind fun second => .pure rfl
  | false => exact .pure rfl

end Reader

namespace Instant

theorem proper_of_ofLocal? {reader : Reader TimeFields} (hreader : reader.Finds (·.nanos = 0))
    {chars : List Char} {t : Instant} (h : ofLocal? reader chars = some t) : t.Proper := by
  obtain ⟨f, hfields, hinstant⟩ := Option.bind_eq_some_iff.1 h
  have hnanos : f.nanos = 0 := hreader.all? hfields
  exact TimeFields.proper_of_toInstant? hinstant (by rw [hnanos]; decide) (dvd_zero 60)

theorem finds_of_mem_localForms : ∀ form ∈ localForms, form.Finds (·.nanos = 0) := by
  intro form hform
  simp only [localForms, List.mem_cons, List.not_mem_nil, or_false] at hform
  rcases hform with rfl | rfl | rfl | rfl <;> exact Reader.finds_dateTime _ _

/-- All instants that are read are proper. -/
theorem proper_of_ofText? {text : String} {t : Instant} (h : ofText? text = some t) : t.Proper := by
  simp only [ofText?, Option.or_eq_some_iff] at h
  rcases h with hzoned | ⟨-, hlocal | ⟨-, hdate⟩⟩
  · obtain ⟨⟨f, zone⟩, hfields, hinstant⟩ := Option.bind_eq_some_iff.1 hzoned
    obtain ⟨hnanos, hzone⟩ := Reader.finds_zoned.all? hfields
    exact TimeFields.proper_of_toInstant? hinstant hnanos hzone
  · obtain ⟨form, hform, hlocal⟩ := List.exists_of_findSome?_eq_some hlocal
    exact proper_of_ofLocal? (finds_of_mem_localForms form hform) hlocal
  · exact proper_of_ofLocal? (.bind fun d => .pure rfl) hdate

/-! ### What is written -/

/-- The fields that are written of an instant. A leap second is second 60. -/
def fields (t : Instant) : TimeFields :=
  ⟨Date.ofDays t.day, t.clock.toNat / 3600, t.clock.toNat / 60 % 60,
    t.clock.toNat % 60 + t.nanos / second, 0⟩

/-- The instant without its fraction of a second. A leap second stays one. -/
def wholeSecond (t : Instant) : Instant := ⟨t.seconds, t.nanos / second * second⟩

theorem wholeSecond_eq_self_iff (t : Instant) : t.wholeSecond = t ↔ t.nanos % second = 0 := by
  rw [wholeSecond, Instant.mk.injEq]
  have hsplit := Nat.div_add_mod' t.nanos second
  omega

section Fields

variable {t : Instant}

theorem clock_bounds (t : Instant) : 0 ≤ t.clock ∧ t.clock < 86400 := by
  unfold clock secondsOfDay
  omega

theorem isValid_fields (h : t.nanos < 2 * second) : t.fields.isValid = true := by
  have hclock := clock_bounds t
  have hleap : t.nanos / second < 2 := Nat.div_lt_of_lt_mul (by rwa [Nat.mul_comm])
  simp only [TimeFields.isValid, Bool.and_eq_true, decide_eq_true_eq]
  refine ⟨⟨⟨Date.isValid_ofDays t.day, ?_⟩, ?_⟩, ?_⟩ <;> dsimp only [fields] <;> omega

/-- The written time of day says the second of the day, and second 60 is written of leap seconds alone. -/
theorem clock_fields (h : t.Proper) :
    ((t.fields.hour * 3600 + t.fields.minute * 60 + min t.fields.second 59 : Nat) : Int) = t.clock ∧
      (if t.fields.second = 60 then second else 0) = t.nanos / second * second := by
  have hclock := clock_bounds t
  have hminutes : t.clock % 60 = t.seconds % 60 := by
    unfold clock secondsOfDay
    omega
  have hhour : t.fields.hour = t.clock.toNat / 3600 := rfl
  have hminute : t.fields.minute = t.clock.toNat / 60 % 60 := rfl
  have hsecond : t.fields.second = t.clock.toNat % 60 + t.nanos / second := rfl
  by_cases hleap : t.isLeap = true
  · have hlast := h.leap hleap
    have hone : t.nanos / second = 1 :=
      Nat.div_eq_of_lt_le (by simpa [isLeap] using hleap) (by simpa using h.nanos_lt)
    have hsixty : t.fields.second = 60 := by omega
    rw [if_pos hsixty, hone, Nat.one_mul]
    exact ⟨by omega, rfl⟩
  · have hzero : t.nanos / second = 0 := Nat.div_eq_of_lt (by simpa [isLeap] using hleap)
    have hsixty : t.fields.second ≠ 60 := by omega
    rw [if_neg hsixty, hzero, Nat.zero_mul]
    exact ⟨by omega, rfl⟩

/-- The fields of a proper instant say its whole second. -/
theorem toInstant?_fields (h : t.Proper) : t.fields.toInstant? 0 = some t.wholeSecond := by
  obtain ⟨hclock, hleap⟩ := clock_fields h
  have hchecked : checked t.wholeSecond = some t.wholeSecond := if_pos h.inRange
  have hwall : (⟨t.fields.date.toDays * secondsOfDay +
      (t.fields.hour * 3600 + t.fields.minute * 60 + min t.fields.second 59 : Nat),
      t.fields.nanos + if t.fields.second = 60 then second else 0⟩ : Instant) = t.wholeSecond := by
    have hdays : t.fields.date.toDays = t.day := Date.toDays_ofDays t.day
    have hnanos : t.fields.nanos = 0 := rfl
    rw [hclock, hleap, hdays, hnanos, Nat.zero_add, day, clock, Int.ediv_mul_add_emod]
    rfl
  rw [TimeFields.toInstant?, guard, if_pos (isValid_fields h.nanos_lt)]
  simp only [hwall, hchecked, Option.pure_def, Option.bind_eq_bind, Option.bind_some, sub_zero]

end Fields

/-! ### The written text -/

open Date Reader

theorem toList_localText (t : Instant) : t.localText.toList = t.fields.date.text.toList ++
    'T' :: ((padded 2 t.fields.hour).toList ++ ':' :: ((padded 2 t.fields.minute).toList ++
      ':' :: (padded 2 t.fields.second).toList)) := by
  simp [localText, clockText, fields]

theorem toList_secondsText (t : Instant) : t.secondsText.toList = t.localText.toList ++ ['Z'] := by
  simp [secondsText]

/-- The letter at the end is all that is dropped of a written instant. -/
theorem dropZulu_secondsText (t : Instant) : dropZulu t.secondsText.toList = t.localText.toList := by
  obtain ⟨init, c, hlast⟩ := (List.eq_nil_or_concat (padded 2 t.fields.second).toList).resolve_left
    (List.ne_nil_of_length_pos one_le_length_padded)
  rw [List.concat_eq_append] at hlast
  have hdigit : c.isDigit = true := isDigit_of_mem_padded c (by rw [hlast]; simp)
  have hc : c ≠ 'Z' := by
    rintro rfl
    exact absurd hdigit (by decide)
  rw [toList_secondsText, toList_localText, hlast]
  simp [dropZulu, hc]

section Reading

variable {t : Instant} (h : t.nanos < 2 * second)

include h

/-- Without its letter a written instant is a date and a time of day, whatever its year. -/
theorem dateTime_localText :
    (Reader.dateTime (.char 'T') true).all? t.localText.toList = some t.fields := by
  obtain ⟨⟨hmonth, hday⟩, hhour, hminute, hsecond⟩ := TimeFields.lt_hundred_of_isValid (isValid_fields h)
  have hlast : Reader.field (padded 2 t.fields.second).toList = some (t.fields.second, []) := by
    simpa using field_padded hsecond []
  have hread : Reader.dateTime (.char 'T') true t.localText.toList = some (t.fields, []) := by
    rw [toList_localText, Reader.dateTime, bind_of_eq_some (date_text hmonth hday _),
      bind_of_eq_some (char_cons _ _), bind_of_eq_some (field_padded hhour _),
      bind_of_eq_some (char_cons _ _), bind_of_eq_some (field_padded hminute _),
      if_pos rfl, bind_of_eq_some (char_cons _ _), bind_of_eq_some hlast]
    rfl
  simp only [Reader.all?, hread]

/-- With its letter it is in the strict form, if its year has four digits. -/
theorem zoned_secondsText (hyear : 0 ≤ t.fields.date.year ∧ t.fields.date.year ≤ 9999) :
    Reader.zoned.all? t.secondsText.toList = some (t.fields, 0) := by
  obtain ⟨⟨hmonth, hday⟩, hhour, hminute, hsecond⟩ := TimeFields.lt_hundred_of_isValid (isValid_fields h)
  have hread : Reader.zoned t.secondsText.toList = some ((t.fields, 0), []) := by
    have hfour : t.fields.date.year.toNat < 10 ^ 4 := by omega
    have hvalue : ((t.fields.date.year.toNat : Nat) : Int) = t.fields.date.year :=
      Int.toNat_of_nonneg hyear.1
    have htwo : ∀ {n : Nat}, n < 100 → ∀ rest,
        Reader.number 2 2 ((padded 2 n).toList ++ rest) = some (n, rest) :=
      fun hn rest => number_padded (by decide) le_rfl hn rest
    rw [toList_secondsText, toList_localText, toList_text, yearText, if_pos hyear]
    simp only [List.append_assoc, List.cons_append]
    rw [Reader.zoned, bind_of_eq_some (number_padded (by decide) le_rfl hfour _),
      bind_of_eq_some (char_cons _ _), bind_of_eq_some (htwo hmonth _),
      bind_of_eq_some (char_cons _ _), bind_of_eq_some (htwo hday _),
      bind_of_eq_some (oneOf_cons (by decide) _), bind_of_eq_some (htwo hhour _),
      bind_of_eq_some (char_cons _ _), bind_of_eq_some (htwo hminute _),
      bind_of_eq_some (char_cons _ _), bind_of_eq_some (htwo hsecond _), hvalue]
    rfl
  simp only [Reader.all?, hread]

end Reading

/-- A year with a sign is not in the strict form. -/
theorem zoned_secondsText_eq_none {t : Instant}
    (hyear : ¬ (0 ≤ t.fields.date.year ∧ t.fields.date.year ≤ 9999)) :
    Reader.zoned.all? t.secondsText.toList = none := by
  obtain ⟨sign, hsign, hcons⟩ := yearText_signed hyear
  have hdigit : sign.isDigit = false := by rcases hsign with rfl | rfl <;> decide
  have hread : Reader.zoned t.secondsText.toList = none := by
    rw [toList_secondsText, toList_localText, toList_text, hcons, Reader.zoned]
    refine bind_of_eq_none (bind_of_eq_none ?_)
    exact digits_cons_eq_none hdigit (by decide) _
  simp only [Reader.all?, hread]

/-- A proper instant written to whole seconds is read as its whole second. -/
theorem ofText?_secondsText {t : Instant} (h : t.Proper) : ofText? t.secondsText = some t.wholeSecond := by
  have hinstant := toInstant?_fields h
  by_cases hyear : 0 ≤ t.fields.date.year ∧ t.fields.date.year ≤ 9999
  · have hzoned : ofZoned? t.secondsText = some t.wholeSecond := by
      simp only [ofZoned?, zoned_secondsText h.nanos_lt hyear, Option.bind_eq_bind, Option.bind_some,
        hinstant]
    rw [ofText?, hzoned, Option.some_or]
  · have hzoned : ofZoned? t.secondsText = none := by
      simp only [ofZoned?, zoned_secondsText_eq_none hyear, Option.bind_eq_bind, Option.bind_none]
    have hlocal : ofLocal? (.dateTime (.char 'T') true) (dropZulu t.secondsText.toList) =
        some t.wholeSecond := by
      simp only [ofLocal?, dropZulu_secondsText, dateTime_localText h.nanos_lt, Option.bind_eq_bind,
        Option.bind_some, hinstant]
    rw [ofText?, hzoned, Option.none_or, localForms, List.findSome?_cons, hlocal, Option.some_or]

end Instant

end Gridded
