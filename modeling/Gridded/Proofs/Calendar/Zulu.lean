import Mathlib.Data.List.Infix
import Gridded.Proofs.Calendar.Instants

/-!
# Texts with the letter of universal time

A text without a zone is in universal time. Any number of letters `Z` behind it says so again, if it has a
time of day. Behind a date alone there may be no such letter.

* `Reader.IsDateChar`, `Reader.spends_date`, `Reader.spends_dateTime`, `Reader.needs_dateTime`: the
  characters of dates, and those of the forms without a zone;
* `Reader.strictTime`, `Reader.zoned_eq`: the strict form without its fraction and its zone;
* `Reader.dateTime_of_strictTime`: what is in that form is in one without a zone as well;
* `Instant.endsInZone`, `Instant.zulu`: texts with a zone at their end, and the letters behind a text;
* `Instant.ofText?_append_zulu`: what the letters change.
-/

namespace Gridded

namespace Reader

/-! ### The characters of dates -/

/-- A digit, white space or a sign. -/
def IsDateChar (c : Char) : Prop :=
  c.isDigit = true ∨ Text.isBlank c = true ∨ c ∈ ['-', '+']

instance : DecidablePred IsDateChar := fun _ => inferInstanceAs (Decidable (_ ∨ _ ∨ _))

theorem IsDateChar.of_isDigit {c : Char} (h : c.isDigit = true) : IsDateChar c := .inl h

theorem IsDateChar.of_isBlank {c : Char} (h : Text.isBlank c = true) : IsDateChar c := .inr (.inl h)

theorem spends_field : field.Spends IsDateChar :=
  (spends_blanks.mono fun _ => .of_isBlank).bind fun _ => (spends_number 1 2).mono fun _ => .of_isDigit

theorem spends_year : year.Spends IsDateChar := by
  intro chars y rest h
  have hlong : ∀ (sign : Char) (tail : List Char) (value : Nat → Int), sign ∈ ['-', '+'] →
      (longNumber >>= fun n => pure (value n)) tail = some (y, rest) →
        ∃ used, sign :: tail = used ++ rest ∧ ∀ c ∈ used, IsDateChar c := by
    intro sign tail value hsign hread
    obtain ⟨used, rfl, hused⟩ := (spends_longNumber.bind fun n => .pure (value n)) hread
    exact ⟨sign :: used, rfl, List.forall_mem_cons.2
      ⟨.inr (.inr hsign), fun c hc => .of_isDigit (hused c hc)⟩⟩
  unfold year at h
  split at h
  · exact hlong '-' _ _ (by decide) h
  · exact hlong '+' _ _ (by decide) h
  · exact (((spends_number 1 4).bind fun n => .pure (n : Int)).mono fun _ => .of_isDigit) h

theorem date_eq : date false = (do
    blanks
    let y ← year
    char '-'
    let m ← field
    char '-'
    return ⟨y, m, ← field⟩) := rfl

theorem spends_dash : (char '-').Spends IsDateChar :=
  (spends_char '-').mono fun _ hc => hc ▸ by decide

theorem spends_date : (date false).Spends IsDateChar := by
  rw [date_eq]
  exact (spends_blanks.mono fun _ => .of_isBlank).bind fun _ => spends_year.bind fun _ =>
    spends_dash.bind fun _ => spends_field.bind fun _ => spends_dash.bind fun _ =>
      spends_field.bind fun _ => .pure _

/-- A digit, white space, a sign or what separates the parts of a time of day. -/
def IsTimeChar (c : Char) : Prop :=
  IsDateChar c ∨ c ∈ [':', 'T']

instance : DecidablePred IsTimeChar := fun _ => inferInstanceAs (Decidable (_ ∨ _))

section Local

variable {separator : Reader Unit} (hseparator : separator.Spends IsTimeChar) (withSeconds : Bool)

theorem spends_colon : (char ':').Spends IsTimeChar :=
  (spends_char ':').mono fun _ hc => hc ▸ by decide

include hseparator

theorem spends_dateTime : (dateTime separator withSeconds).Spends IsTimeChar := by
  have hfield : field.Spends IsTimeChar := spends_field.mono fun _ => .inl
  refine (spends_date.mono fun _ => .inl).bind fun d => hseparator.bind fun _ => hfield.bind fun hour =>
    spends_colon.bind fun _ => hfield.bind fun minute => ?_
  cases withSeconds with
  | true => exact spends_colon.bind fun _ => hfield.bind fun _ => .pure _
  | false => exact .pure _

theorem needs_dateTime : (dateTime separator withSeconds).Needs ':' :=
  spends_date.needs_bind fun _ => hseparator.needs_bind fun _ => spends_field.needs_bind fun _ =>
    (needs_char ':').bind

end Local

/-! ### The strict form -/

/-- Read a date with four digits and two and two. -/
def strictDate : Reader Date := do
  let year ← number 4 4
  char '-'
  let month ← number 2 2
  char '-'
  return ⟨year, month, ← number 2 2⟩

/-- Read such a date and a time of day with two digits for each of its parts. -/
def strictTime (separator : Reader Unit) : Reader TimeFields := do
  let d ← strictDate
  separator
  let hour ← number 2 2
  char ':'
  let minute ← number 2 2
  char ':'
  return ⟨d, hour, minute, ← number 2 2, 0⟩

/-- The characters that may stand between a date and a time of day. -/
def separators : List Char := ['T', 't', ' ']

theorem zoned_eq : zoned = (do
    let f ← strictTime (oneOf separators)
    let nanos ← fraction?
    let zone ← offset (char ':')
    return ({ f with nanos := nanos }, zone)) := by
  simp only [zoned, strictTime, strictDate, separators, bind_assoc, pure_bind]

/-- A digit or what stands between the digits of a date or of a time of day. -/
def IsStrictChar (c : Char) : Prop :=
  c.isDigit = true ∨ c ∈ ['-', ':']

instance : DecidablePred IsStrictChar := fun _ => inferInstanceAs (Decidable (_ ∨ _))

theorem exact_strictDate : strictDate.Exact :=
  (exact_number 4).bind fun _ => (exact_char '-').bind fun _ => (exact_number 2).bind fun _ =>
    (exact_char '-').bind fun _ => (exact_number 2).bind fun _ => .pure _

theorem exact_strictTime {separator : Reader Unit} (h : separator.Exact) : (strictTime separator).Exact :=
  exact_strictDate.bind fun _ => h.bind fun _ => (exact_number 2).bind fun _ => (exact_char ':').bind fun _ =>
    (exact_number 2).bind fun _ => (exact_char ':').bind fun _ => (exact_number 2).bind fun _ => .pure _

section Strict

variable {chars rest : List Char} {n : Nat}

theorem blanks_of_number {width : Nat} (hwidth : 0 < width) (h : number width width chars = some (n, rest)) :
    blanks chars = some ((), chars) := by
  obtain ⟨found, ⟨hfound, hlength⟩, rfl, -⟩ := number_eq_some h
  obtain ⟨c, found', rfl⟩ := List.exists_cons_of_length_pos (hlength ▸ hwidth)
  exact blanks_cons (isBlank_of_isDigit (hfound c List.mem_cons_self)) _

theorem field_of_number (h : number 2 2 chars = some (n, rest)) : field chars = some (n, rest) := by
  rw [field, bind_of_eq_some (blanks_of_number (by decide) h)]
  obtain ⟨found, ⟨hfound, hlength⟩, rfl, rfl⟩ := number_eq_some h
  exact number_append hfound (by omega) hlength.le (.inl hlength)

theorem year_of_number (h : number 4 4 chars = some (n, rest)) : year chars = some ((n : Int), rest) := by
  obtain ⟨found, ⟨hfound, hlength⟩, rfl, rfl⟩ := number_eq_some h
  have hread : number 1 4 (found ++ rest) = some (Numeral.ofDigits found, rest) :=
    number_append hfound (by omega) hlength.le (.inl hlength)
  obtain ⟨c, found', rfl⟩ := List.exists_cons_of_length_pos (by omega : 0 < found.length)
  rw [List.cons_append] at hread ⊢
  rw [year_of_isDigit (hfound c List.mem_cons_self), bind_of_eq_some hread]
  rfl

theorem date_of_strictDate {d : Date} (h : strictDate chars = some (d, rest)) :
    date false chars = some (d, rest) := by
  obtain ⟨y, _, hyear, h⟩ := bind_eq_some_iff.1 h
  obtain ⟨⟨⟩, _, hdash, h⟩ := bind_eq_some_iff.1 h
  obtain ⟨m, _, hmonth, h⟩ := bind_eq_some_iff.1 h
  obtain ⟨⟨⟨⟩, _⟩, hdash', h⟩ := Option.bind_eq_some_iff.1 h
  obtain ⟨day, _, hday, h⟩ := bind_eq_some_iff.1 h
  obtain ⟨rfl, rfl⟩ := Prod.mk.inj (Option.some.inj h)
  rw [date_eq, bind_of_eq_some (blanks_of_number (by decide) hyear),
    bind_of_eq_some (year_of_number hyear), bind_of_eq_some hdash,
    bind_of_eq_some (field_of_number hmonth), bind_of_eq_some hdash',
    bind_of_eq_some (field_of_number hday)]
  rfl

/-- What is in the strict form is in the form without a zone that has the same separator. -/
theorem dateTime_of_strictTime {strict separator : Reader Unit} {f : TimeFields}
    (hseparator : ∀ {chars mid n rest}, strict chars = some ((), mid) → number 2 2 mid = some (n, rest) →
      separator chars = some ((), mid))
    (h : strictTime strict chars = some (f, rest)) :
    dateTime separator true chars = some (f, rest) := by
  obtain ⟨d, _, hdate, h⟩ := bind_eq_some_iff.1 h
  obtain ⟨⟨⟩, _, hstrict, h⟩ := bind_eq_some_iff.1 h
  obtain ⟨hour, _, hhour, h⟩ := bind_eq_some_iff.1 h
  obtain ⟨⟨⟩, _, hcolon, h⟩ := bind_eq_some_iff.1 h
  obtain ⟨minute, _, hminute, h⟩ := bind_eq_some_iff.1 h
  obtain ⟨⟨⟨⟩, _⟩, hcolon', h⟩ := Option.bind_eq_some_iff.1 h
  obtain ⟨second, _, hsecond, h⟩ := bind_eq_some_iff.1 h
  obtain ⟨rfl, rfl⟩ := Prod.mk.inj (Option.some.inj h)
  rw [dateTime, bind_of_eq_some (date_of_strictDate hdate), bind_of_eq_some (hseparator hstrict hhour),
    bind_of_eq_some (field_of_number hhour), bind_of_eq_some hcolon,
    bind_of_eq_some (field_of_number hminute), if_pos rfl, bind_of_eq_some hcolon',
    bind_of_eq_some (field_of_number hsecond)]
  rfl

theorem blanks_of_space {mid : List Char} (h : char ' ' chars = some ((), mid))
    (hnumber : number 2 2 mid = some (n, rest)) : blanks chars = some ((), mid) := by
  rw [char_eq_some h]
  exact blanks_of_number (by decide) hnumber

theorem exists_strictTime_char {choices : List Char} {f : TimeFields}
    (h : strictTime (oneOf choices) chars = some (f, rest)) :
    ∃ c ∈ choices, strictTime (char c) chars = some (f, rest) := by
  obtain ⟨d, _, hdate, hclock⟩ := bind_eq_some_iff.1 h
  obtain ⟨⟨⟩, mid, hone, htime⟩ := bind_eq_some_iff.1 hclock
  obtain ⟨c, hc, rfl⟩ := oneOf_eq_some hone
  exact ⟨c, hc, by rw [strictTime, bind_of_eq_some hdate, bind_of_eq_some (char_cons c mid), htime]⟩

theorem spends_strictTime {separator : Reader Unit} {P : Char → Prop} (h : separator.Spends P) :
    (strictTime separator).Spends fun c => IsStrictChar c ∨ P c := by
  have hnumber : ∀ width, (number width width).Spends fun c => IsStrictChar c ∨ P c :=
    fun width => (spends_number width width).mono fun _ hc => .inl (.inl hc)
  have hdash : (char '-').Spends fun c => IsStrictChar c ∨ P c :=
    (spends_char '-').mono fun _ hc => .inl (hc ▸ by decide)
  have hcolon : (char ':').Spends fun c => IsStrictChar c ∨ P c :=
    (spends_char ':').mono fun _ hc => .inl (hc ▸ by decide)
  have hdate : strictDate.Spends fun c => IsStrictChar c ∨ P c :=
    (hnumber 4).bind fun _ => hdash.bind fun _ => (hnumber 2).bind fun _ => hdash.bind fun _ =>
      (hnumber 2).bind fun _ => .pure _
  exact hdate.bind fun _ => (h.mono fun _ => .inr).bind fun _ => (hnumber 2).bind fun _ =>
    hcolon.bind fun _ => (hnumber 2).bind fun _ => hcolon.bind fun _ => (hnumber 2).bind fun _ => .pure _

theorem needs_strictTime {separator : Reader Unit} {P : Char → Prop} (h : separator.Spends P) :
    (strictTime separator).Needs ':' :=
  exact_strictDate.spends.needs_bind fun _ => h.needs_bind fun _ => (spends_number 2 2).needs_bind fun _ =>
    (needs_char ':').bind

theorem finds_strictTime (separator : Reader Unit) : (strictTime separator).Finds (·.nanos = 0) :=
  .bind fun _ => .bind fun _ => .bind fun _ => .bind fun _ => .bind fun _ => .bind fun _ =>
    .bind fun _ => .pure rfl

theorem needs_strictTime_char (c : Char) : (strictTime (char c)).Needs c :=
  exact_strictDate.spends.needs_bind fun _ => (needs_char c).bind

end Strict

/-! ### Fractions and zones -/

section Zones

variable {chars rest : List Char} {nanos : Nat}

/-- Without a point there is no fraction. -/
theorem fraction?_cases (h : fraction? chars = some (nanos, rest)) :
    '.' ∈ chars ∨ nanos = 0 ∧ chars = rest := by
  unfold fraction? at h
  split at h
  · exact .inl List.mem_cons_self
  · obtain ⟨rfl, rfl⟩ := Prod.mk.inj (Option.some.inj h)
    exact .inr ⟨rfl, rfl⟩

theorem spends_fraction : fraction.Spends (Char.isDigit · = true) := by
  refine (spends_digits 1 9).bind fun found => .bind ?_ fun _ => .pure _
  intro chars u rest h
  obtain ⟨-, rfl⟩ := Prod.mk.inj (Option.some.inj h)
  exact ⟨_, List.takeWhile_append_dropWhile.symm, fun c hc => List.mem_takeWhile_imp hc⟩

theorem spends_fraction? : fraction?.Spends fun _ => True := by
  intro chars nanos rest h
  unfold fraction? at h
  split at h
  · obtain ⟨used, rfl, -⟩ := spends_fraction h
    exact ⟨'.' :: used, rfl, fun _ _ => trivial⟩
  · obtain ⟨-, rfl⟩ := Prod.mk.inj (Option.some.inj h)
    exact ⟨[], rfl, fun _ _ => trivial⟩

theorem spends_hoursAndMinutes (value : Nat → Nat → Int) : Spends (do
    let hours ← number 2 2
    char ':'
    let minutes ← number 2 2
    guard (hours < 24 ∧ minutes < 60)
    return value hours minutes) IsStrictChar := by
  have hnumber : (number 2 2).Spends IsStrictChar := (spends_number 2 2).mono fun _ => .inl
  have hcolon : (char ':').Spends IsStrictChar := (spends_char ':').mono fun _ hc => hc ▸ by decide
  exact hnumber.bind fun _ => hcolon.bind fun _ => hnumber.bind fun _ => (spends_guard _).bind fun _ =>
    .pure _

/-- A zone in which there is a letter `Z` is that letter. -/
theorem offset_of_mem {zone : Int} (h : (offset (char ':')).all? chars = some zone) (hmem : 'Z' ∈ chars) :
    chars = ['Z'] ∧ zone = 0 := by
  have hread := all?_eq_some_iff.1 h
  unfold offset at hread
  split at hread
  · cases hread
  · rename_i mark tail
    split at hread
    · obtain ⟨rfl, rfl⟩ := Prod.mk.inj (Option.some.inj hread)
      obtain rfl := List.mem_singleton.1 hmem
      exact ⟨rfl, rfl⟩
    split at hread
    · -- Behind a sign there is no letter.
      rename_i hsign
      have htail := (spends_hoursAndMinutes fun hours minutes =>
        if mark = '+' then (hours * 60 + minutes) * 60 else -((hours * 60 + minutes) * 60)).all?
          (all?_eq_some_iff.2 hread)
      rcases List.mem_cons.1 hmem with rfl | hmem
      · exact absurd hsign (by decide)
      · exact absurd (htail 'Z' hmem) (by decide)
    · cases hread

/-- The strict form is that of its time, of its fraction and of its zone. -/
theorem exists_of_zoned {f : TimeFields} {zone : Int} (h : zoned.all? chars = some (f, zone)) :
    ∃ time nanos mid after, strictTime (oneOf separators) chars = some (time, mid) ∧
      fraction? mid = some (nanos, after) ∧ (offset (char ':')).all? after = some zone ∧
      f = { time with nanos := nanos } := by
  have hread := all?_eq_some_iff.1 h
  rw [zoned_eq] at hread
  obtain ⟨time, mid, htime, hread⟩ := bind_eq_some_iff.1 hread
  obtain ⟨nanos, after, hnanos, hread⟩ := bind_eq_some_iff.1 hread
  obtain ⟨zone', rest, hzone, hread⟩ := bind_eq_some_iff.1 hread
  simp only [pure_apply, Option.some.injEq, Prod.mk.injEq] at hread
  obtain ⟨⟨rfl, rfl⟩, rfl⟩ := hread
  exact ⟨time, nanos, mid, after, htime, hnanos, all?_eq_some_iff.2 hzone, rfl⟩

end Zones

end Reader

namespace Instant

open Reader

/-! ### Letters behind a text -/

/-- Whether some end of the text is a zone: a letter, or an offset from universal time. -/
def endsInZone (text : String) : Bool :=
  text.toList.tails.any fun zone => ((Reader.offset (.char ':')).all? zone).isSome

/-- So many letters `Z`. -/
def zulu (n : Nat) : String := String.ofList (List.replicate n 'Z')

/-- Whether the text is a date without a time of day. -/
def isDateAlone (text : String) : Bool :=
  ((Reader.date false).all? text.toList).isSome

variable {text : String} {chars : List Char} {t : Instant} {n : Nat}

theorem toList_append_zulu (text : String) (n : Nat) :
    (text ++ zulu n).toList = text.toList ++ List.replicate n 'Z' := by
  rw [String.toList_append, zulu, String.toList_ofList]

theorem dropZulu_append (chars : List Char) (n : Nat) :
    dropZulu (chars ++ List.replicate n 'Z') = dropZulu chars := by
  unfold dropZulu
  rw [List.reverse_append, List.reverse_replicate, List.dropWhile_append_of_pos]
  intro c hc
  exact decide_eq_true (List.eq_of_mem_replicate hc)

theorem endsInZone_iff : endsInZone text = true ↔
    ∃ before zone offset, text.toList = before ++ zone ∧
      (Reader.offset (.char ':')).all? zone = some offset := by
  simp only [endsInZone, List.any_eq_true, List.mem_tails, Option.isSome_iff_exists]
  constructor
  · rintro ⟨zone, ⟨before, hbefore⟩, offset, h⟩
    exact ⟨before, zone, offset, hbefore.symm, h⟩
  · rintro ⟨before, zone, offset, htext, h⟩
    exact ⟨zone, ⟨before, htext.symm⟩, offset, h⟩

section Unzoned

variable (hzone : endsInZone text = false)

include hzone

theorem dropZulu_of_unzoned : dropZulu text.toList = text.toList := by
  rcases List.eq_nil_or_concat text.toList with hnil | ⟨init, c, hlast⟩
  · rw [hnil]
    rfl
  · rw [List.concat_eq_append] at hlast
    have hc : c ≠ 'Z' := by
      rintro rfl
      rw [endsInZone_iff.2 ⟨init, ['Z'], 0, hlast, rfl⟩] at hzone
      cases hzone
    rw [hlast]
    simp [dropZulu, hc]

theorem ofZoned?_of_unzoned : ofZoned? text = none := by
  have hnone : Reader.zoned.all? text.toList = none := by
    refine Option.eq_none_iff_forall_ne_some.2 fun ⟨f, zone⟩ h => ?_
    obtain ⟨time, nanos, mid, after, htime, hnanos, hoffset, -⟩ := exists_of_zoned h
    obtain ⟨used, hused, -⟩ := exact_strictTime (exact_oneOf _) htime
    obtain ⟨used', hused', -⟩ := spends_fraction? hnanos
    have hends : text.toList = (used ++ used') ++ after := by rw [hused, hused', List.append_assoc]
    rw [endsInZone_iff.2 ⟨_, after, zone, hends, hoffset⟩] at hzone
    cases hzone
  rw [ofZoned?, hnone]
  rfl

end Unzoned

/-- The characters of a text that is in a form without a zone. -/
theorem chars_of_localForms (h : (localForms.findSome? fun form => ofLocal? form chars) = some t) :
    (∀ c ∈ chars, IsTimeChar c) ∧ ':' ∈ chars := by
  have hT : (Reader.char 'T').Spends IsTimeChar := (spends_char 'T').mono fun _ hc => hc ▸ by decide
  have hblanks : Reader.blanks.Spends IsTimeChar := spends_blanks.mono fun _ hc => .inl (.of_isBlank hc)
  have hforms : ∀ form ∈ localForms, form.Spends IsTimeChar ∧ form.Needs ':' := by
    intro form hform
    simp only [localForms, List.mem_cons, List.not_mem_nil, or_false] at hform
    rcases hform with rfl | rfl | rfl | rfl
    · exact ⟨spends_dateTime hT true, needs_dateTime hT true⟩
    · exact ⟨spends_dateTime hblanks true, needs_dateTime hblanks true⟩
    · exact ⟨spends_dateTime hT false, needs_dateTime hT false⟩
    · exact ⟨spends_dateTime hblanks false, needs_dateTime hblanks false⟩
  obtain ⟨form, hform, hlocal⟩ := List.exists_of_findSome?_eq_some h
  obtain ⟨f, hread, -⟩ := Option.bind_eq_some_iff.1 hlocal
  exact ⟨(hforms form hform).1.all? hread, (hforms form hform).2.all? hread⟩

/-- Letters that end in just one, behind what has none, are that one. -/
theorem eq_of_append_zulu {used : List Char} (hn : 1 ≤ n) (hused : 'Z' ∉ used)
    (h : chars ++ List.replicate n 'Z' = used ++ ['Z']) : chars = used := by
  obtain ⟨k, rfl⟩ : ∃ k, n = k + 1 := ⟨n - 1, by omega⟩
  rw [List.replicate_succ', ← List.append_assoc, List.append_cancel_right_eq] at h
  obtain rfl : k = 0 := by
    by_contra hk
    exact hused (h ▸ List.mem_append_right chars (by simp [hk]))
  rwa [List.replicate_zero, List.append_nil] at h

/-- If letters make the strict form of a text without a zone, they are its zone, and the text has a time in
that form. -/
theorem strictTime_of_zoned {f : TimeFields} {zone : Int} (hchars : ∀ c ∈ chars, IsTimeChar c)
    (hn : 1 ≤ n) (h : Reader.zoned.all? (chars ++ List.replicate n 'Z') = some (f, zone)) :
    (strictTime (oneOf separators)).all? chars = some f ∧ zone = 0 := by
  obtain ⟨time, nanos, mid, after, htime, hnanos, hoffset, rfl⟩ := exists_of_zoned h
  obtain ⟨used, hused, hspent⟩ := spends_strictTime (spends_oneOf separators) htime
  have hnoZ : 'Z' ∉ used := fun hmem => absurd (hspent 'Z' hmem) (by decide)
  have hnoPoint : '.' ∉ mid := by
    intro hmem
    have hall : '.' ∈ chars ++ List.replicate n 'Z' := hused ▸ List.mem_append_right used hmem
    rcases List.mem_append.1 hall with hpoint | hpoint
    · exact absurd (hchars '.' hpoint) (by decide)
    · exact absurd (List.eq_of_mem_replicate hpoint) (by decide)
  obtain ⟨rfl, rfl⟩ := (fraction?_cases hnanos).resolve_left hnoPoint
  have hZ : 'Z' ∈ mid := by
    have hall : 'Z' ∈ used ++ mid :=
      hused ▸ List.mem_append_right chars (List.mem_replicate.2 ⟨by omega, rfl⟩)
    exact (List.mem_append.1 hall).resolve_left hnoZ
  obtain ⟨rfl, rfl⟩ := offset_of_mem hoffset hZ
  obtain rfl := eq_of_append_zulu hn hnoZ hused
  -- What is read of the text with its letters is read of the text alone.
  obtain ⟨used, hused', hexact⟩ := exact_strictTime (exact_oneOf separators) htime
  obtain rfl : chars = used := List.append_cancel_right (hused.symm.trans hused')
  have halone : (strictTime (oneOf separators)).all? chars = some time := by
    rw [all?_eq_some_iff]
    simpa using hexact []
  have hwhole : time.nanos = 0 := finds_strictTime _ htime
  rw [halone, ← hwhole]
  exact ⟨rfl, rfl⟩

/-- A time in the strict form, without a zone, is the one that the forms without a zone read. -/
theorem findSome?_of_strictTime {f : TimeFields} (hchars : ∀ c ∈ chars, IsTimeChar c)
    (h : (strictTime (oneOf separators)).all? chars = some f) (hinstant : f.toInstant? 0 = some t) :
    (localForms.findSome? fun form => ofLocal? form chars) = some t := by
  have hlocal : ∀ {form : Reader TimeFields}, form chars = some (f, []) → ofLocal? form chars = some t := by
    intro form hread
    rw [ofLocal?, all?_eq_some_iff.2 hread]
    exact hinstant
  obtain ⟨c, hc, hstrict⟩ := exists_strictTime_char (all?_eq_some_iff.1 h)
  simp only [separators, List.mem_cons, List.not_mem_nil, or_false] at hc
  rcases hc with rfl | rfl | rfl
  · rw [localForms, List.findSome?_cons, hlocal (dateTime_of_strictTime (fun hT _ => hT) hstrict)]
  · exact absurd (hchars 't' (needs_strictTime_char 't' hstrict)) (by decide)
  · -- The first form needs a letter between the date and the time of day.
    have hfirst : ofLocal? (.dateTime (.char 'T') true) chars = none := by
      refine Option.eq_none_iff_forall_ne_some.2 fun t' ht' => ?_
      obtain ⟨f', hread, -⟩ := Option.bind_eq_some_iff.1 ht'
      have hneeds : (dateTime (.char 'T') true).Needs 'T' :=
        spends_date.needs_bind fun _ => (needs_char 'T').bind
      have hspends := (spends_strictTime (spends_char ' ')).all? (all?_eq_some_iff.2 hstrict)
      exact absurd (hspends 'T' (hneeds.all? hread)) (by decide)
    have hsecond := hlocal (dateTime_of_strictTime (fun hspace hhour => blanks_of_space hspace hhour) hstrict)
    rw [localForms, List.findSome?_cons, hfirst, List.findSome?_cons, hsecond]

/-- Letters behind a time of day change nothing. -/
theorem ofText?_append_zulu_of_local (hzone : endsInZone text = false)
    (hlocal : (localForms.findSome? fun form => ofLocal? form text.toList) = some t) (hn : 1 ≤ n) :
    ofText? (text ++ zulu n) = some t := by
  have hchars := (chars_of_localForms hlocal).1
  have hzoned : ofZoned? (text ++ zulu n) = none ∨ ofZoned? (text ++ zulu n) = some t := by
    refine or_iff_not_imp_left.2 fun hne => ?_
    obtain ⟨t', ht'⟩ := Option.ne_none_iff_exists'.1 hne
    obtain ⟨⟨f, zone⟩, hread, hinstant⟩ := Option.bind_eq_some_iff.1 ht'
    rw [toList_append_zulu] at hread
    obtain ⟨hstrict, rfl⟩ := strictTime_of_zoned hchars hn hread
    rw [ht', ← hlocal, findSome?_of_strictTime hchars hstrict hinstant]
  rw [ofText?, toList_append_zulu, dropZulu_append, dropZulu_of_unzoned hzone, hlocal]
  rcases hzoned with hzoned | hzoned <;> rw [hzoned] <;> rfl

/-- Letters behind a date alone make it unreadable. -/
theorem ofText?_append_zulu_of_date (hzone : endsInZone text = false) (hdate : isDateAlone text = true)
    (hn : 1 ≤ n) : ofText? (text ++ zulu n) = none := by
  obtain ⟨d, hd⟩ := Option.isSome_iff_exists.1 hdate
  have hchars : ∀ c ∈ text.toList, IsDateChar c := spends_date.all? hd
  have hcolon : ':' ∉ text.toList := fun hmem => absurd (hchars ':' hmem) (by decide)
  have hcolonZ : ':' ∉ text.toList ++ List.replicate n 'Z' := by
    refine fun hmem => (List.mem_append.1 hmem).elim hcolon fun hZ => ?_
    exact absurd (List.eq_of_mem_replicate hZ) (by decide)
  have hzoned : ofZoned? (text ++ zulu n) = none := by
    refine Option.eq_none_iff_forall_ne_some.2 fun t ht => ?_
    obtain ⟨⟨f, zone⟩, hread, -⟩ := Option.bind_eq_some_iff.1 ht
    obtain ⟨time, nanos, mid, after, htime, -⟩ := exists_of_zoned hread
    rw [toList_append_zulu] at htime
    exact hcolonZ (needs_strictTime (spends_oneOf separators) htime)
  have hlocal : (localForms.findSome? fun form => ofLocal? form text.toList) = none :=
    Option.eq_none_iff_forall_ne_some.2 fun t ht => hcolon (chars_of_localForms ht).2
  have halone : ofLocal? (do return { date := ← Reader.date false })
      (text.toList ++ List.replicate n 'Z') = none := by
    refine Option.eq_none_iff_forall_ne_some.2 fun t ht => ?_
    obtain ⟨f, hread, -⟩ := Option.bind_eq_some_iff.1 ht
    have hZ : 'Z' ∈ text.toList ++ List.replicate n 'Z' :=
      List.mem_append_right _ (List.mem_replicate.2 ⟨by omega, rfl⟩)
    exact absurd ((spends_date.bind fun _ => .pure _).all? hread 'Z' hZ) (by decide)
  rw [ofText?, hzoned, toList_append_zulu, dropZulu_append, dropZulu_of_unzoned hzone, hlocal]
  exact halone

/-- **Letters of universal time behind a text without a zone.** One of them, and any number of them, leaves a
time of day as it is. Behind a date alone a single one is too much already. -/
theorem ofText?_append_zulu (hzone : endsInZone text = false) (h : ofText? text = some t) (hn : 1 ≤ n) :
    ofText? (text ++ zulu n) = if isDateAlone text then none else some t := by
  split_ifs with hdate
  · exact ofText?_append_zulu_of_date hzone hdate hn
  · refine ofText?_append_zulu_of_local hzone ?_ hn
    have halone : ofLocal? (do return { date := ← Reader.date false }) text.toList = none := by
      refine Option.eq_none_iff_forall_ne_some.2 fun t ht => hdate ?_
      obtain ⟨f, hread, -⟩ := Option.bind_eq_some_iff.1 ht
      obtain ⟨d, mid, hd, hpure⟩ := bind_eq_some_iff.1 (all?_eq_some_iff.1 hread)
      obtain ⟨-, rfl⟩ := Prod.mk.inj (Option.some.inj hpure)
      exact Option.isSome_iff_exists.2 ⟨d, all?_eq_some_iff.2 hd⟩
    rw [ofText?, ofZoned?_of_unzoned hzone, dropZulu_of_unzoned hzone, Option.none_or] at h
    rcases Option.or_eq_some_iff.1 h with hlocal | ⟨-, hdateOnly⟩
    · exact hlocal
    · exact absurd hdateOnly (by rw [halone]; simp)

/-- Two letters behind a time of day, and one behind a date alone. -/
theorem ofText?_append_zulu_noon :
    (endsInZone "2024-01-15T12:00:00" = false ∧
      ofText? ("2024-01-15T12:00:00" ++ zulu 2) = some ⟨1705320000, 0⟩) ∧
    endsInZone "2024-01-15" = false ∧ ofText? ("2024-01-15" ++ zulu 1) = none := by
  have hnoon : ofText? "2024-01-15T12:00:00" = some ⟨1705320000, 0⟩ := by decide +kernel
  have hday : ofText? "2024-01-15" = some ⟨1705276800, 0⟩ := by decide +kernel
  have hnoonZone : endsInZone "2024-01-15T12:00:00" = false := by decide +kernel
  have hdayZone : endsInZone "2024-01-15" = false := by decide +kernel
  have htime : isDateAlone "2024-01-15T12:00:00" = false := by decide +kernel
  have halone : isDateAlone "2024-01-15" = true := by decide +kernel
  have htwo := ofText?_append_zulu hnoonZone hnoon (by decide : 1 ≤ 2)
  have hone := ofText?_append_zulu hdayZone hday le_rfl
  rw [htime, if_neg Bool.false_ne_true] at htwo
  rw [halone, if_pos rfl] at hone
  exact ⟨⟨hnoonZone, htwo⟩, hdayZone, hone⟩

/-- One letter may change what is read, and more than one may be read. -/
theorem not_zulu_once :
    (¬∀ (text : String) (t : Instant), endsInZone text = false → ofText? text = some t →
      ofText? (text ++ zulu 1) = some t) ∧
    ¬∀ (text : String) (t : Instant), endsInZone text = false → ofText? text = some t →
      ∀ n, 2 ≤ n → ofText? (text ++ zulu n) = none := by
  constructor
  · intro h
    have hsame := h "2024-01-15" ⟨1705276800, 0⟩ (by decide +kernel) (by decide +kernel)
    have hnone : ofText? ("2024-01-15" ++ zulu 1) = none := by decide +kernel
    rw [hnone] at hsame
    cases hsame
  · intro h
    have hnone := h "2024-01-15T12:00:00" ⟨1705320000, 0⟩ (by decide +kernel) (by decide +kernel) 2 le_rfl
    have hread : ofText? ("2024-01-15T12:00:00" ++ zulu 2) = some ⟨1705320000, 0⟩ := by decide +kernel
    rw [hread] at hnone
    cases hnone

end Instant

end Gridded
