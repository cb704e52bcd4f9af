import Gridded.Text.Reader
import Mathlib.Algebra.Ring.Nat
import Mathlib.Data.List.Induction
import Mathlib.Data.List.TakeWhile

/-!
# Laws of readers

A reader takes what it reads off the front of a list of characters and leaves the rest.

* `Reader.digits_append`, `Reader.number_append`: digits with something else behind them;
* `Reader.Finds`: a property of all that a reader finds, as that of digits in `Reader.finds_digits`;
* `Reader.Spends`: a property of all characters that a reader takes;
* `Reader.Needs`: a character without which a reader finds nothing;
* `Reader.Exact`: what a reader takes does not depend on what is behind it;
* `Numeral.ofDigits_lt`: the size of a number with so many digits.
-/

namespace Gridded

/-- A number is below the power of ten that its digits fill. -/
theorem Numeral.ofDigits_lt {digits : List Char} (h : ∀ c ∈ digits, c.isDigit = true) :
    ofDigits digits < 10 ^ digits.length := by
  induction digits using List.reverseRecOn with
  | nil => exact Nat.one_pos
  | append_singleton digits c ih =>
    have hc := (Char.isDigit_iff_toNat.1 (h c (by simp))).2
    have hrest := ih fun d hd => h d (by simp [hd])
    have hlast : ofDigits (digits ++ [c]) = 10 * ofDigits digits + (c.toNat - '0'.toNat) := by
      simp [ofDigits]
    have hnine : c.toNat - '0'.toNat ≤ 9 := Nat.sub_le_of_le_add hc
    rw [hlast, List.length_append, Nat.pow_add]
    simp only [List.length_singleton]
    omega

namespace Reader

variable {β γ : Type}

theorem bind_apply (r : Reader β) (f : β → Reader γ) (chars : List Char) :
    (r >>= f) chars = (r chars).bind fun p => f p.1 p.2 := rfl

theorem pure_apply (b : β) (chars : List Char) : (pure b : Reader β) chars = some (b, chars) := rfl

theorem bind_eq_some_iff {r : Reader β} {f : β → Reader γ} {chars rest : List Char} {c : γ} :
    (r >>= f) chars = some (c, rest) ↔ ∃ b mid, r chars = some (b, mid) ∧ f b mid = some (c, rest) := by
  rw [bind_apply, Option.bind_eq_some_iff, Prod.exists]

theorem bind_of_eq_some {r : Reader β} {f : β → Reader γ} {chars mid : List Char} {b : β}
    (h : r chars = some (b, mid)) : (r >>= f) chars = f b mid := by
  rw [bind_apply, h, Option.bind_some]

theorem bind_of_eq_none {r : Reader β} {f : β → Reader γ} {chars : List Char} (h : r chars = none) :
    (r >>= f) chars = none := by
  rw [bind_apply, h, Option.bind_none]

@[simp] theorem char_cons (c : Char) (rest : List Char) : char c (c :: rest) = some ((), rest) := by
  simp [char]

theorem oneOf_cons {c : Char} {choices : List Char} (h : c ∈ choices) (rest : List Char) :
    oneOf choices (c :: rest) = some ((), rest) := by
  simp [oneOf, h]

theorem blanks_cons {c : Char} (h : Text.isBlank c = false) (rest : List Char) :
    blanks (c :: rest) = some ((), c :: rest) := by
  simp [blanks, Text.skipBlanks, h]

/-! ### Digits -/

theorem isBlank_of_isDigit {c : Char} (h : c.isDigit = true) : Text.isBlank c = false := by
  obtain ⟨hlow, hhigh⟩ := Char.isDigit_iff_toNat.1 h
  have hall : ∀ n < 58, 48 ≤ n → Text.inTable Text.blankTable n = false := by decide
  exact hall c.toNat (Nat.lt_succ_of_le hhigh) hlow

/-- Digits are read up to the greatest count, or to the first character that is none. -/
theorem digits_append {least most : Nat} {found rest : List Char} (hfound : ∀ c ∈ found, c.isDigit = true)
    (hleast : least ≤ found.length) (hmost : found.length ≤ most)
    (hnext : found.length = most ∨ ∀ c ∈ rest.head?, c.isDigit = false) :
    digits least most (found ++ rest) = some (found, rest) := by
  have hstop : (rest.take (most - found.length)).takeWhile Char.isDigit = [] := by
    rcases hnext with hfull | hnext
    · simp [hfull]
    · cases rest with
      | nil => simp
      | cons c rest =>
        have hc : c.isDigit = false := hnext c rfl
        cases most - found.length <;> simp [hc]
  have htaken : ((found ++ rest).take most).takeWhile Char.isDigit = found := by
    rw [List.take_append, List.take_of_length_le hmost, List.takeWhile_append_of_pos hfound, hstop,
      List.append_nil]
  simp only [digits, htaken, if_neg (Nat.not_lt.2 hleast), List.drop_left]

theorem number_append {least most : Nat} {found rest : List Char} (hfound : ∀ c ∈ found, c.isDigit = true)
    (hleast : least ≤ found.length) (hmost : found.length ≤ most)
    (hnext : found.length = most ∨ ∀ c ∈ rest.head?, c.isDigit = false) :
    number least most (found ++ rest) = some (Numeral.ofDigits found, rest) := by
  rw [number, bind_of_eq_some (digits_append hfound hleast hmost hnext)]
  rfl

theorem longNumber_append {found rest : List Char} (hfound : ∀ c ∈ found, c.isDigit = true)
    (hleast : 1 ≤ found.length) (hnext : ∀ c ∈ rest.head?, c.isDigit = false) :
    longNumber (found ++ rest) = some (Numeral.ofDigits found, rest) :=
  number_append hfound hleast (by simp) (.inr hnext)

/-- Fewer digits than are asked for are not read. -/
theorem digits_cons_eq_none {least most : Nat} {c : Char} (hc : c.isDigit = false) (hleast : 0 < least)
    (chars : List Char) : digits least most (c :: chars) = none := by
  have hnone : ((c :: chars).take most).takeWhile Char.isDigit = [] := by
    cases most <;> simp [hc]
  simp [digits, hnone, hleast]

/-! ### What readers find -/

/-- Whatever text it reads, the reader finds a value with a property. -/
def Finds (r : Reader β) (P : β → Prop) : Prop :=
  ∀ ⦃chars : List Char⦄ ⦃b : β⦄ ⦃rest : List Char⦄, r chars = some (b, rest) → P b

namespace Finds

variable {r : Reader β} {f : β → Reader γ} {P : β → Prop} {Q : γ → Prop}

theorem pure {b : β} (h : P b) : Finds (Pure.pure b) P := by
  rintro chars b' rest hread
  obtain ⟨rfl, -⟩ := Prod.mk.inj (Option.some.inj hread)
  exact h

/-- What the second reader finds, from what the first one finds. -/
theorem andThen (hr : Finds r P) (hf : ∀ b, P b → Finds (f b) Q) : Finds (r >>= f) Q := by
  intro chars c rest hread
  obtain ⟨⟨b, mid⟩, hfirst, hsecond⟩ := Option.bind_eq_some_iff.1 hread
  exact hf b (hr hfirst) hsecond

/-- What the second reader finds, whatever the first one finds. -/
theorem bind (hf : ∀ b, Finds (f b) Q) : Finds (r >>= f) Q :=
  andThen (P := fun _ => True) (fun _ _ _ _ => trivial) fun b _ => hf b

theorem all? (hr : Finds r P) {chars : List Char} {b : β} (h : r.all? chars = some b) : P b := by
  unfold Reader.all? at h
  split at h
  · next b' hread => exact Option.some.inj h ▸ hr hread
  · cases h

end Finds

/-- A reader of digits finds digits, as many as it asks for. -/
theorem finds_digits (least most : Nat) : (digits least most).Finds fun found =>
    (∀ c ∈ found, c.isDigit = true) ∧ least ≤ found.length ∧ found.length ≤ most := by
  intro chars found rest h
  dsimp only [digits] at h
  split_ifs at h with hleast
  obtain ⟨rfl, -⟩ := Prod.mk.inj (Option.some.inj h)
  refine ⟨fun c hc => List.mem_takeWhile_imp hc, Nat.not_lt.1 hleast, ?_⟩
  exact (List.takeWhile_prefix _).length_le.trans (List.length_take_le _ _)

/-! ### What readers take -/

section Taking

variable {r : Reader β} {f : β → Reader γ} {P Q : Char → Prop} {c : Char} {chars rest : List Char} {b : β}

/-- The reader takes characters with a property off the front of a text. -/
def Spends (r : Reader β) (P : Char → Prop) : Prop :=
  ∀ ⦃chars : List Char⦄ ⦃b : β⦄ ⦃rest : List Char⦄, r chars = some (b, rest) →
    ∃ used, chars = used ++ rest ∧ ∀ c ∈ used, P c

/-- The reader finds something only in texts with a certain character. -/
def Needs (r : Reader β) (c : Char) : Prop :=
  ∀ ⦃chars : List Char⦄ ⦃b : β⦄ ⦃rest : List Char⦄, r chars = some (b, rest) → c ∈ chars

/-- What the reader takes it takes as well with something else behind it. -/
def Exact (r : Reader β) : Prop :=
  ∀ ⦃chars : List Char⦄ ⦃b : β⦄ ⦃rest : List Char⦄, r chars = some (b, rest) →
    ∃ used, chars = used ++ rest ∧ ∀ tail, r (used ++ tail) = some (b, tail)

theorem all?_eq_some_iff : r.all? chars = some b ↔ r chars = some (b, []) := by
  unfold all?
  split
  · next found hread => rw [hread, Option.some.injEq, Option.some.injEq, Prod.mk.injEq, and_iff_left rfl]
  · next hnot => exact iff_of_false (fun h => by cases h) (hnot b)

namespace Spends

theorem mono (h : Spends r P) (hPQ : ∀ c, P c → Q c) : Spends r Q := by
  intro chars b rest hread
  obtain ⟨used, hused, hP⟩ := h hread
  exact ⟨used, hused, fun c hc => hPQ c (hP c hc)⟩

theorem pure (b : β) : Spends (Pure.pure b) P := by
  intro chars b' rest hread
  obtain ⟨-, rfl⟩ := Prod.mk.inj (Option.some.inj hread)
  exact ⟨[], rfl, List.forall_mem_nil P⟩

theorem bind (hr : Spends r P) (hf : ∀ b, Spends (f b) P) : Spends (r >>= f) P := by
  intro chars c rest hread
  obtain ⟨b, mid, hfirst, hsecond⟩ := bind_eq_some_iff.1 hread
  obtain ⟨used, rfl, hused⟩ := hr hfirst
  obtain ⟨used', rfl, hused'⟩ := hf b hsecond
  exact ⟨used ++ used', (List.append_assoc _ _ _).symm, List.forall_mem_append.2 ⟨hused, hused'⟩⟩

theorem all? (hr : Spends r P) (h : r.all? chars = some b) : ∀ c ∈ chars, P c := by
  obtain ⟨used, hused, hP⟩ := hr (all?_eq_some_iff.1 h)
  rw [hused, List.append_nil]
  exact hP

/-- What the second reader needs, the text has behind what the first one takes. -/
theorem needs_bind (hr : Spends r P) (hf : ∀ b, Needs (f b) c) : Needs (r >>= f) c := by
  intro chars c' rest hread
  obtain ⟨b, mid, hfirst, hsecond⟩ := bind_eq_some_iff.1 hread
  obtain ⟨used, rfl, -⟩ := hr hfirst
  exact List.mem_append_right used (hf b hsecond)

end Spends

namespace Needs

theorem bind (hr : Needs r c) : Needs (r >>= f) c := by
  intro chars c' rest hread
  obtain ⟨b, mid, hfirst, -⟩ := bind_eq_some_iff.1 hread
  exact hr hfirst

theorem all? (hr : Needs r c) (h : r.all? chars = some b) : c ∈ chars :=
  hr (all?_eq_some_iff.1 h)

end Needs

namespace Exact

theorem spends (hr : Exact r) : Spends r fun _ => True := by
  intro chars b rest hread
  obtain ⟨used, hused, -⟩ := hr hread
  exact ⟨used, hused, fun _ _ => trivial⟩

theorem pure (b : β) : Exact (Pure.pure b) := by
  intro chars b' rest hread
  obtain ⟨rfl, rfl⟩ := Prod.mk.inj (Option.some.inj hread)
  exact ⟨[], rfl, fun tail => rfl⟩

theorem bind (hr : Exact r) (hf : ∀ b, Exact (f b)) : Exact (r >>= f) := by
  intro chars c rest hread
  obtain ⟨b, mid, hfirst, hsecond⟩ := bind_eq_some_iff.1 hread
  obtain ⟨used, rfl, hused⟩ := hr hfirst
  obtain ⟨used', rfl, hused'⟩ := hf b hsecond
  refine ⟨used ++ used', (List.append_assoc _ _ _).symm, fun tail => ?_⟩
  rw [List.append_assoc, bind_of_eq_some (hused _), hused' tail]

end Exact

theorem oneOf_eq_some {choices : List Char} {u : Unit} (h : oneOf choices chars = some (u, rest)) :
    ∃ c ∈ choices, chars = c :: rest := by
  unfold oneOf at h
  split at h
  · split_ifs at h with hmem
    obtain ⟨-, rfl⟩ := Prod.mk.inj (Option.some.inj h)
    exact ⟨_, hmem, rfl⟩
  · cases h

theorem char_eq_some {u : Unit} (h : char c chars = some (u, rest)) : chars = c :: rest := by
  unfold char at h
  split at h
  · split_ifs at h with heq
    obtain ⟨-, rfl⟩ := Prod.mk.inj (Option.some.inj h)
    rw [heq]
  · cases h

theorem digits_eq_some {least most : Nat} {found : List Char}
    (h : digits least most chars = some (found, rest)) : chars = found ++ rest := by
  dsimp only [digits] at h
  split_ifs at h
  obtain ⟨rfl, rfl⟩ := Prod.mk.inj (Option.some.inj h)
  exact ((List.prefix_iff_eq_append.1 ((List.takeWhile_prefix _).trans (List.take_prefix _ _)))).symm

theorem spends_char (c : Char) : (char c).Spends (· = c) := fun chars _ rest h =>
  ⟨[c], char_eq_some h, by simp⟩

theorem spends_oneOf (choices : List Char) : (oneOf choices).Spends (· ∈ choices) := by
  intro chars u rest h
  obtain ⟨c, hc, rfl⟩ := oneOf_eq_some h
  exact ⟨[c], rfl, by simpa using hc⟩

theorem spends_blanks : blanks.Spends (Text.isBlank · = true) := by
  intro chars u rest h
  obtain ⟨-, rfl⟩ := Prod.mk.inj (Option.some.inj h)
  exact ⟨_, List.takeWhile_append_dropWhile.symm, fun c hc => List.mem_takeWhile_imp hc⟩

theorem spends_digits (least most : Nat) : (digits least most).Spends (Char.isDigit · = true) :=
  fun _ found _ h => ⟨found, digits_eq_some h, (finds_digits least most h).1⟩

theorem spends_number (least most : Nat) : (number least most).Spends (Char.isDigit · = true) :=
  (spends_digits least most).bind fun _ => .pure _

theorem spends_longNumber : longNumber.Spends (Char.isDigit · = true) :=
  fun _ _ _ h => spends_number _ _ h

theorem spends_guard (p : Prop) [Decidable p] : (guard p : Reader Unit).Spends P := by
  unfold guard
  split_ifs
  · exact .pure ()
  · intro chars u rest h
    cases h

theorem needs_char (c : Char) : (char c).Needs c := fun _ _ _ h => by
  rw [char_eq_some h]
  exact List.mem_cons_self

theorem exact_char (c : Char) : (char c).Exact := fun _ _ _ h =>
  ⟨[c], char_eq_some h, fun tail => char_cons c tail⟩

theorem exact_oneOf (choices : List Char) : (oneOf choices).Exact := by
  intro chars u rest h
  obtain ⟨c, hc, rfl⟩ := oneOf_eq_some h
  exact ⟨[c], rfl, fun tail => oneOf_cons hc tail⟩

/-- A number of a given width, by its digits. -/
theorem number_eq_some {width n : Nat} (h : number width width chars = some (n, rest)) :
    ∃ found, ((∀ c ∈ found, c.isDigit = true) ∧ found.length = width) ∧ chars = found ++ rest ∧
      n = Numeral.ofDigits found := by
  obtain ⟨found, mid, hdigits, hpure⟩ := bind_eq_some_iff.1 h
  obtain ⟨rfl, rfl⟩ := Prod.mk.inj (Option.some.inj hpure)
  obtain ⟨hfound, hleast, hmost⟩ := finds_digits width width hdigits
  exact ⟨found, ⟨hfound, hmost.antisymm hleast⟩, digits_eq_some hdigits, rfl⟩

theorem exact_number (width : Nat) : (number width width).Exact := by
  intro chars n rest h
  obtain ⟨found, ⟨hfound, hlength⟩, rfl, rfl⟩ := number_eq_some h
  exact ⟨found, rfl, fun tail => number_append hfound hlength.ge hlength.le (.inl hlength)⟩

end Taking

end Reader

end Gridded
