import Gridded.Proofs.Outcomes
import Gridded.Proofs.Slice.Association
import Gridded.Proofs.Slice.Views
import Gridded.Slice.Word

/-!
# Slices that outgrow their words

A slice in words stands for a slice, and what is computed in words stands for what is computed of it, as
long as every number on the way fits. Looking a slice up is safe as soon as its last index fits. There are
two ways out of the words: counting all of them, and multiplying strides that are not used, as those of
single indices are not. There the computation is broken off, unless it is made to go on with what is left.

* `Word.fit_eq_some`, `Word.fit_eq_none`: a number that fits, or is made to;
* `Word.gives_sub`, `Word.gives_mul`: arithmetic of words is exact as long as it fits;
* `WordSlice.Fits`: the indices of the slice are words; `WordSlice.Exact`: so are its answers, and they are
  those of the slice that it stands for; `WordSlice.exact_of_fits`;
* `WordSlice.AllWords`, `WordSlice.strided_eq`: what is made of the ends;
* `WordSlice.compose_eq`: what is composed in words is composed exactly, save for the stride;
* `Slice.composeWord_eq_pure`, `WordSlice.compose_stops_eq`: slices whose numbers stand for words;
* `WordSlice.Built`: the slices made from their ends and composed;
* `WordSlice.overflow_iff`: when a number is too large for a word, and what comes of it.
-/

namespace Gridded

open Outcome

namespace Word

variable {o : Overflow} {a b : UInt64} {n : ℕ}

theorem toNat_pos (h : a ≠ 0) : 0 < a.toNat :=
  Nat.pos_of_ne_zero fun hzero => h (UInt64.toNat_inj.1 hzero)

theorem fit_of_lt (h : n < UInt64.size) (o : Overflow) : fit n o = some (.ofNat n) := by
  cases o with
  | stops => exact if_pos h
  | wraps => rfl

theorem fit_stops_of_le (h : UInt64.size ≤ n) : fit n .stops = none := if_neg (Nat.not_lt.2 h)

theorem fit_eq_some {w : UInt64} :
    fit n o = some w ↔ (o = .stops → n < UInt64.size) ∧ .ofNat n = w := by
  cases o with
  | stops =>
    rcases Nat.lt_or_ge n UInt64.size with hlt | hge
    · rw [fit_of_lt hlt, Option.some_inj, and_iff_right fun _ => hlt]
    · rw [fit_stops_of_le hge]
      exact iff_of_false (fun h => by cases h) fun h => Nat.not_lt.2 hge (h.1 rfl)
  | wraps => exact Option.some_inj.trans (and_iff_right fun h => by cases h).symm

theorem fit_eq_none : fit n o = none ↔ o = .stops ∧ UInt64.size ≤ n := by
  rw [Option.eq_none_iff_forall_ne_some]
  simp only [ne_eq, fit_eq_some, not_and]
  constructor
  · intro h
    by_contra hfits
    refine h (.ofNat n) (fun ho => ?_) rfl
    exact Nat.not_le.1 fun hle => hfits ⟨ho, hle⟩
  · rintro ⟨ho, hle⟩ w hfit
    exact absurd (hfit ho) (Nat.not_lt.2 hle)

theorem gives_fit (h : n < UInt64.size) : Gives (fit n o) (·.toNat = n) :=
  ⟨_, UInt64.toNat_ofNat_of_lt' h, fit_of_lt h o⟩

theorem gives_mul (h : a.toNat * b.toNat < UInt64.size) :
    Gives (mul o a b) (·.toNat = a.toNat * b.toNat) := gives_fit h

theorem gives_sub (h : b ≤ a) : Gives (sub o a b) (·.toNat = a.toNat - b.toNat) := by
  refine ⟨a - b, UInt64.toNat_sub_of_le a b h, ?_⟩
  cases o with
  | stops => exact if_pos h
  | wraps => rfl

end Word

namespace WordSlice

variable {o : Overflow} {s sub r : WordSlice}

theorem ofSlice_toSlice (s : WordSlice) : ofSlice s.toSlice = s := by
  simp only [ofSlice, toSlice, UInt64.ofNat_toNat]

theorem toSlice_inj (h : s.toSlice = r.toSlice) : s = r := by
  rw [← ofSlice_toSlice s, h, ofSlice_toSlice]

/-! ### Looking up -/

/-- The indices of the slice are words. -/
def Fits (s : WordSlice) : Prop := s.toSlice.Below UInt64.size

/-- Every answer of the slice is found without leaving the words, and is that of the slice it stands for. -/
structure Exact (o : Overflow) (s : WordSlice) : Prop where
  last : (s.last o).map (Option.map UInt64.toNat) = some s.toSlice.last
  element : ∀ i, UInt64.toNat <$> s.element o i = answer (s.toSlice.element i.toNat)
  indices : (s.indices o).map (List.map UInt64.toNat) = some s.toSlice.indices
  contains : ∀ i, s.contains o i = s.toSlice.contains i.toNat
  text : s.text o = some s.toSlice.text
  within : ∀ n, s.within o n = answer (s.toSlice.within n.toNat)

/-- An index is looked up unless it is not a word. -/
theorem index_eq (o : Overflow) (s : WordSlice) (i : UInt64) :
    s.index o i = Word.fit (s.toSlice.index i.toNat) o := by
  show (Word.mul o i s.stride >>= fun a => Word.add o s.first a) =
    Word.fit (s.first.toNat + i.toNat * s.stride.toNat) o
  by_cases hfits : i.toNat * s.stride.toNat < UInt64.size
  · obtain ⟨a, ha, heq⟩ := Word.gives_mul (o := o) hfits
    rw [heq, ← ha]
    rfl
  · cases o with
    | stops =>
      rw [Word.mul, Word.fit_stops_of_le (Nat.not_lt.1 hfits), Word.fit_stops_of_le (by omega)]
      rfl
    | wraps =>
      refine congrArg some (UInt64.toNat_inj.1 ?_)
      simp only [UInt64.toNat_ofNat', Nat.add_mod_mod]

theorem last_of_pos (h : 0 < s.toSlice.len) (o : Overflow) :
    s.last o = some <$> Word.fit (s.toSlice.index (s.toSlice.len - 1)) o := by
  have hlen : s.len ≠ 0 := fun hzero => h.ne' (congrArg UInt64.toNat hzero)
  obtain ⟨i, hi, heq⟩ := Word.gives_sub (o := o) (UInt64.le_iff_toNat_le.2 h : 1 ≤ s.len)
  have hi : i.toNat = s.toSlice.len - 1 := hi
  rw [last, if_neg hlen, heq, ← hi, ← index_eq]
  exact map_eq_pure_bind some (s.index o i) |>.symm

theorem gives_index {i : UInt64} (h : s.toSlice.index i.toNat < UInt64.size) :
    Gives (s.index o i) (·.toNat = s.toSlice.index i.toNat) := by
  rw [index_eq]
  exact Word.gives_fit h

theorem gives_last (h : s.Fits) : Gives (s.last o) fun n => n.map UInt64.toNat = s.toSlice.last := by
  rcases Nat.eq_zero_or_pos s.toSlice.len with hzero | hpos
  · have hlen : s.len = 0 := UInt64.toNat_inj.1 hzero
    rw [last, if_pos hlen]
    exact .of_some (Slice.last_eq_none.2 hzero).symm
  · have hlast := h (s.toSlice.len - 1) (by omega)
    rw [last_of_pos hpos, Slice.last_eq_some.2 ⟨hpos, rfl⟩, Word.fit_of_lt hlast]
    exact .of_some (congrArg some (UInt64.toNat_ofNat_of_lt' hlast))

theorem element_eq (h : s.Fits) (i : UInt64) :
    UInt64.toNat <$> s.element o i = answer (s.toSlice.element i.toNat) := by
  unfold element
  split_ifs with hi
  · have hi : i.toNat < s.toSlice.len := UInt64.lt_iff_toNat_lt.1 hi
    obtain ⟨n, hn, heq⟩ := gives_index (o := o) (h _ hi)
    rw [heq, Slice.element_of_lt hi, ← hn]
    rfl
  · have hi : s.toSlice.len ≤ i.toNat := UInt64.le_iff_toNat_le.1 (UInt64.not_lt.1 hi)
    rw [Slice.element_of_le hi]
    rfl

theorem gives_indices (h : s.Fits) :
    Gives (s.indices o) fun l => l.map UInt64.toNat = s.toSlice.indices := by
  refine Gives.mapM fun i hi => ?_
  have hlen : i < s.toSlice.len := List.mem_range.1 hi
  have hword : (UInt64.ofNat i).toNat = i :=
    UInt64.toNat_ofNat_of_lt' (hlen.trans s.len.toNat_lt_size)
  have hindex := gives_index (o := o) (s := s) (i := .ofNat i) (by rw [hword]; exact h i hlen)
  rwa [hword] at hindex

theorem contains_eq (h : s.Fits) (i : UInt64) : s.contains o i = s.toSlice.contains i.toNat := by
  obtain ⟨l, hl, hlast⟩ := gives_last (o := o) h
  rw [contains, hlast, Slice.contains, ← hl]
  cases l with
  | none => rfl
  | some last =>
    have hbetween : (s.first ≤ i ∧ i ≤ last) ↔
        s.toSlice.first ≤ i.toNat ∧ i.toNat ≤ last.toNat :=
      and_congr UInt64.le_iff_toNat_le UInt64.le_iff_toNat_le
    have hstride : s.stride = 0 ↔ s.toSlice.stride = 0 := UInt64.toNat_inj.symm
    simp only [Option.map_some, Option.bind_eq_bind, Option.bind_some, hbetween, hstride]
    split_ifs with hi hzero
    · rfl
    · obtain ⟨d, hd, heq⟩ := Word.gives_sub (o := o) (UInt64.le_iff_toNat_le.2 hi.1)
      have hmod : d % s.stride = 0 ↔ (i.toNat - s.first.toNat) % s.stride.toNat = 0 := by
        rw [← UInt64.toNat_inj, UInt64.toNat_mod, hd]
        rfl
      rw [heq, Option.bind_some]
      simp only [Bool.beq_eq_decide_eq, hmod]
      rfl
    · rfl

theorem text_eq (h : s.Fits) : s.text o = some s.toSlice.text := by
  obtain ⟨l, hl, hlast⟩ := gives_last (o := o) h
  rw [text, hlast, Slice.text, ← hl]
  rfl

theorem within_eq (h : s.Fits) (n : UInt64) : s.within o n = answer (s.toSlice.within n.toNat) := by
  obtain ⟨l, hl, hlast⟩ := gives_last (o := o) h
  rw [within, hlast, Slice.within, ← hl]
  cases l with
  | none => rfl
  | some last =>
    have hbeyond : n ≤ last ↔ n.toNat ≤ last.toNat := UInt64.le_iff_toNat_le
    by_cases hn : n ≤ last
    · have hn' := hbeyond.1 hn
      simp only [Option.map_some, hn', if_true]
      exact if_pos hn
    · have hn' := mt hbeyond.2 hn
      simp only [Option.map_some, hn', if_false]
      exact if_neg hn

theorem exact_of_fits (h : s.Fits) : s.Exact o :=
  ⟨(gives_last h).map_eq_some, element_eq h, (gives_indices h).map_eq_some, contains_eq h, text_eq h,
    within_eq h⟩

/-- A slice can be written if its last index is a word. -/
theorem text_stops_eq_none : s.text .stops = none ↔ ¬s.Fits := by
  constructor
  · intro h hfits
    rw [text_eq hfits] at h
    cases h
  · intro hfits
    have hpos : 0 < s.toSlice.len := Nat.pos_of_ne_zero fun hzero =>
      hfits (Slice.below_of_len_eq_zero hzero _)
    have hlast : UInt64.size ≤ s.toSlice.index (s.toSlice.len - 1) := Nat.not_lt.1 fun hlt =>
      hfits ((Slice.below_iff_last_lt (Slice.last_eq_some.2 ⟨hpos, rfl⟩) _).2 hlt)
    rw [text, last_of_pos hpos, Word.fit_stops_of_le hlast]
    rfl

/-- If what is left of the last index is written, there is always something to write. -/
theorem exists_text_wraps (s : WordSlice) : ∃ t, s.text .wraps = some t := by
  rcases Nat.eq_zero_or_pos s.toSlice.len with hzero | hpos
  · exact ⟨_, text_eq (Slice.below_of_len_eq_zero hzero _)⟩
  · rw [text, last_of_pos hpos]
    exact ⟨_, rfl⟩

/-! ### Making a slice from its ends -/

section Strided

variable {first last stride : UInt64}

/-- The slice with these ends would have all words for its indices. -/
def AllWords (first last stride : UInt64) : Prop :=
  first = 0 ∧ last.toNat + 1 = UInt64.size ∧ stride = 1

/-- Only all words in steps of one are as many as there are words. -/
theorem size_le_span_iff {a b c : ℕ} (hb : b < UInt64.size) (hab : a ≤ b) (hc : 0 < c) :
    UInt64.size ≤ (b - a) / c + 1 ↔ a = 0 ∧ b + 1 = UInt64.size ∧ c = 1 := by
  constructor
  · intro h
    have hdiv : (b - a) / c ≤ b - a := Nat.div_le_self _ _
    refine ⟨by omega, by omega, ?_⟩
    by_contra hne
    have hhalf : (b - a) / c ≤ (b - a) / 2 := Nat.div_le_div_left (by omega) (by omega)
    have hsize : 2 < UInt64.size := by decide
    omega
  · rintro ⟨rfl, hb, rfl⟩
    rw [Nat.div_one]
    omega

theorem allWords_iff (hle : first ≤ last) (hne : stride ≠ 0) : AllWords first last stride ↔
    UInt64.size ≤ (last.toNat - first.toNat) / stride.toNat + 1 := by
  rw [size_le_span_iff last.toNat_lt_size (UInt64.le_iff_toNat_le.1 hle) (Word.toNat_pos hne), AllWords,
    ← UInt64.toNat_inj, ← UInt64.toNat_inj]
  rfl

/-- The number of indices is all that may not be a word. -/
theorem strided_eq (hle : first ≤ last) (hne : stride ≠ 0) : strided o first last stride =
    (fun len => ⟨none, first, len, stride⟩) <$>
      liftM (Word.fit ((last.toNat - first.toNat) / stride.toNat + 1) o) := by
  obtain ⟨span, hspan, heq⟩ := Word.gives_sub (o := o) hle
  have hquotient : (span / stride).toNat = (last.toNat - first.toNat) / stride.toNat := by
    rw [UInt64.toNat_div, hspan]
  rw [strided, if_neg (UInt64.not_lt.2 hle), if_neg hne, heq, ← hquotient]
  rfl

theorem strided_of_not_allWords (hle : first ≤ last) (hne : stride ≠ 0)
    (h : ¬AllWords first last stride) : ∃ s, strided o first last stride = pure s ∧
      Slice.strided first.toNat last.toNat stride.toNat = .ok s.toSlice := by
  rw [allWords_iff hle hne, Nat.not_le] at h
  obtain ⟨len, hlen, heq⟩ := Word.gives_fit (o := o) h
  refine ⟨⟨none, first, len, stride⟩, ?_, ?_⟩
  · rw [strided_eq hle hne, heq]
    rfl
  · rw [Slice.strided_eq_ok, toSlice, hlen]
    exact ⟨UInt64.le_iff_toNat_le.1 hle, Word.toNat_pos hne, rfl⟩

theorem strided_stops_of_allWords (h : AllWords first last stride) :
    strided .stops first last stride = brokenOff := by
  obtain ⟨rfl, hlast, rfl⟩ := h
  have hle : (0 : UInt64) ≤ last := UInt64.le_iff_toNat_le.2 (Nat.zero_le _)
  have hne : (1 : UInt64) ≠ 0 := by decide
  have hlarge := (allWords_iff hle hne).1 ⟨rfl, hlast, rfl⟩
  rw [strided_eq hle hne, Word.fit_stops_of_le hlarge]
  rfl

/-- Nothing is left of the number of words. -/
theorem strided_wraps_of_allWords (h : AllWords first last stride) :
    strided .wraps first last stride = pure ⟨none, 0, 0, 1⟩ := by
  obtain ⟨rfl, hlast, rfl⟩ := h
  have hle : (0 : UInt64) ≤ last := UInt64.le_iff_toNat_le.2 (Nat.zero_le _)
  have hne : (1 : UInt64) ≠ 0 := by decide
  have hspan : (last.toNat - (0 : UInt64).toNat) / (1 : UInt64).toNat + 1 = UInt64.size :=
    (congrArg (· + 1) (Nat.div_one _)).trans hlast
  rw [strided_eq hle hne, hspan]
  rfl

/-- Ends that are not refused are in order, with a stride. -/
theorem of_strided_ne_throw (h : ∀ e, strided o first last stride ≠ throw e) :
    first ≤ last ∧ stride ≠ 0 := by
  have hle : first ≤ last := UInt64.not_lt.1 fun hlt => h _ (if_pos hlt)
  refine ⟨hle, fun hzero => h (.invalidRange .zeroStride) ?_⟩
  rw [strided, if_neg (UInt64.not_lt.2 hle), if_pos hzero]

theorem strided_eq_brokenOff :
    strided o first last stride = brokenOff ↔ o = .stops ∧ AllWords first last stride := by
  constructor
  · intro h
    obtain ⟨hle, hne⟩ := of_strided_ne_throw fun e he => throw_ne_brokenOff (he.symm.trans h)
    rw [strided_eq hle hne, map_eq_brokenOff, lift_eq_brokenOff, Word.fit_eq_none] at h
    rwa [allWords_iff hle hne]
  · rintro ⟨rfl, hall⟩
    exact strided_stops_of_allWords hall

theorem of_strided_eq_pure (h : strided o first last stride = pure s) : first ≤ last ∧ stride ≠ 0 :=
  of_strided_ne_throw fun _ he => throw_ne_pure (he.symm.trans h)

theorem exists_strided_iff : (∃ s, strided o first last stride = pure s) ↔
    first ≤ last ∧ stride ≠ 0 ∧ ¬(o = .stops ∧ AllWords first last stride) := by
  constructor
  · rintro ⟨s, h⟩
    obtain ⟨hle, hne⟩ := of_strided_eq_pure h
    exact ⟨hle, hne, fun hall => pure_ne_brokenOff (h.symm.trans (strided_eq_brokenOff.2 hall))⟩
  · rintro ⟨hle, hne, hfits⟩
    by_cases hall : AllWords first last stride
    · cases o with
      | stops => exact absurd ⟨rfl, hall⟩ hfits
      | wraps => exact ⟨_, strided_wraps_of_allWords hall⟩
    · obtain ⟨s, hs, -⟩ := strided_of_not_allWords (o := o) hle hne hall
      exact ⟨s, hs⟩

/-- What is made of the ends is the slice that was asked for, or it is empty. -/
theorem strided_eq_pure (h : strided o first last stride = pure s) :
    (AllWords first last stride ∧ s.toSlice.len = 0) ∨ (¬AllWords first last stride ∧
      Slice.strided first.toNat last.toNat stride.toNat = .ok s.toSlice) := by
  obtain ⟨hle, hne⟩ := of_strided_eq_pure h
  by_cases hall : AllWords first last stride
  · cases o with
    | stops =>
      rw [strided_stops_of_allWords hall] at h
      cases h
    | wraps =>
      rw [strided_wraps_of_allWords hall, pure_inj] at h
      exact .inl ⟨hall, h ▸ rfl⟩
  · obtain ⟨made, hmade, hexact⟩ := strided_of_not_allWords (o := o) hle hne hall
    rw [h, pure_inj] at hmade
    exact .inr ⟨hall, hmade ▸ hexact⟩

theorem isEmpty_iff_len : s.isEmpty = true ↔ s.toSlice.len = 0 := by
  rw [isEmpty, beq_iff_eq, ← UInt64.toNat_inj]
  rfl

/-- A slice that keeps its length has an index. -/
theorem isEmpty_strided (h : strided o first last stride = pure s) :
    s.isEmpty = true ↔ AllWords first last stride := by
  rw [isEmpty_iff_len]
  rcases strided_eq_pure h with ⟨hall, hlen⟩ | ⟨hall, hexact⟩
  · exact iff_of_true hlen hall
  · refine iff_of_false ?_ hall
    rw [(Slice.strided_eq_ok.1 hexact).2.2]
    exact Nat.succ_ne_zero _

theorem fits_of_strided (h : strided o first last stride = pure s) : s.Fits := by
  rcases strided_eq_pure h with ⟨-, hlen⟩ | ⟨-, hexact⟩
  · exact Slice.below_of_len_eq_zero hlen _
  · refine Slice.below_iff_indices.2 fun i hi => Nat.lt_of_le_of_lt ?_ last.toNat_lt_size
    exact ((Slice.mem_indices_of_strided hexact).1 hi).2.1

end Strided

/-! ### Composition -/

/-- The slice with another stride. -/
def withStride (s : WordSlice) (stride : UInt64) : WordSlice := ⟨s.name, s.first, s.len, stride⟩

theorem stride_lt_of_below {t : Slice} {n : ℕ} (h : t.Below n) (hlen : 1 < t.len) : t.stride < n := by
  have hsecond : t.first + 1 * t.stride < n := h 1 hlen
  omega

/-- **What is composed in words** is what is composed exactly. The stride is all that may not be a word. -/
theorem compose_eq (hs : s.Fits) (hsub : sub.Fits) : s.compose o sub =
    answer (s.toSlice.compose sub.toSlice) >>= fun t =>
      (ofSlice t).withStride <$> liftM (Word.fit t.stride o) := by
  obtain ⟨l, hl, hlast⟩ := gives_last (o := o) hsub
  rw [compose, hlast]
  cases l with
  | none =>
    rw [Slice.compose_of_empty (Slice.last_eq_none.1 hl.symm), answer_ok_bind]
    show _ = withStride _ <$> liftM (Word.fit 1 o)
    rw [Word.fit_of_lt (by decide)]
    rfl
  | some last =>
    have hsome : sub.toSlice.last = some last.toNat := hl.symm
    have hpos : 0 < sub.toSlice.len := (Slice.last_eq_some.1 hsome).1
    by_cases hle : s.len ≤ last
    · have hbeyond : s.toSlice.len ≤ last.toNat := UInt64.le_iff_toNat_le.1 hle
      have herror : s.toSlice.compose sub.toSlice =
          .error (.invalidRange (.beyondParent sub.toSlice s.toSlice.len)) := by
        rw [Slice.compose, hsome]
        exact if_pos hbeyond
      rw [herror, answer_error_bind]
      exact if_pos hle
    · have hlt : last.toNat < s.toSlice.len := UInt64.lt_iff_toNat_lt.1 (UInt64.not_le.1 hle)
      have hbelow := (Slice.below_iff_last_lt hsome s.toSlice.len).2 hlt
      have hfirst : sub.toSlice.first < s.toSlice.len := by simpa [Slice.index] using hbelow 0 hpos
      obtain ⟨first, hindex, heq⟩ := gives_index (o := o) (i := sub.first) (hs _ hfirst)
      have hwords : withStride (ofSlice ⟨s.toSlice.name.or sub.toSlice.name,
          s.toSlice.index sub.toSlice.first, sub.toSlice.len, s.toSlice.stride * sub.toSlice.stride⟩) =
            fun stride => ⟨s.name.or sub.name, first, sub.len, stride⟩ := by
        funext stride
        rw [withStride, ofSlice, show s.toSlice.index sub.toSlice.first = first.toNat from hindex.symm,
          UInt64.ofNat_toNat]
        simp only [toSlice, UInt64.ofNat_toNat]
      rw [(Slice.compose_eq_ok hpos).2 ⟨hbelow, rfl⟩, answer_ok_bind, hwords]
      refine (if_neg hle).trans ?_
      rw [heq]
      rfl

/-- The numbers of a composed slice are words, but for its stride. -/
theorem toSlice_withStride {t : Slice} (hs : s.Fits) (ht : s.toSlice.compose sub.toSlice = .ok t)
    (stride : UInt64) :
    ((ofSlice t).withStride stride).toSlice = { t with stride := stride.toNat } := by
  have hreads := Slice.reads_of_compose ht
  have hlen : t.len < UInt64.size := by
    rw [hreads.len]
    exact sub.len.toNat_lt_size
  have hfirst : t.first < UInt64.size := by
    rcases Nat.eq_zero_or_pos sub.toSlice.len with hzero | hpos
    · rw [Slice.compose_of_empty hzero] at ht
      cases ht
      exact show 0 < UInt64.size by decide
    · simpa [Slice.index] using hreads.below_of_below hs 0 (by rwa [hreads.len])
  show Slice.mk t.name (UInt64.ofNat t.first).toNat (UInt64.ofNat t.len).toNat stride.toNat = _
  rw [UInt64.toNat_ofNat_of_lt' hlen, UInt64.toNat_ofNat_of_lt' hfirst]

theorem compose_eq_pure (hs : s.Fits) (hsub : sub.Fits) : s.compose o sub = pure r ↔
    ∃ t, s.toSlice.compose sub.toSlice = .ok t ∧ (o = .stops → t.stride < UInt64.size) ∧
      r.toSlice = { t with stride := t.stride % UInt64.size } := by
  rw [compose_eq hs hsub, bind_eq_pure]
  simp only [answer_eq_pure, map_eq_pure, lift_eq_pure, Word.fit_eq_some]
  refine exists_congr fun t => and_congr_right fun ht => ?_
  have hwords := toSlice_withStride hs ht (.ofNat t.stride)
  rw [UInt64.toNat_ofNat'] at hwords
  constructor
  · rintro ⟨_, ⟨hfit, rfl⟩, rfl⟩
    exact ⟨hfit, hwords⟩
  · rintro ⟨hfit, hr⟩
    exact ⟨_, ⟨hfit, rfl⟩, toSlice_inj (hwords.trans hr.symm)⟩

theorem compose_eq_brokenOff (hs : s.Fits) (hsub : sub.Fits) : s.compose o sub = brokenOff ↔
    o = .stops ∧ ∃ t, s.toSlice.compose sub.toSlice = .ok t ∧ UInt64.size ≤ t.stride := by
  rw [compose_eq hs hsub, bind_eq_brokenOff]
  simp only [answer_ne_brokenOff, false_or, answer_eq_pure, map_eq_brokenOff, lift_eq_brokenOff,
    Word.fit_eq_none, and_left_comm, exists_and_left]

/-- A stride that is too large for a word is not used. -/
theorem len_of_wide {t : Slice} (hs : s.Fits) (ht : s.toSlice.compose sub.toSlice = .ok t)
    (hwide : UInt64.size ≤ t.stride) : t.len = 1 := by
  have hreads := Slice.reads_of_compose ht
  have hlen : ¬1 < t.len := fun hlen =>
    Nat.not_lt.2 hwide (stride_lt_of_below (hreads.below_of_below hs) hlen)
  -- Nothing comes with a stride of one.
  have hne : t.len ≠ 0 := fun hzero => by
    rw [Slice.compose_of_empty (hreads.len.symm.trans hzero)] at ht
    cases ht
    exact absurd (show UInt64.size ≤ 1 from hwide) (by decide)
  omega

theorem indices_mod_stride {t : Slice} {n : ℕ} (h : n ≤ t.stride → t.len = 1) :
    Slice.indices { t with stride := t.stride % n } = t.indices := by
  rcases Nat.lt_or_ge t.stride n with hlt | hge
  · rw [Nat.mod_eq_of_lt hlt]
  · simp [Slice.indices, Slice.index, h hge]

theorem fits_of_compose (hs : s.Fits) (hsub : sub.Fits) (h : s.compose o sub = pure r) : r.Fits := by
  obtain ⟨t, ht, -, hr⟩ := (compose_eq_pure hs hsub).1 h
  have hbelow := (Slice.reads_of_compose ht).below_of_below hs
  intro i hi
  rw [hr] at hi ⊢
  -- The stride is at most the exact one, and so are the indices.
  refine Nat.lt_of_le_of_lt ?_ (hbelow i hi)
  exact Nat.add_le_add_left (Nat.mul_le_mul_left i (Nat.mod_le _ _)) _

/-- The slices made from their ends and composed. -/
inductive Built (o : Overflow) : WordSlice → Prop
  | between {first last : UInt64} {s : WordSlice} : between o first last = pure s → Built o s
  | strided {first last stride : UInt64} {s : WordSlice} :
      strided o first last stride = pure s → Built o s
  | compose {s sub r : WordSlice} : Built o s → Built o sub → s.compose o sub = pure r → Built o r

theorem Built.fits (h : Built o s) : s.Fits := by
  induction h with
  | between h => exact fits_of_strided h
  | strided h => exact fits_of_strided h
  | compose _ _ h ihs ihsub => exact fits_of_compose ihs ihsub h

/-- **When the words are left.** A slice is made from its ends if they are in order and there is a stride,
unless the computation is broken off, as it is where a number that is too large for a word stops it and the
slice would have all words for its indices. What is made answers exactly. It is the slice that was asked for,
or else it should have all words for its indices; then its length was lost, and it is empty. Slices that are
made so are composed in words if they are composed exactly, to one that answers exactly as well, with the
indices that it should have. The product of the strides is all that may be too large, and only if there is one
index, which needs no stride; that breaks the composition off, or what is left of the product may be zero. -/
theorem overflow_iff (o : Overflow) (first last stride : UInt64) (hs : Built o s) (hsub : Built o sub) :
    ((∃ made, strided o first last stride = pure made) ↔
      first ≤ last ∧ stride ≠ 0 ∧ ¬(o = .stops ∧ AllWords first last stride)) ∧
    (strided o first last stride = brokenOff ↔ o = .stops ∧ AllWords first last stride) ∧
    (∀ made, strided o first last stride = pure made → made.Exact o ∧
      (made.isEmpty = true ↔ AllWords first last stride) ∧
      (¬AllWords first last stride →
        Slice.strided first.toNat last.toNat stride.toNat = .ok made.toSlice)) ∧
    ((∃ r, s.compose o sub = pure r) ↔ ∃ t, s.toSlice.compose sub.toSlice = .ok t ∧
      (o = .stops → t.stride < UInt64.size)) ∧
    (s.compose o sub = brokenOff ↔
      o = .stops ∧ ∃ t, s.toSlice.compose sub.toSlice = .ok t ∧ UInt64.size ≤ t.stride) ∧
    ∀ r, s.compose o sub = pure r → r.Exact o ∧
      ∃ t, s.toSlice.compose sub.toSlice = .ok t ∧ r.toSlice.indices = t.indices ∧
        r.toSlice = { t with stride := t.stride % UInt64.size } ∧
        (UInt64.size ≤ t.stride → o = .wraps ∧ t.len = 1) ∧
        (r.stride = 0 ↔ UInt64.size ∣ t.stride) := by
  refine ⟨exists_strided_iff, strided_eq_brokenOff, fun made h => ?_, ?_,
    compose_eq_brokenOff hs.fits hsub.fits, fun r h => ?_⟩
  · refine ⟨exact_of_fits (fits_of_strided h), isEmpty_strided h, fun hall => ?_⟩
    exact (strided_eq_pure h).elim (fun hempty => absurd hempty.1 hall) And.right
  · constructor
    · rintro ⟨r, h⟩
      obtain ⟨t, ht, hfit, -⟩ := (compose_eq_pure hs.fits hsub.fits).1 h
      exact ⟨t, ht, hfit⟩
    · rintro ⟨t, ht, hfit⟩
      refine ⟨(ofSlice t).withStride (.ofNat t.stride), ?_⟩
      rw [compose_eq_pure hs.fits hsub.fits]
      refine ⟨t, ht, hfit, ?_⟩
      rw [toSlice_withStride hs.fits ht, UInt64.toNat_ofNat']
  · obtain ⟨t, ht, hfit, hr⟩ := (compose_eq_pure hs.fits hsub.fits).1 h
    have hwide := len_of_wide hs.fits ht
    refine ⟨exact_of_fits (fits_of_compose hs.fits hsub.fits h), t, ht, ?_, hr, fun hlarge => ?_, ?_⟩
    · rw [hr, indices_mod_stride hwide]
    · refine ⟨?_, hwide hlarge⟩
      cases o with
      | stops => exact absurd (hfit rfl) (Nat.not_lt.2 hlarge)
      | wraps => rfl
    · rw [← UInt64.toNat_inj, Nat.dvd_iff_mod_eq_zero]
      exact Iff.of_eq (congrArg (· = 0) (congrArg Slice.stride hr))

/-- Every third word from one to ten, and of these every third one. -/
theorem overflow_iff_thirds :
    ∃ s sub r : WordSlice, strided .stops 1 10 3 = pure s ∧ s.Exact .stops ∧ s.isEmpty = false ∧
      strided .stops 0 3 3 = pure sub ∧ s.compose .stops sub = pure r ∧ r.Exact .stops ∧
      r.indices .stops = some [1, 10] ∧ r.stride = 9 := by
  have hs : strided .stops 1 10 3 = pure ⟨none, 1, 4, 3⟩ := rfl
  have hsub : strided .stops 0 3 3 = pure ⟨none, 0, 2, 3⟩ := rfl
  have hr : compose .stops ⟨none, 1, 4, 3⟩ ⟨none, 0, 2, 3⟩ = pure ⟨none, 1, 2, 9⟩ := rfl
  obtain ⟨-, -, hmade, -, -, hcomposed⟩ := overflow_iff .stops 1 10 3 (.strided hs) (.strided hsub)
  exact ⟨_, _, _, hs, (hmade _ hs).1, rfl, hsub, hr, (hcomposed _ hr).1, rfl, rfl⟩

/-- There is no slice of all words, and two slices of one index cannot be composed if the product of their
strides is not a word. What is left if that does not stop the computation is an empty slice, and a slice
without a stride, which cannot tell whether its own index is among its indices. -/
theorem overflow_zeroStride :
    (between .stops 0 18446744073709551615 = brokenOff ∧
      ∃ s, between .wraps 0 18446744073709551615 = pure s ∧ s.isEmpty = true) ∧
    (∃ s sub : WordSlice, (∀ o, strided o 0 0 9223372036854775808 = pure s) ∧
      (∀ o, strided o 0 0 2 = pure sub) ∧ s.compose .stops sub = brokenOff ∧
      ∃ r, s.compose .wraps sub = pure r ∧ r.stride = 0 ∧ r.contains .wraps 0 = none) ∧
    (¬∀ o first last stride s, strided o first last stride = pure s → s.isEmpty = false) ∧
    ¬∀ o s sub r, Built o s → Built o sub → s.compose o sub = pure r → 1 ≤ r.stride := by
  have hall : strided .wraps 0 18446744073709551615 1 = pure ⟨none, 0, 0, 1⟩ := rfl
  have hs : ∀ o, strided o 0 0 9223372036854775808 = pure ⟨none, 0, 1, 9223372036854775808⟩ :=
    fun o => by cases o <;> rfl
  have hsub : ∀ o, strided o 0 0 2 = pure ⟨none, 0, 1, 2⟩ := fun o => by cases o <;> rfl
  have hr : compose .wraps ⟨none, 0, 1, 9223372036854775808⟩ ⟨none, 0, 1, 2⟩ =
      pure ⟨none, 0, 1, 0⟩ := rfl
  refine ⟨⟨rfl, _, hall, rfl⟩, ⟨_, _, hs, hsub, rfl, _, hr, rfl, rfl⟩, fun h => ?_, fun h => ?_⟩
  · have hfull := h _ _ _ _ _ hall
    cases hfull
  · have hstride := h _ _ _ _ (.strided (hs .wraps)) (.strided (hsub .wraps)) hr
    exact absurd hstride (by decide)

end WordSlice

/-! ### Slices whose numbers stand for words -/

namespace Slice

variable {s sub t : Slice}

theorem composeWord_eq (s sub : Slice) : s.composeWord sub = answer (s.compose sub) >>= fun r =>
    if r.stride < UInt64.size then pure r else brokenOff := rfl

/-- The stride of a composed slice is the product of the strides, unless it is not needed. -/
theorem stride_lt_iff (h : s.compose sub = .ok t) : t.stride < UInt64.size ↔ s.StrideFits sub := by
  rcases Nat.eq_zero_or_pos sub.len with hzero | hpos
  · rw [compose_of_empty hzero] at h
    cases h
    exact iff_of_true (show 1 < UInt64.size by decide) fun hpos => absurd hzero hpos.ne'
  · obtain ⟨-, rfl⟩ := (compose_eq_ok hpos).1 h
    exact ⟨fun hlt _ => hlt, fun hfits => hfits hpos⟩

/-- **Slices are composed in words** as they are composed exactly, if the product of the strides fits. -/
theorem composeWord_eq_pure :
    s.composeWord sub = pure t ↔ s.compose sub = .ok t ∧ s.StrideFits sub := by
  rw [composeWord_eq, bind_eq_pure]
  simp only [answer_eq_pure]
  constructor
  · rintro ⟨r, hr, h⟩
    split_ifs at h with hlt
    · obtain rfl := pure_inj.1 h
      exact ⟨hr, (stride_lt_iff hr).1 hlt⟩
    · cases h
  · rintro ⟨ht, hfits⟩
    exact ⟨t, ht, if_pos ((stride_lt_iff ht).2 hfits)⟩

theorem composeWord_eq_brokenOff :
    s.composeWord sub = brokenOff ↔ sub.Below s.len ∧ ¬s.StrideFits sub := by
  rw [composeWord_eq, bind_eq_brokenOff, ← exists_compose_iff]
  simp only [answer_ne_brokenOff, false_or, answer_eq_pure]
  constructor
  · rintro ⟨r, hr, h⟩
    split_ifs at h with hlt
    · cases h
    · exact ⟨⟨r, hr⟩, mt (stride_lt_iff hr).2 hlt⟩
  · rintro ⟨⟨r, hr⟩, hfits⟩
    exact ⟨r, hr, if_neg (mt (stride_lt_iff hr).1 hfits)⟩

/-- Slices of other lengths than one need no more than the indices of the slice that they are taken of. -/
theorem strideFits_of_below {n : ℕ} (hs : s.Below n) (hn : n ≤ UInt64.size) (hsub : sub.Below s.len)
    (hlen : sub.len ≠ 1) : s.StrideFits sub := by
  intro hpos
  have hsecond : s.first + (sub.first + 1 * sub.stride) * s.stride < n :=
    hs (sub.index 1) (hsub 1 (by omega))
  have hle : sub.stride * s.stride ≤ (sub.first + 1 * sub.stride) * s.stride :=
    Nat.mul_le_mul_right _ (by omega)
  rw [Nat.mul_comm]
  omega

theorem agrees_composeWord (s sub : Slice) : (s.composeWord sub).Agrees (s.compose sub) := by
  rw [composeWord_eq]
  cases hr : s.compose sub with
  | error e => exact agrees_answer (.error e)
  | ok r =>
    rw [answer_ok_bind]
    split_ifs
    · exact agrees_pure r
    · exact agrees_brokenOff

/-- Composing with no slice needs no stride. -/
theorem composeWord?_eq_pure {cut : Option Slice} : s.composeWord? cut = pure t ↔
    s.compose? cut = .ok t ∧ ∀ sub, cut = some sub → s.StrideFits sub := by
  cases cut with
  | none =>
    show (pure s : Outcome Slice) = pure t ↔ Except.ok s = .ok t ∧ _
    simp [pure_inj]
  | some sub =>
    show s.composeWord sub = pure t ↔ s.compose sub = .ok t ∧ _
    simp [composeWord_eq_pure]

theorem agrees_composeWord? (s : Slice) (cut : Option Slice) :
    (s.composeWord? cut).Agrees (s.compose? cut) := by
  cases cut with
  | none => exact agrees_pure s
  | some sub => exact agrees_composeWord s sub

end Slice

/-- What slices in words stand for is composed as they are. -/
theorem WordSlice.compose_stops_eq {s sub : WordSlice} (hs : s.Fits) (hsub : sub.Fits) :
    toSlice <$> s.compose .stops sub = s.toSlice.composeWord sub.toSlice := by
  rw [compose_eq hs hsub, Slice.composeWord_eq]
  cases ht : s.toSlice.compose sub.toSlice with
  | error e => rfl
  | ok t =>
    rw [answer_ok_bind, answer_ok_bind]
    have hwords := toSlice_withStride hs ht (.ofNat t.stride)
    split_ifs with hlt
    · rw [UInt64.toNat_ofNat_of_lt' hlt] at hwords
      rw [Word.fit_of_lt hlt]
      exact congrArg (fun t => (pure t : Outcome Slice)) hwords
    · rw [Word.fit_stops_of_le (Nat.not_lt.1 hlt)]
      rfl

end Gridded
