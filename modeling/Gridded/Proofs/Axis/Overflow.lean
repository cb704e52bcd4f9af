import Gridded.Axis.Word
import Gridded.Proofs.Slice.Overflow
import Gridded.Proofs.System.Provenance

/-!
# Axes that outgrow their words

The number of coordinates is told, and the values do not limit it. So the number of values that coordinates
need may not fit into a word. That breaks the making of the axis off, unless it is made to go on with what is
left of the number, which may be the number of values that are there. The only other way out of the words is
a range that cannot be written in the message that refuses it.

* `Spacing.valuesLenWord_eq`, `Spacing.size_le_valuesLen_iff`: when the number of values is not a word;
* `Axis.Draft.InWords`, `Axis.Setting.InWords`: drafts and settings that are given in words;
* `Axis.Draft.Outgrown`, `Axis.Draft.Unwritable`: the two ways out of the words;
* `Outcome.Tells`: an outcome that says what another computation does;
* `Axis.Draft.buildWord_tells`, `Axis.Draft.Outgrown.buildWord_stops`, `Axis.Draft.Unwritable.buildWord_stops`,
  `Axis.Draft.Outgrown.buildWord_wraps`, `Axis.Draft.Unwritable.buildWord_wraps`: what is made in words;
* `Axis.buildWord_exact_iff`: all of it for all settings.
-/

namespace Gridded

open Outcome

/-! ### How many values -/

namespace Spacing

variable {s : Spacing} {n : ℕ}

/-- What is computed in words is the exact number as a word. -/
theorem valuesLenWord_eq (o : Overflow) (s : Spacing) (n : UInt64) :
    s.valuesLenWord o n = Word.fit (s.valuesLen n.toNat) o := by
  cases s with
  | regularPoint => exact (Word.fit_of_lt (by decide) o).symm
  | regularInterval => exact (Word.fit_of_lt (by decide) o).symm
  | irregularPoint => rw [valuesLen, Word.fit_of_lt n.toNat_lt_size, UInt64.ofNat_toNat, valuesLenWord]
  | contiguousInterval => rfl
  | discontiguousInterval => rfl

/-- The coordinates whose values are too many to be counted in words. -/
theorem size_le_valuesLen_iff (hn : n < UInt64.size) : UInt64.size ≤ s.valuesLen n ↔
    s = .contiguousInterval ∧ n + 1 = UInt64.size ∨
      s = .discontiguousInterval ∧ UInt64.size ≤ 2 * n := by
  cases s with
  | regularPoint => simp [valuesLen]
  | regularInterval => simp [valuesLen]
  | irregularPoint => simp [valuesLen, hn]
  | contiguousInterval =>
    simp only [valuesLen, true_and, reduceCtorEq, false_and, or_false]
    omega
  | discontiguousInterval => simp [valuesLen]

theorem valuesLen_lt_double (hn : n < UInt64.size) : s.valuesLen n < 2 * UInt64.size := by
  cases s with
  | contiguousInterval =>
    rw [valuesLen]
    omega
  | _ =>
    simp only [valuesLen]
    omega

/-- Coordinates that are counted from values do not need more of them. -/
theorem valuesLen_coordinatesOf_le (hpos : 0 < s.coordinatesOf n) :
    s.valuesLen (s.coordinatesOf n) ≤ n := by
  cases s with
  | regularPoint => exact Nat.zero_le n
  | regularInterval => exact Nat.zero_le n
  | irregularPoint => exact le_rfl
  | contiguousInterval =>
    simp only [coordinatesOf, valuesLen] at hpos ⊢
    omega
  | discontiguousInterval =>
    simp only [coordinatesOf, valuesLen]
    omega

end Spacing

/-! ### The same answer -/

/-- The answer of another computation is given, save that an error may be told in other words. -/
def Outcome.Tells {β : Type} (x : Outcome β) (y : Except Error β) : Prop :=
  ∃ r, x = answer r ∧ r.mapError Error.message = y.mapError Error.message

namespace Outcome.Tells

variable {β γ : Type} {x : Outcome β} {y : Except Error β}

theorem of_answer (y : Except Error β) : (answer y).Tells y := ⟨y, rfl, rfl⟩

theorem map (h : x.Tells y) (f : β → γ) : (f <$> x).Tells (y.map f) := by
  obtain ⟨r, rfl, h⟩ := h
  refine ⟨r.map f, map_answer f r, ?_⟩
  cases r <;> cases y <;> simp_all [Except.mapError, Except.map]

/-- What is told is accepted if it is accepted by the other computation. -/
theorem eq_pure_iff (h : x.Tells y) {b : β} : x = pure b ↔ y = .ok b := by
  obtain ⟨r, rfl, h⟩ := h
  rw [answer_eq_pure]
  cases r <;> cases y <;> simp_all [Except.mapError]

end Outcome.Tells

namespace Axis

variable {α : Type}

/-! ### Drafts in words -/

/-- What is said about an axis is said in words, and the values can be counted in words. -/
def Setting.InWords : Setting α → Prop
  | .size n => n < UInt64.size
  | .regular n _ _ _ => n < UInt64.size
  | .values l => l.length < UInt64.size
  | .range s => ∃ w : WordSlice, w.toSlice = s
  | _ => True

namespace Draft

/-- The numbers of a draft are words, and the values can be counted in words. -/
structure InWords (d : Draft α) : Prop where
  size : d.size < UInt64.size
  values : ∀ l, d.values = some l → l.length < UInt64.size
  range : ∀ s, d.range = some s → ∃ w : WordSlice, w.toSlice = s

variable [Scalar α] {d : Draft α} {spacing : Spacing} {values : List α}

theorem inWords_blank : (blank : Draft α).InWords where
  size := by
    show 0 < UInt64.size
    decide
  values := fun _ h => by cases h
  range := fun _ h => by cases h

omit [Scalar α] in
theorem InWords.set (h : d.InWords) {t : Setting α} (ht : t.InWords) : (d.set t).InWords := by
  obtain ⟨hsize, hvalues, hrange⟩ := h
  unfold Setting.InWords at ht
  cases t with
  | size n => exact ⟨ht, hvalues, hrange⟩
  | regular n start stop step => exact ⟨ht, fun _ hnone => (by cases hnone), hrange⟩
  | values l => exact ⟨hsize, fun _ hsome => Option.some.inj hsome ▸ ht, hrange⟩
  | range s => exact ⟨hsize, hvalues, fun _ hsome => Option.some.inj hsome ▸ ht⟩
  | _ => exact ⟨hsize, hvalues, hrange⟩

omit [Scalar α] in
/-- Settings given in words leave a draft in words. -/
theorem InWords.setAll {settings : List (Setting α)} (h : d.InWords)
    (hsettings : ∀ t ∈ settings, t.InWords) : (d.setAll settings).InWords := by
  induction settings generalizing d with
  | nil => exact h
  | cons t settings ih =>
    refine ih (h.set (hsettings t List.mem_cons_self)) fun u hu => ?_
    exact hsettings u (List.mem_cons_of_mem t hu)

/-- Values are given, and so many coordinates are told that the number of their values is not a word. Nothing
before that is wrong. -/
structure Outgrown (d : Draft α) (spacing : Spacing) (values : List α) : Prop where
  laid : d.spacing = some spacing
  given : d.values = some values
  dependence : d.checkDependence = .ok ()
  count : d.checkCount d.size = .ok ()
  large : spacing = .contiguousInterval ∧ d.size + 1 = UInt64.size ∨
    spacing = .discontiguousInterval ∧ UInt64.size ≤ 2 * d.size

/-- Nothing is wrong but the length of the range, and the range cannot be written, as its last index is not a
word. -/
structure Unwritable (d : Draft α) (spacing : Spacing) (s : Slice) : Prop where
  laid : d.spacing = some spacing
  dependence : d.checkDependence = .ok ()
  count : d.checkCount (d.count spacing) = .ok ()
  stored : ∃ t, d.stored spacing (d.count spacing) = .ok t
  told : d.range = some s
  length : s.len ≠ d.count spacing
  beyond : ¬s.Below UInt64.size

/-! ### The number of coordinates -/

omit [Scalar α] in
theorem count_of_size (h : d.size ≠ 0) : d.count spacing = d.size := by
  unfold count
  split
  · contradiction
  · rfl

omit [Scalar α] in
theorem Outgrown.count_eq (h : d.Outgrown spacing values) : d.count spacing = d.size :=
  count_of_size (Nat.ne_of_gt (checkCount_eq_ok.1 h.count).1)

omit [Scalar α] in
theorem count_of_values (h : d.size = 0) (hvalues : d.values = some values) :
    d.count spacing = spacing.coordinatesOf values.length := by
  simp only [count, h, hvalues]

omit [Scalar α] in
theorem InWords.count_lt (h : d.InWords) (spacing : Spacing) : d.count spacing < UInt64.size := by
  by_cases hsize : d.size = 0
  · cases hvalues : d.values with
    | none =>
      simp only [count, hsize, hvalues]
      decide
    | some values =>
      rw [count_of_values hsize hvalues]
      have hlength := h.values values hvalues
      cases spacing <;> simp only [Spacing.coordinatesOf] <;> omega
  · rw [count_of_size hsize]
    exact h.size

omit [Scalar α] in
theorem InWords.toNat_count (h : d.InWords) (spacing : Spacing) :
    (UInt64.ofNat (d.count spacing)).toNat = d.count spacing :=
  UInt64.toNat_ofNat_of_lt' (h.count_lt spacing)

omit [Scalar α] in
/-- Only told coordinates may need more values than can be counted. -/
theorem outgrown_iff (h : d.InWords) (hspacing : d.spacing = some spacing)
    (hvalues : d.values = some values) (hdep : d.checkDependence = .ok ())
    (hcount : d.checkCount (d.count spacing) = .ok ()) :
    d.Outgrown spacing values ↔ UInt64.size ≤ spacing.valuesLen (d.count spacing) := by
  have hpos := (checkCount_eq_ok.1 hcount).1
  by_cases hsize : d.size = 0
  · -- The coordinates are counted from values that are there.
    rw [count_of_values hsize hvalues] at hpos ⊢
    have hle := Spacing.valuesLen_coordinatesOf_le hpos
    have hlength := h.values values hvalues
    refine iff_of_false (fun hout => ?_) (by omega)
    have hword : 1 < UInt64.size := by decide
    have hlarge := hout.large
    omega
  · rw [count_of_size hsize] at hcount ⊢
    rw [Spacing.size_le_valuesLen_iff h.size]
    exact ⟨Outgrown.large, fun hlarge => ⟨hspacing, hvalues, hdep, hcount, hlarge⟩⟩

section Outgrown

variable (h : d.Outgrown spacing values)

include h

omit [Scalar α] in
theorem Outgrown.isRegular : spacing.isRegular = false := by
  rcases h.large with ⟨rfl, -⟩ | ⟨rfl, -⟩
  · rfl
  · rfl

variable (hd : d.InWords)

include hd

omit [Scalar α] in
theorem Outgrown.size_le : UInt64.size ≤ spacing.valuesLen d.size :=
  (Spacing.size_le_valuesLen_iff hd.size).2 h.large

omit [Scalar α] in
/-- What is left of the number of values in words. -/
theorem Outgrown.toNat_left :
    (UInt64.ofNat (spacing.valuesLen d.size)).toNat = spacing.valuesLen d.size - UInt64.size := by
  have hlarge := h.size_le hd
  have hdouble := Spacing.valuesLen_lt_double (s := spacing) hd.size
  rw [UInt64.toNat_ofNat', Nat.mod_eq_sub_mod hlarge]
  exact Nat.mod_eq_of_lt (by omega)

/-- The exact number of values is larger than that of the values that are given. -/
theorem Outgrown.stored_eq : d.stored spacing d.size =
    .error (.shapeMismatch d.name [spacing.valuesLen d.size] [values.length]) := by
  have hlength := hd.values values h.given
  have hlarge := h.size_le hd
  have hne : values.length ≠ spacing.valuesLen d.size := by omega
  simp only [stored, h.isRegular, h.given, hne, if_false, Bool.false_eq_true]

end Outgrown

/-! ### The checks in words -/

variable {o : Overflow} {count : UInt64}

omit [Scalar α] in
theorem endsWord_of_ne {expected : UInt64} (hlength : values.length < UInt64.size)
    (h : values.length ≠ expected.toNat) : d.endsWord o values expected =
      throw (.shapeMismatch d.name [expected.toNat] [values.length]) := by
  have hne : UInt64.ofNat values.length ≠ expected := by
    rintro rfl
    exact h (UInt64.toNat_ofNat_of_lt' hlength).symm
  rw [endsWord, if_neg hne]

theorem endsWord_of_eq {expected : UInt64} (h : values.length = expected.toNat) (hne : values ≠ []) :
    d.endsWord o values expected =
      pure (values.getD 0 Scalar.nan, values.getD (values.length - 1) Scalar.nan, values) := by
  have hpos : 0 < values.length := List.length_pos_iff.2 hne
  have hword : UInt64.ofNat values.length = expected := by rw [h, UInt64.ofNat_toNat]
  have hfirst : values[0]? = some (values.getD 0 Scalar.nan) := by simp [List.getD, hpos]
  have hlast : values[values.length - 1]? = some (values.getD (values.length - 1) Scalar.nan) := by
    simp [List.getD, hpos]
  have hone : (1 : UInt64) ≤ expected := UInt64.le_iff_toNat_le.2 (h ▸ hpos)
  obtain ⟨i, hi, heq⟩ := Word.gives_sub (o := o) hone
  have hi : i.toNat = values.length - 1 := hi.trans (by rw [h]; rfl)
  rw [endsWord, if_pos hword, hfirst, heq]
  show (liftM values[i.toNat]? : Outcome α) >>= _ = _
  rw [hi, hlast]
  rfl

/-- The number of values is all that may not be a word. -/
theorem storedWord_eq (hreg : spacing.isRegular = false) (hvalues : d.values = some values) :
    d.storedWord o spacing count =
      liftM (Word.fit (spacing.valuesLen count.toNat) o) >>= d.endsWord o values := by
  simp only [storedWord, hreg, hvalues, Spacing.valuesLenWord_eq]

/-- The values are checked exactly as long as their number fits. -/
theorem storedWord_of_fits (h : d.InWords) (hpos : 0 < count.toNat)
    (hfits : ∀ values, d.values = some values → spacing.valuesLen count.toNat < UInt64.size) :
    d.storedWord o spacing count = answer (d.stored spacing count.toNat) := by
  cases hreg : spacing.isRegular with
  | true => simp only [storedWord, hreg, liftM_eq]
  | false =>
    cases hvalues : d.values with
    | none => simp only [storedWord, hreg, hvalues, liftM_eq]
    | some values =>
      have hfit := hfits values hvalues
      have hexpected : (UInt64.ofNat (spacing.valuesLen count.toNat)).toNat =
          spacing.valuesLen count.toNat := UInt64.toNat_ofNat_of_lt' hfit
      have hends : d.storedWord o spacing count =
          d.endsWord o values (.ofNat (spacing.valuesLen count.toNat)) := by
        rw [storedWord_eq hreg hvalues, Word.fit_of_lt hfit]
        rfl
      rw [hends, stored, if_neg (by rw [hreg]; exact Bool.false_ne_true), hvalues]
      by_cases hlength : values.length = spacing.valuesLen count.toNat
      · have hne : values ≠ [] := by
          rintro rfl
          have := Spacing.valuesLen_pos hreg hpos
          rw [← hlength] at this
          exact lt_irrefl 0 this
        rw [endsWord_of_eq (hlength.trans hexpected.symm) hne]
        simp only [hlength, if_true]
        rfl
      · rw [endsWord_of_ne (h.values values hvalues) (by rwa [hexpected]), hexpected]
        simp only [hlength, if_false]
        rfl

section Range

omit [Scalar α] in
theorem rangeWord_of_len (h : ∀ s, d.range = some s → s.len = count.toNat) :
    d.rangeWord o count = answer (d.rangeFor count.toNat) := by
  unfold rangeWord
  cases hrange : d.range with
  | none => rfl
  | some s => exact if_pos (h s hrange)

section WrongLength

variable {w : WordSlice} (hrange : d.range = some w.toSlice) (hlen : w.toSlice.len ≠ count.toNat)

include hrange hlen

omit [Scalar α] in
theorem rangeFor_of_ne :
    d.rangeFor count.toNat = .error (.invalidRange (.wrongLength w.toSlice d.name count.toNat)) := by
  simp only [rangeFor, hrange, hlen, if_false]

omit [Scalar α] in
/-- A range of the wrong length is refused in words as well, once it is written. -/
theorem rangeWord_of_ne : d.rangeWord o count = liftM (w.text o) >>= fun written =>
    throw (.invalidRange (.stated (RangeFault.wrongLengthText written d.name count.toNat))) := by
  simp only [rangeWord, hrange, hlen, if_false, WordSlice.ofSlice_toSlice]

omit [Scalar α] in
theorem rangeWord_stops (hbeyond : ¬w.Fits) : d.rangeWord .stops count = brokenOff := by
  rw [rangeWord_of_ne hrange hlen, WordSlice.text_stops_eq_none.2 hbeyond]
  rfl

omit [Scalar α] in
theorem exists_rangeWord_wraps : ∃ e, d.rangeWord .wraps count = throw e := by
  obtain ⟨written, hwritten⟩ := w.exists_text_wraps
  rw [rangeWord_of_ne hrange hlen, hwritten]
  exact ⟨_, rfl⟩

end WrongLength

omit [Scalar α] in
/-- The range is checked exactly, if one of the wrong length can be written. -/
theorem rangeWord_tells (hd : d.InWords)
    (h : ∀ s, d.range = some s → s.len ≠ count.toNat → s.Below UInt64.size) :
    (d.rangeWord o count).Tells (d.rangeFor count.toNat) := by
  by_cases hlen : ∀ s, d.range = some s → s.len = count.toNat
  · rw [rangeWord_of_len hlen]
    exact .of_answer _
  · push Not at hlen
    obtain ⟨s, htold, hne⟩ := hlen
    obtain ⟨w, rfl⟩ := hd.range s htold
    have hfits : w.Fits := h _ htold hne
    rw [rangeWord_of_ne htold hne, rangeFor_of_ne htold hne, WordSlice.text_eq hfits]
    exact ⟨_, rfl, rfl⟩

omit [Scalar α] in
/-- If the computation goes on, a range is accepted if it is accepted exactly. -/
theorem rangeWord_wraps (hd : d.InWords) (count : UInt64) : ∃ r, d.rangeWord .wraps count = answer r ∧
    ((∃ s, r = .ok s) ↔ ∃ s, d.rangeFor count.toNat = .ok s) := by
  by_cases hlen : ∀ s, d.range = some s → s.len = count.toNat
  · exact ⟨_, rangeWord_of_len hlen, Iff.rfl⟩
  · push Not at hlen
    obtain ⟨s, htold, hne⟩ := hlen
    obtain ⟨w, rfl⟩ := hd.range s htold
    obtain ⟨e, he⟩ := exists_rangeWord_wraps htold hne
    refine ⟨.error e, he, ?_⟩
    rw [rangeFor_of_ne htold hne]
    exact iff_of_false (fun ⟨_, h⟩ => by cases h) (fun ⟨_, h⟩ => by cases h)

end Range

/-! ### Making the axis in words -/

/-- The spacing, the dependence and the number of coordinates are checked first. -/
theorem build_of_spacing (hspacing : d.spacing = some spacing) :
    d.build = (d.checkDependence >>= fun _ => d.checkCount (d.count spacing)) >>= fun _ =>
      d.stored spacing (d.count spacing) >>= fun t =>
        (d.rangeFor (d.count spacing)).map (d.assemble spacing (d.count spacing) t) := by
  simp only [build, hspacing, bind_assoc]
  rfl

theorem buildWord_of_spacing (hd : d.InWords) (hspacing : d.spacing = some spacing) :
    d.buildWord o = answer (d.checkDependence >>= fun _ => d.checkCount (d.count spacing)) >>= fun _ =>
      d.storedWord o spacing (.ofNat (d.count spacing)) >>= fun t =>
        d.assemble spacing (d.count spacing) t <$> d.rangeWord o (.ofNat (d.count spacing)) := by
  simp only [buildWord, hspacing, hd.toNat_count spacing]
  cases d.checkDependence <;> rfl

section Checked

variable (hspacing : d.spacing = some spacing)
  (hchecks : (d.checkDependence >>= fun _ => d.checkCount (d.count spacing)) = .ok ())

include hspacing hchecks

theorem build_of_checked : d.build = d.stored spacing (d.count spacing) >>= fun t =>
    (d.rangeFor (d.count spacing)).map (d.assemble spacing (d.count spacing) t) := by
  rw [build_of_spacing hspacing, hchecks, ok_bind]

theorem buildWord_of_checked (hd : d.InWords) : d.buildWord o =
    d.storedWord o spacing (.ofNat (d.count spacing)) >>= fun t =>
      d.assemble spacing (d.count spacing) t <$> d.rangeWord o (.ofNat (d.count spacing)) := by
  rw [buildWord_of_spacing hd hspacing, hchecks, answer_ok_bind]

end Checked

omit [Scalar α] in
theorem checks_eq_ok : (d.checkDependence >>= fun _ => d.checkCount (d.count spacing)) = .ok () ↔
    d.checkDependence = .ok () ∧ d.checkCount (d.count spacing) = .ok () := by
  rw [bind_eq_ok]
  exact ⟨fun ⟨_, hdep, hcount⟩ => ⟨hdep, hcount⟩, fun ⟨hdep, hcount⟩ => ⟨(), hdep, hcount⟩⟩

/-- As long as every number fits, the axis is made in words as it is made exactly. -/
theorem buildWord_tells (hd : d.InWords) (hfits : ∀ spacing values, ¬d.Outgrown spacing values)
    (hwritable : ∀ spacing s, ¬d.Unwritable spacing s) (o : Overflow) : (d.buildWord o).Tells d.build := by
  cases hspacing : d.spacing with
  | none =>
    simp only [buildWord, build, hspacing]
    exact .of_answer _
  | some spacing =>
    cases hchecks : (d.checkDependence >>= fun _ => d.checkCount (d.count spacing)) with
    | error e =>
      rw [buildWord_of_spacing hd hspacing, build_of_spacing hspacing, hchecks]
      exact .of_answer (.error e)
    | ok =>
      obtain ⟨hdep, hcount⟩ := checks_eq_ok.1 hchecks
      have hn := hd.toNat_count spacing
      have hpos : 0 < (UInt64.ofNat (d.count spacing)).toNat := by
        rw [hn]
        exact (checkCount_eq_ok.1 hcount).1
      have hlen : ∀ values, d.values = some values →
          spacing.valuesLen (UInt64.ofNat (d.count spacing)).toNat < UInt64.size := by
        intro values hvalues
        rw [hn]
        by_contra hlarge
        exact hfits spacing values
          ((outgrown_iff hd hspacing hvalues hdep hcount).2 (Nat.not_lt.1 hlarge))
      rw [buildWord_of_checked hspacing hchecks hd, build_of_checked hspacing hchecks,
        storedWord_of_fits hd hpos hlen, hn]
      cases hstored : d.stored spacing (d.count spacing) with
      | error e => exact .of_answer (.error e)
      | ok t =>
        have hrange : (d.rangeWord o (.ofNat (d.count spacing))).Tells
            (d.rangeFor (UInt64.ofNat (d.count spacing)).toNat) := by
          refine rangeWord_tells hd fun s htold hne => ?_
          by_contra hbeyond
          exact hwritable spacing s
            ⟨hspacing, hdep, hcount, ⟨t, hstored⟩, htold, by rwa [hn] at hne, hbeyond⟩
        rw [hn] at hrange
        exact hrange.map _

section Unwritable

variable {s : Slice} (h : d.Unwritable spacing s) (hd : d.InWords)

include h hd

/-- The values are stored, and the range is of the wrong length. -/
theorem Unwritable.exists_buildWord_eq (o : Overflow) : ∃ (w : WordSlice) (t : α × α × List α),
    ¬w.Fits ∧ d.range = some w.toSlice ∧
      w.toSlice.len ≠ (UInt64.ofNat (d.count spacing)).toNat ∧
      d.build = (d.rangeFor (UInt64.ofNat (d.count spacing)).toNat).map
        (d.assemble spacing (d.count spacing) t) ∧
      d.buildWord o =
        d.assemble spacing (d.count spacing) t <$> d.rangeWord o (.ofNat (d.count spacing)) := by
  have hn := hd.toNat_count spacing
  have hchecks := checks_eq_ok.2 ⟨h.dependence, h.count⟩
  obtain ⟨w, rfl⟩ := hd.range s h.told
  obtain ⟨t, ht⟩ := h.stored
  have hpos : 0 < (UInt64.ofNat (d.count spacing)).toNat := by
    rw [hn]
    exact (checkCount_eq_ok.1 h.count).1
  have hstored : d.storedWord o spacing (.ofNat (d.count spacing)) = pure t := by
    rw [storedWord_of_fits hd hpos, hn, ht]
    · rfl
    · intro values hvalues
      rw [hn]
      by_contra hlarge
      have hout := (outgrown_iff hd h.laid hvalues h.dependence h.count).2 (Nat.not_lt.1 hlarge)
      rw [hout.count_eq, hout.stored_eq hd] at ht
      cases ht
  refine ⟨w, t, h.beyond, h.told, hn.symm ▸ h.length, ?_, ?_⟩
  · rw [build_of_checked h.laid hchecks, ht, ok_bind, hn]
  · rw [buildWord_of_checked h.laid hchecks hd, hstored]
    rfl

theorem Unwritable.buildWord_stops : d.buildWord .stops = brokenOff := by
  obtain ⟨w, t, hbeyond, htold, hne, -, hword⟩ := h.exists_buildWord_eq hd .stops
  rw [hword, rangeWord_stops htold hne hbeyond]
  rfl

/-- The axis is refused all the same, with what is left of the range in the message. -/
theorem Unwritable.buildWord_wraps :
    (∃ e, d.buildWord .wraps = throw e) ∧ ∃ e, d.build = .error e := by
  obtain ⟨w, t, -, htold, hne, hbuild, hword⟩ := h.exists_buildWord_eq hd .wraps
  obtain ⟨e, he⟩ := exists_rangeWord_wraps htold hne
  constructor
  · rw [hword, he]
    exact ⟨e, rfl⟩
  · rw [hbuild, rangeFor_of_ne htold hne]
    exact ⟨_, rfl⟩

end Unwritable

section Outgrown

variable (h : d.Outgrown spacing values) (hd : d.InWords)

include h hd

omit [Scalar α] hd in
theorem Outgrown.checks_eq :
    (d.checkDependence >>= fun _ => d.checkCount (d.count spacing)) = .ok () :=
  checks_eq_ok.2 ⟨h.dependence, h.count_eq ▸ h.count⟩

theorem Outgrown.build_eq : d.build =
    .error (.shapeMismatch d.name [spacing.valuesLen d.size] [values.length]) := by
  rw [build_of_checked h.laid h.checks_eq, h.count_eq, h.stored_eq hd]
  rfl

theorem Outgrown.storedWord_eq (o : Overflow) : d.storedWord o spacing (.ofNat (d.count spacing)) =
    liftM (Word.fit (spacing.valuesLen d.size) o) >>= d.endsWord o values := by
  rw [Draft.storedWord_eq h.isRegular h.given, hd.toNat_count, h.count_eq]

theorem Outgrown.buildWord_stops : d.buildWord .stops = brokenOff := by
  rw [buildWord_of_checked h.laid h.checks_eq hd, h.storedWord_eq hd,
    Word.fit_stops_of_le (h.size_le hd)]
  rfl

/-- Without values there is no answer if nothing is left of their number. Any values are accepted that are
what is left of it, and others are refused. -/
theorem Outgrown.buildWord_wraps :
    (d.buildWord .wraps = brokenOff ↔ values = [] ∧ spacing.valuesLen d.size = UInt64.size) ∧
    ((∃ a, d.buildWord .wraps = pure a) ↔ values ≠ [] ∧
      spacing.valuesLen d.size = UInt64.size + values.length ∧ ∃ r, d.rangeFor d.size = .ok r) := by
  have hlarge := h.size_le hd
  have hleft := h.toNat_left hd
  have hstored : d.storedWord .wraps spacing (.ofNat (d.count spacing)) =
      d.endsWord .wraps values (.ofNat (spacing.valuesLen d.size)) := h.storedWord_eq hd .wraps
  rw [buildWord_of_checked h.laid h.checks_eq hd, hstored]
  by_cases heq : spacing.valuesLen d.size = UInt64.size + values.length
  · by_cases hnil : values = []
    · have hall : spacing.valuesLen d.size = UInt64.size := by simpa [hnil] using heq
      have hends : d.endsWord .wraps values (.ofNat (spacing.valuesLen d.size)) = brokenOff := by
        rw [hnil, hall]
        rfl
      rw [hends]
      exact ⟨iff_of_true rfl ⟨hnil, hall⟩,
        iff_of_false (fun ⟨_, hmade⟩ => by cases hmade) fun hmade => hmade.1 hnil⟩
    · obtain ⟨r, hrange, hiff⟩ := rangeWord_wraps hd (.ofNat (d.count spacing))
      rw [hd.toNat_count, h.count_eq] at hiff
      have hlength : values.length = (UInt64.ofNat (spacing.valuesLen d.size)).toNat := by omega
      rw [endsWord_of_eq hlength hnil, pure_bind, hrange, map_answer]
      refine ⟨iff_of_false answer_ne_brokenOff fun hnone => hnil hnone.1, ?_⟩
      simp only [answer_eq_pure, map_eq_ok, ← hiff]
      constructor
      · rintro ⟨a, s, hs, -⟩
        exact ⟨hnil, heq, s, hs⟩
      · rintro ⟨-, -, s, hs⟩
        exact ⟨_, s, hs, rfl⟩
  · have hne : values.length ≠ (UInt64.ofNat (spacing.valuesLen d.size)).toNat := by omega
    rw [endsWord_of_ne (hd.values values h.given) hne]
    refine ⟨iff_of_false throw_ne_brokenOff ?_, iff_of_false ?_ fun hmade => heq hmade.2.1⟩
    · rintro ⟨rfl, hall⟩
      exact heq hall
    · rintro ⟨a, ha⟩
      cases ha

end Outgrown

end Draft

/-- **When an axis is made in words.** Whatever settings are given, making the axis is broken off if values
are given and so many coordinates are told that the number of values they need is not a word, or if all that
is wrong is the length of a range that cannot be written. Otherwise every number fits, and in words the same
answer is given as exactly. What is accepted exactly has all its values, and among them a first and a last
one. If a number that does not fit is made to lose its upper part instead, the range that cannot be written
is refused all the same. But the values, which the exact check refuses, are accepted if they are what is left
of their number, and without any values there is no answer if nothing is left. -/
theorem buildWord_exact_iff {d : Draft α} [Scalar α] (hd : d.InWords) {settings : List (Setting α)}
    (hsettings : ∀ t ∈ settings, t.InWords) :
    let made := d.setAll settings
    (made.buildWord .stops = brokenOff ↔
      (∃ spacing values, made.Outgrown spacing values) ∨ ∃ spacing s, made.Unwritable spacing s) ∧
    ((∀ spacing values, ¬made.Outgrown spacing values) → (∀ spacing s, ¬made.Unwritable spacing s) →
      ∀ o, (made.buildWord o).Tells made.build) ∧
    (∀ a, made.build = .ok a → a.values.length = a.spacing.valuesLen a.size ∧
      (a.spacing.isRegular = false →
        a.values.head? = some a.start ∧ a.values.getLast? = some a.stop)) ∧
    (∀ spacing s, made.Unwritable spacing s →
      (∃ e, made.buildWord .wraps = throw e) ∧ ∃ e, made.build = .error e) ∧
    ∀ spacing values, made.Outgrown spacing values →
      made.build =
        .error (.shapeMismatch made.name [spacing.valuesLen made.size] [values.length]) ∧
      (made.buildWord .wraps = brokenOff ↔
        values = [] ∧ spacing.valuesLen made.size = UInt64.size) ∧
      ((∃ a, made.buildWord .wraps = pure a) ↔ values ≠ [] ∧
        spacing.valuesLen made.size = UInt64.size + values.length ∧
        ∃ r, made.rangeFor made.size = .ok r) := by
  intro made
  have hmade : made.InWords := hd.setAll hsettings
  refine ⟨⟨fun hbroken => ?_, ?_⟩, Draft.buildWord_tells hmade, fun a ha => ?_,
    fun spacing s hrange => hrange.buildWord_wraps hmade,
    fun spacing values hout => ⟨hout.build_eq hmade, hout.buildWord_wraps hmade⟩⟩
  · by_contra hfits
    push Not at hfits
    obtain ⟨r, hr, -⟩ := Draft.buildWord_tells hmade hfits.1 hfits.2 .stops
    exact answer_ne_brokenOff (hr.symm.trans hbroken)
  · rintro (⟨spacing, values, hout⟩ | ⟨spacing, s, hrange⟩)
    · exact hout.buildWord_stops hmade
    · exact hrange.buildWord_stops hmade
  · have hintact := Built.intact ⟨made, ha⟩
    exact ⟨hintact.length_values, fun hreg => ⟨hintact.start_eq hreg, hintact.stop_eq hreg⟩⟩

/-- Two cells, of which the number, the edges and a range are told. -/
def twoCells : List (Setting ℚ) :=
  [.name "z", .kind .geoZ, .spacing .contiguousInterval, .size 2, .values [0, 10, 30],
    .range ⟨none, 4, 2, 3⟩]

theorem buildWord_exact_iff_twoCells : (Draft.blank : Draft ℚ).InWords ∧
    (∀ t ∈ twoCells, t.InWords) ∧
    ∃ a, (Draft.blank.setAll twoCells).buildWord .stops = pure a ∧
      (Draft.blank.setAll twoCells).build = .ok a ∧ a.size = 2 ∧ a.values.length = 3 ∧
      a.values.head? = some a.start ∧ a.values.getLast? = some a.stop := by
  have hwords : ∀ t ∈ twoCells, t.InWords := by
    intro t ht
    simp only [twoCells, List.mem_cons, List.not_mem_nil, or_false] at ht
    rcases ht with rfl | rfl | rfl | rfl | rfl | rfl
    · trivial
    · trivial
    · trivial
    · show 2 < UInt64.size
      decide
    · show 3 < UInt64.size
      decide
    · exact ⟨⟨none, 4, 2, 3⟩, rfl⟩
  obtain ⟨-, htells, hvalues, -⟩ := buildWord_exact_iff Draft.inWords_blank hwords
  have hfits : ∀ spacing values, ¬(Draft.blank.setAll twoCells).Outgrown spacing values := by
    intro spacing values hout
    have hspacing : Spacing.contiguousInterval = spacing := Option.some.inj hout.laid
    subst hspacing
    rcases hout.large with ⟨-, hlarge⟩ | ⟨hother, -⟩
    · exact absurd hlarge (by decide)
    · cases hother
  have hwritable : ∀ spacing s, ¬(Draft.blank.setAll twoCells).Unwritable spacing s := by
    intro spacing s hrange
    have htold : (⟨none, 4, 2, 3⟩ : Slice) = s := Option.some.inj hrange.told
    exact hrange.length (htold ▸ rfl)
  obtain ⟨hlength, hends⟩ := hvalues _ rfl
  exact ⟨Draft.inWords_blank, hwords, _, (htells hfits hwritable .stops).eq_pure_iff.2 rfl, rfl, rfl,
    hlength, hends rfl⟩

/-- An axis of cells that touch, without edges, as long as words can tell. -/
def endlessCells : List (Setting ℚ) :=
  [.name "z", .kind .geoZ, .spacing .contiguousInterval, .size 18446744073709551615, .values []]

/-- One cell more than half of the words, of which all but one are without edges. -/
def bareCells : List (Setting ℚ) :=
  [.name "z", .kind .geoZ, .spacing .discontiguousInterval, .size 9223372036854775809,
    .values [0, 10]]

/-- The numbers of words and of words and two do not fit. Of the first nothing is left, and the first of no
values is read. Of the second two is left. -/
theorem not_buildWord_exact_endlessCells :
    ((∀ t ∈ endlessCells, t.InWords) ∧
      (∀ o, (Draft.blank.setAll endlessCells).buildWord o = brokenOff) ∧
      (Draft.blank.setAll endlessCells).build =
        .error (.shapeMismatch "z" [18446744073709551616] [0])) ∧
    (Draft.blank.setAll bareCells).buildWord .stops = brokenOff ∧
    ∃ a, (Draft.blank.setAll bareCells).buildWord .wraps = pure a ∧
      a.size = 9223372036854775809 ∧ a.values = [0, 10] := by
  refine ⟨⟨?_, fun o => by cases o <;> rfl, rfl⟩, rfl, _, rfl, rfl, rfl⟩
  intro t ht
  simp only [endlessCells, List.mem_cons, List.not_mem_nil, or_false] at ht
  rcases ht with rfl | rfl | rfl | rfl | rfl
  · trivial
  · trivial
  · trivial
  · show 18446744073709551615 < UInt64.size
    decide
  · show 0 < UInt64.size
    decide

end Axis

end Gridded
