import Gridded.Calendar.Scale
import Gridded.Proofs.Calendar.Instants
import Gridded.Proofs.Text.Words

/-!
# Time scales read and written

A written scale is read back with its period, and with its base to the whole second: the written form has no
place for a fraction, although the text that a scale is read from may have one.

* `TimeScale.splitAround_append`: the first place of a mark behind a text without its first character;
* `TimeScale.ofText_eq_ok`: what is read, of a period and a base that are read;
* `TimeScale.ofText_text_wholeSecond`: reading a written scale.
-/

namespace Gridded

theorem Instant.trim_secondsText (t : Instant) : Text.trim t.secondsText = t.secondsText := by
  obtain ⟨c, chars, hc, hcons⟩ := Date.exists_yearText_eq_cons t.fields.date.year
  refine Text.trim_eq_self ?_ ?_
  · rw [toList_secondsText, toList_localText, Date.toList_text, hcons]
    simpa using hc
  · have hzulu : Text.isBlank 'Z' = false := by decide
    rw [toList_secondsText, List.getLast?_concat]
    simpa using hzulu

theorem Period.ofText?_text (p : Period) : ofText? p.text = some p := by
  cases p <;> decide +kernel

namespace TimeScale

/-- The first mark stands behind a text that does not have its first character. -/
theorem splitAround_append {c : Char} {before : List Char} (h : c ∉ before) (mark after : List Char) :
    splitAround (c :: mark) (before ++ (c :: mark ++ after)) = some (before, after) := by
  induction before with
  | nil => simp [splitAround]
  | cons d before ih =>
    rw [List.mem_cons, not_or] at h
    have hrest := ih h.2
    simp only [splitAround, List.cons_append, List.isPrefixOf_cons_cons] at hrest ⊢
    simp [h.1, hrest]

/-- A scale is read if its period and its base are. -/
theorem ofText_eq_ok {period : Period} {base : String} {t : Instant} (hbase : Text.trim base = base)
    (ht : Instant.ofText? base = some t) :
    ofText (period.text ++ " since " ++ base) = .ok ⟨period, t⟩ := by
  -- The name of a period is one word, so the first space of the text begins the mark.
  have hspace : ' ' ∉ period.text.toList := by cases period <;> decide
  have hsplit : splitAround sinceMark (period.text ++ " since " ++ base).toList =
      some (period.text.toList, base.toList) := by
    rw [String.toList_append, String.toList_append, List.append_assoc]
    exact splitAround_append hspace "since ".toList base.toList
  simp only [ofText, hsplit, String.ofList_toList, Period.ofText?_text, hbase, Instant.ofText, ht]
  rfl

/-- The base of a scale is read as an instant. -/
theorem exists_base_of_ofText {text : String} {s : TimeScale} (h : ofText text = .ok s) :
    ∃ base, Instant.ofText? base = some s.base := by
  rw [ofText] at h
  cases hsplit : splitAround sinceMark text.toList with
  | none =>
    rw [hsplit] at h
    cases h
  | some parts =>
    cases hperiod : Period.ofText? (String.ofList parts.1) with
    | none =>
      simp only [hsplit, hperiod] at h
      cases h
    | some period =>
      cases hbase : Instant.ofText? (Text.trim (String.ofList parts.2)) with
      | none =>
        simp only [hsplit, hperiod, Instant.ofText, hbase] at h
        cases h
      | some t =>
        simp only [hsplit, hperiod, Instant.ofText, hbase] at h
        obtain rfl : ⟨period, t⟩ = s := Except.ok.inj h
        exact ⟨_, hbase⟩

/-- A written scale is read with its period and its base to the whole second, and so it is read as itself if
and only if its base has no fraction of a second. -/
theorem ofText_text_wholeSecond {text : String} {s : TimeScale} (h : ofText text = .ok s) :
    ofText s.text = .ok ⟨s.period, s.base.wholeSecond⟩ ∧
      (ofText s.text = .ok s ↔ s.base.nanos % Instant.second = 0) := by
  obtain ⟨base, hbase⟩ := exists_base_of_ofText h
  have hproper := Instant.proper_of_ofText? hbase
  have hread : ofText s.text = .ok ⟨s.period, s.base.wholeSecond⟩ :=
    ofText_eq_ok s.base.trim_secondsText (Instant.ofText?_secondsText hproper)
  refine ⟨hread, ?_⟩
  rw [hread, ← Instant.wholeSecond_eq_self_iff]
  constructor
  · intro hsame
    exact congrArg TimeScale.base (Except.ok.inj hsame)
  · intro hsame
    rw [hsame]

/-- A leap second is kept, and a fraction of it is not. -/
theorem ofText_text_wholeSecond_leapSecond :
    ∃ s, ofText "days since 2016-12-31T23:59:60.25Z" = .ok s ∧ s.text = "days since 2016-12-31T23:59:60Z" ∧
      ofText s.text = .ok ⟨.days, ⟨1483228799, 1000000000⟩⟩ ∧ ofText s.text ≠ .ok s := by
  have hread : ofText "days since 2016-12-31T23:59:60.25Z" = .ok ⟨.days, ⟨1483228799, 1250000000⟩⟩ := by
    decide +kernel
  obtain ⟨hwhole, hiff⟩ := ofText_text_wholeSecond hread
  exact ⟨_, hread, by decide +kernel, hwhole, fun hsame => absurd (hiff.1 hsame) (by decide)⟩

/-- Half a second in a base is read and not written. -/
theorem not_ofText_text_halfSecond :
    ¬ ∀ (text : String) (s : TimeScale), ofText text = .ok s → ofText s.text = .ok s := by
  intro h
  have hread : ofText "seconds since 2024-01-15T00:00:00.5Z" = .ok ⟨.seconds, ⟨1705276800, 500000000⟩⟩ := by
    decide +kernel
  have hsame := h _ _ hread
  revert hsame
  decide +kernel

end TimeScale

end Gridded
