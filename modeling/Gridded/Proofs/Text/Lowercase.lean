import Mathlib.Tactic.SplitIfs
import Gridded.Text.Lowercase

/-!
# Lower case of ASCII texts

Texts of ASCII characters are lowered character by character, without a look into the tables of letters.
Other characters are lowered to characters that are not ASCII either, save for the sign of the kelvin, which
is lowered to a `k`.

* `Text.lowerChar_ascii`, `Text.lowercase_ascii`: the lower case of a character and of a text;
* `Text.foldedName_ascii`: the folded form of a name without white space at its ends;
* `Text.exists_lowerChar_beyond`: what the lower case of a character that is not ASCII has in it;
* `Text.foldedName_eq_iff`: a text is folded to ASCII characters other than `k` exactly if it equals them up
  to the case of ASCII letters.
-/

namespace Gridded.Text

/-- Of the runs of capitals, only the first has ASCII characters. -/
theorem covers_ascii {code : Nat} (h : code < 128) :
    ∀ run ∈ caseRuns.tail, run.covers code = false := by
  have hfirst : ∀ run ∈ caseRuns.tail, 128 ≤ run.first := by decide +kernel
  intro run hrun
  have hlt : ¬ run.first ≤ code := by
    have := hfirst run hrun
    omega
  simp [CaseRun.covers, hlt]

theorem lowerChar_ascii {c : Char} (h : c.toNat < 128) : lowerChar c = [c.toLower] := by
  have hfirst : ∀ n < 128, Char.ofNat n ≠ 'İ' ∧
      (if (⟨0x41, 0x5a, 1, 32⟩ : CaseRun).covers (Char.ofNat n).toNat then
        Char.ofNat ((Char.ofNat n).toNat + 32) else Char.ofNat n) = (Char.ofNat n).toLower := by
    decide +kernel
  obtain ⟨hdotted, hlower⟩ := hfirst c.toNat h
  rw [Char.ofNat_toNat] at hdotted hlower
  have hruns : caseRuns = ⟨0x41, 0x5a, 1, 32⟩ :: caseRuns.tail := rfl
  have hrest : caseRuns.tail.find? (·.covers c.toNat) = none :=
    List.find?_eq_none.2 fun run hrun => by simp [covers_ascii h run hrun]
  rw [lowerChar, if_neg hdotted, hruns, List.find?_cons, hrest, ← hlower]
  cases (⟨0x41, 0x5a, 1, 32⟩ : CaseRun).covers c.toNat <;> rfl

theorem lowerFrom_ascii {chars : List Char} (h : ∀ c ∈ chars, c.toNat < 128) (before : List Char) :
    lowerFrom before chars = chars.map Char.toLower := by
  induction chars generalizing before with
  | nil => rfl
  | cons c chars ih =>
    rw [List.forall_mem_cons] at h
    have hsigma : c ≠ 'Σ' := by
      rintro rfl
      exact absurd h.1 (by decide)
    rw [lowerFrom, if_neg hsigma, lowerChar_ascii h.1, ih h.2]
    rfl

theorem lowercase_ascii {text : String} (h : ∀ c ∈ text.toList, c.toNat < 128) :
    lowercase text = String.ofList (text.toList.map Char.toLower) := by
  rw [lowercase, lowerFrom_ascii h]

theorem foldedName_ascii {text : String} (htrim : trim text = text)
    (h : ∀ c ∈ text.toList, c.toNat < 128) :
    foldedName text = String.ofList (text.toList.map Char.toLower) := by
  rw [foldedName, htrim, lowercase_ascii h]

/-! ### Characters that are not ASCII -/

/-- The run that lowers the sign of the kelvin. -/
def kelvinRun : CaseRun := ⟨0x212a, 0x212a, 1, -8383⟩

/-- All other runs but the first lower characters to characters that are not ASCII. -/
theorem shift_beyond : ∀ run ∈ caseRuns, run.last < 128 ∨ run = kelvinRun ∨
    128 ≤ run.first + run.shift ∧ (run.last + run.shift < 0xd800 ∨
      0xdfff < run.first + run.shift ∧ run.last + run.shift < 0x110000) := by
  decide +kernel

theorem toNat_ofNat {n : Nat} (h : n.isValidChar) : (Char.ofNat n).toNat = n := by
  rw [Char.ofNat, dif_pos h]
  rfl

theorem exists_lowerChar_beyond {c : Char} (h : 128 ≤ c.toNat) :
    ∃ d ∈ lowerChar c, 128 ≤ d.toNat ∨ d = 'k' := by
  unfold lowerChar
  split_ifs with hdotted
  · exact ⟨'\u0307', by decide, .inl (by decide)⟩
  · split
    · rename_i run hfind
      refine ⟨_, List.mem_singleton_self _, ?_⟩
      have hcovers : (run.first ≤ c.toNat ∧ c.toNat ≤ run.last) ∧
          (c.toNat - run.first) % run.step = 0 := by
        simpa [CaseRun.covers] using List.find?_some hfind
      rcases shift_beyond run (List.mem_of_find?_eq_some hfind) with hascii | rfl | ⟨hfirst, hlast⟩
      · omega
      · have hkelvin : c.toNat = 0x212a := Nat.le_antisymm hcovers.1.2 hcovers.1.1
        rw [hkelvin]
        exact .inr rfl
      · have hvalid : (c.toNat + run.shift).toNat.isValidChar := by
          unfold Nat.isValidChar
          omega
        rw [toNat_ofNat hvalid]
        exact .inl (by omega)
    · exact ⟨c, List.mem_singleton_self c, .inl h⟩

theorem exists_lowerFrom_beyond {c : Char} (h : 128 ≤ c.toNat) (before rest : List Char) :
    ∃ d ∈ lowerFrom before (c :: rest), 128 ≤ d.toNat ∨ d = 'k' := by
  obtain ⟨d, hd, hbeyond⟩ := exists_lowerChar_beyond h
  rw [lowerFrom]
  split_ifs
  · exact ⟨'ς', List.mem_append_left _ (List.mem_singleton_self _), .inl (by decide)⟩
  · exact ⟨'σ', List.mem_append_left _ (List.mem_singleton_self _), .inl (by decide)⟩
  · exact ⟨d, List.mem_append_left _ hd, hbeyond⟩

theorem toLower_beyond {c : Char} (h : 128 ≤ c.toNat) : c.toLower = c := by
  unfold Char.toLower
  rw [dif_neg]
  simp only [UInt32.le_iff_toNat_le]
  show ¬(65 ≤ c.toNat ∧ c.toNat ≤ 90)
  omega

/-- The induction is on the text. Its first character is lowered to the first one of the target, or else the
text has something in its lower case that the target has not. -/
theorem lowerFrom_eq_iff {target : List Char} (htarget : ∀ d ∈ target, d.toNat < 128 ∧ d ≠ 'k')
    (before chars : List Char) : lowerFrom before chars = target ↔ chars.map Char.toLower = target := by
  induction chars generalizing before target with
  | nil => rfl
  | cons c rest ih =>
    rcases Nat.lt_or_ge c.toNat 128 with hascii | hbeyond
    · have hsigma : c ≠ 'Σ' := by
        rintro rfl
        exact absurd hascii (by decide)
      rw [lowerFrom, if_neg hsigma, lowerChar_ascii hascii, List.map_cons, List.singleton_append]
      cases target with
      | nil => simp
      | cons d target =>
        rw [List.forall_mem_cons] at htarget
        rw [List.cons.injEq, List.cons.injEq, ih htarget.2]
    · refine iff_of_false (fun heq => ?_) fun heq => ?_
      · obtain ⟨d, hd, hlow⟩ := exists_lowerFrom_beyond hbeyond before rest
        obtain ⟨hascii, hk⟩ := htarget d (heq ▸ hd)
        exact hlow.elim (Nat.not_le.2 hascii) hk
      · have hc : c ∈ target := by
          rw [← heq, List.map_cons, toLower_beyond hbeyond]
          exact List.mem_cons_self
        exact Nat.not_le.2 (htarget c hc).1 hbeyond

theorem foldedName_eq_iff {text : String} {target : List Char}
    (htarget : ∀ d ∈ target, d.toNat < 128 ∧ d ≠ 'k') :
    foldedName text = String.ofList target ↔ (trim text).toList.map Char.toLower = target := by
  rw [foldedName, lowercase, String.ofList_inj, lowerFrom_eq_iff htarget]

end Gridded.Text
