import Gridded.Text.Blank
import Mathlib.Data.List.Basic

/-!
# Words of a text

The words of a text are its maximal runs of characters that are not white space. This is said here without
a procedure. Every text has exactly one list of words, the one that splitting finds.

* `Text.IsWord`, `Text.Runs`: a word, and the words of a list of characters;
* `Text.runs_iff`: they are what `Text.words` finds; all of them are words (`Text.isWord_of_mem_words`);
* `Text.words_intercalate`: words with single spaces between them are found again;
* `Text.trim_eq_self`: a text that starts and ends with a word is not trimmed.
-/

namespace Gridded.Text

/-- A text that can be a word. -/
structure IsWord (token : String) : Prop where
  ne_empty : token ≠ ""
  solid : ∀ c ∈ token.toList, isBlank c = false

/-- The words of a list of characters, in order. A word is as long as it can be: only white space or the
end can follow it. -/
inductive Runs : List Char → List String → Prop
  | nil : Runs [] []
  | blank {c : Char} {chars : List Char} {tokens : List String} :
      isBlank c = true → Runs chars tokens → Runs (c :: chars) tokens
  | word {token : String} {chars : List Char} {tokens : List String} :
      IsWord token → (∀ c ∈ chars.head?, isBlank c = true) → Runs chars tokens →
        Runs (token.toList ++ chars) (token :: tokens)

theorem IsWord.toList_ne_nil {token : String} (h : IsWord token) : token.toList ≠ [] :=
  fun hnil => h.ne_empty (String.toList_eq_nil_iff.1 hnil)

theorem isWord_ofList {word : List Char} (hnil : word ≠ []) (hword : ∀ c ∈ word, isBlank c = false) :
    IsWord (String.ofList word) where
  ne_empty h := hnil (by simpa using congrArg String.toList h)
  solid := by simpa using hword

/-! ### Splitting -/

theorem wordsFrom_nil (word : List Char) : wordsFrom word [] = if word = [] then [] else [word] := by
  cases word <;> rfl

theorem wordsFrom_blank {c : Char} (hc : isBlank c = true) (word chars : List Char) :
    wordsFrom word (c :: chars) =
      if word = [] then wordsFrom [] chars else word :: wordsFrom [] chars := by
  cases word <;> simp [wordsFrom, hc]

theorem wordsFrom_solid {c : Char} (hc : isBlank c = false) (word chars : List Char) :
    wordsFrom word (c :: chars) = wordsFrom (word ++ [c]) chars := by
  simp [wordsFrom, hc]

/-- Characters that are not white space continue the word that is being read. -/
theorem wordsFrom_append {more : List Char} (hmore : ∀ c ∈ more, isBlank c = false)
    (word chars : List Char) : wordsFrom word (more ++ chars) = wordsFrom (word ++ more) chars := by
  induction more generalizing word with
  | nil => simp
  | cons c more ih =>
    rw [List.forall_mem_cons] at hmore
    rw [List.cons_append, wordsFrom_solid hmore.1, ih hmore.2, List.append_assoc, List.singleton_append]

/-- Splitting finds the words. -/
theorem Runs.wordsFrom_eq {chars : List Char} {tokens : List String} (h : Runs chars tokens) :
    (wordsFrom [] chars).map String.ofList = tokens := by
  induction h with
  | nil => rfl
  | blank hc _ ih => rwa [wordsFrom_blank hc, if_pos rfl]
  | @word token chars tokens htoken hnext _ ih =>
    rw [wordsFrom_append htoken.solid, List.nil_append]
    cases chars with
    | nil => simpa [wordsFrom_nil, htoken.ne_empty] using ih
    | cons c chars =>
      have hc : isBlank c = true := hnext c rfl
      rw [wordsFrom_blank hc, if_pos rfl] at ih
      rw [wordsFrom_blank hc, if_neg htoken.toList_ne_nil, List.map_cons, ih, String.ofList_toList]

theorem Runs.ofList {word chars : List Char} {tokens : List String} (hnil : word ≠ [])
    (hword : ∀ c ∈ word, isBlank c = false) (hnext : ∀ c ∈ chars.head?, isBlank c = true)
    (h : Runs chars tokens) : Runs (word ++ chars) (String.ofList word :: tokens) := by
  simpa using Runs.word (isWord_ofList hnil hword) hnext h

/-- What splitting finds are the words, the first of them with the part of it that was read before. -/
theorem runs_wordsFrom {word : List Char} (hword : ∀ c ∈ word, isBlank c = false) (chars : List Char) :
    Runs (word ++ chars) ((wordsFrom word chars).map String.ofList) := by
  induction chars generalizing word with
  | nil =>
    by_cases hnil : word = []
    · subst hnil
      exact .nil
    · rw [wordsFrom_nil, if_neg hnil]
      exact .ofList hnil hword (by simp) .nil
  | cons c chars ih =>
    cases hc : isBlank c with
    | true =>
      have hrest : Runs (c :: chars) ((wordsFrom [] chars).map String.ofList) :=
        .blank hc (ih (List.forall_mem_nil _))
      by_cases hnil : word = []
      · subst hnil
        rwa [wordsFrom_blank hc, if_pos rfl]
      · rw [wordsFrom_blank hc, if_neg hnil]
        exact .ofList hnil hword (by simp [hc]) hrest
    | false =>
      have hmore : ∀ d ∈ word ++ [c], isBlank d = false := by
        simpa [or_imp, forall_and, hc] using hword
      rw [wordsFrom_solid hc, List.append_cons]
      exact ih hmore

/-- A text has one list of words, the one that splitting finds. -/
theorem runs_iff {text : String} {tokens : List String} :
    Runs text.toList tokens ↔ words text = tokens := by
  refine ⟨fun h => h.wordsFrom_eq, ?_⟩
  rintro rfl
  exact runs_wordsFrom (List.forall_mem_nil _) text.toList

/-! ### Words put together -/

theorem Runs.isWord {chars : List Char} {tokens : List String} (h : Runs chars tokens) :
    ∀ token ∈ tokens, IsWord token := by
  induction h with
  | nil => exact List.forall_mem_nil _
  | blank _ _ ih => exact ih
  | word htoken _ _ ih => exact List.forall_mem_cons.2 ⟨htoken, ih⟩

theorem isWord_of_mem_words {text token : String} (h : token ∈ words text) : IsWord token :=
  (runs_iff.2 rfl).isWord token h

/-- Words with single spaces between them are the words of the text that they make. -/
theorem words_intercalate {tokens : List String} (h : ∀ token ∈ tokens, IsWord token) :
    words (" ".intercalate tokens) = tokens := by
  rw [← runs_iff]
  induction tokens with
  | nil => exact .nil
  | cons token tokens ih =>
    rw [List.forall_mem_cons] at h
    cases tokens with
    | nil =>
      rw [String.intercalate_singleton, ← List.append_nil token.toList]
      exact .word h.1 (by simp) .nil
    | cons next tokens =>
      rw [String.intercalate_cons_cons, String.toList_append, String.toList_append, List.append_assoc]
      have hspace : isBlank ' ' = true := by decide
      exact .word h.1 (by simpa using hspace) (.blank hspace (ih h.2))

/-! ### Trimming -/

/-- A text without white space at its ends is not trimmed. -/
theorem trim_eq_self {text : String} (hfirst : ∀ c ∈ text.toList.head?, isBlank c = false)
    (hlast : ∀ c ∈ text.toList.getLast?, isBlank c = false) : trim text = text := by
  have hskip : ∀ {chars : List Char}, (∀ c ∈ chars.head?, isBlank c = false) → skipBlanks chars = chars := by
    intro chars hchars
    cases chars with
    | nil => rfl
    | cons c chars => simp [skipBlanks, hchars c rfl]
  rw [trim, hskip hfirst, hskip (by rwa [List.head?_reverse]), List.reverse_reverse, String.ofList_toList]

end Gridded.Text
