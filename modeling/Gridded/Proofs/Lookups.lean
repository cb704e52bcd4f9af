import Mathlib.Data.String.Basic
import Gridded.Proofs.Numbers
import Gridded.Vertical.Recipe

/-!
# Looking up attributes

A dictionary lists its entries in the order of their names. A look-up that ignores case takes the first
entry whose name is a spelling of the one asked for, and so the kind of value under that spelling decides
what is found.

* `Dictionary.Sorted`: the names are in order, each of them once; whatever is built by insertions is sorted
  (`Dictionary.Sorted.insertAll`, `Attributes.sorted_ofDocument?`);
* `Dictionary.Sorted.find?_entries_eq_some_iff`: the first entry whose name has a property;
* `Attributes.Spelled`, `Attributes.FirstSpelled`: a value under a spelling of a name, and under the first;
* `Attributes.findText?_complete_iff`: a text under some spelling is found unless there are numbers under
  the first one, and then the standard name of a recipe stands in for its kind of transform.
-/

namespace Gridded

namespace Dictionary

variable {β : Type} {d : Dictionary β} {name : String} {value : β}

/-- The names are in order, each of them once. -/
def Sorted (d : Dictionary β) : Prop :=
  d.entries.Pairwise fun a b => a.1 < b.1

theorem sorted_empty : (empty : Dictionary β).Sorted := .nil

theorem mem_place {entry : String × β} {entries : List (String × β)}
    (h : entry ∈ place name value entries) : entry = (name, value) ∨ entry ∈ entries := by
  induction entries with
  | nil => exact .inl (List.mem_singleton.1 h)
  | cons first rest ih =>
    unfold place at h
    split_ifs at h with heq hlt
    · exact (List.mem_cons.1 h).imp_right (List.mem_cons_of_mem _)
    · exact List.mem_cons.1 h
    · rcases List.mem_cons.1 h with hfirst | hrest
      · exact .inr (List.mem_cons.2 (.inl hfirst))
      · exact (ih hrest).imp_right (List.mem_cons_of_mem _)

theorem pairwise_place {entries : List (String × β)} (h : entries.Pairwise fun a b => a.1 < b.1) :
    (place name value entries).Pairwise fun a b => a.1 < b.1 := by
  induction entries with
  | nil => exact List.pairwise_singleton _ _
  | cons first rest ih =>
    obtain ⟨hfirst, hrest⟩ := List.pairwise_cons.1 h
    unfold place
    split_ifs with heq hlt
    · subst heq
      exact List.pairwise_cons.2 ⟨hfirst, hrest⟩
    · refine List.pairwise_cons.2 ⟨fun entry hentry => ?_, h⟩
      rcases List.mem_cons.1 hentry with rfl | hentry
      · exact hlt
      · exact hlt.trans (hfirst entry hentry)
    · refine List.pairwise_cons.2 ⟨fun entry hentry => ?_, ih hrest⟩
      rcases mem_place hentry with rfl | hentry
      · exact lt_of_le_of_ne (not_lt.1 hlt) heq
      · exact hfirst entry hentry

namespace Sorted

theorem insert (h : d.Sorted) (name : String) (value : β) : (d.insert name value).Sorted :=
  pairwise_place h

theorem insertAll (h : d.Sorted) (entries : List (String × β)) : (d.insertAll entries).Sorted := by
  induction entries generalizing d with
  | nil => exact h
  | cons entry rest ih => exact ih (h.insert entry.1 entry.2)

/-- What is found under a name is the one entry of that name. -/
theorem find?_eq_some_iff (h : d.Sorted) : d.find? name = some value ↔ (name, value) ∈ d.entries := by
  rw [find?, List.lookup_eq_some_iff]
  constructor
  · rintro ⟨before, after, hentries, -⟩
    rw [hentries]
    exact List.mem_append_right _ List.mem_cons_self
  · intro hmem
    obtain ⟨before, after, hentries⟩ := List.append_of_mem hmem
    refine ⟨before, after, hentries, fun entry hentry => ?_⟩
    have hpairwise : (before ++ (name, value) :: after).Pairwise fun a b => a.1 < b.1 := hentries ▸ h
    have hlt := (List.pairwise_append.1 hpairwise).2.2 entry hentry _ List.mem_cons_self
    exact bne_iff_ne.2 hlt.ne'

variable {p : String → Bool}

theorem first_of_find?_entries (h : d.Sorted)
    (hfind : d.entries.find? (fun entry => p entry.1) = some (name, value)) :
    (p name = true ∧ d.find? name = some value) ∧
      ∀ other v, p other = true → d.find? other = some v → name ≤ other := by
  obtain ⟨hp, before, after, hentries, hbefore⟩ := List.find?_eq_some_iff_append.1 hfind
  have hpairwise : (before ++ (name, value) :: after).Pairwise fun a b => a.1 < b.1 := hentries ▸ h
  refine ⟨⟨hp, h.find?_eq_some_iff.2 (List.mem_of_find?_eq_some hfind)⟩, fun other v hother hv => ?_⟩
  have hmem := h.find?_eq_some_iff.1 hv
  rw [hentries, List.mem_append, List.mem_cons, Prod.mk.injEq] at hmem
  rcases hmem with hmem | ⟨heq, -⟩ | hmem
  · have hnot := hbefore _ hmem
    rw [hother] at hnot
    cases hnot
  · exact heq.ge
  · exact ((List.pairwise_cons.1 (List.pairwise_append.1 hpairwise).2.1).1 _ hmem).le

theorem exists_find?_entries (h : d.Sorted) (hp : p name = true) (hvalue : d.find? name = some value) :
    ∃ other v, d.entries.find? (fun entry => p entry.1) = some (other, v) := by
  have hsome : (d.entries.find? fun entry => p entry.1).isSome = true :=
    List.find?_isSome.2 ⟨(name, value), h.find?_eq_some_iff.1 hvalue, hp⟩
  obtain ⟨⟨other, v⟩, hfind⟩ := Option.isSome_iff_exists.1 hsome
  exact ⟨other, v, hfind⟩

/-- The first entry whose name has a property is the one of the least such name. -/
theorem find?_entries_eq_some_iff (h : d.Sorted) :
    d.entries.find? (fun entry => p entry.1) = some (name, value) ↔
      (p name = true ∧ d.find? name = some value) ∧
        ∀ other v, p other = true → d.find? other = some v → name ≤ other := by
  refine ⟨h.first_of_find?_entries, ?_⟩
  rintro ⟨⟨hp, hvalue⟩, hleast⟩
  obtain ⟨name', value', hfind⟩ := h.exists_find?_entries hp hvalue
  obtain ⟨⟨hp', hvalue'⟩, hleast'⟩ := h.first_of_find?_entries hfind
  obtain rfl : name = name' := le_antisymm (hleast _ _ hp' hvalue') (hleast' _ _ hp hvalue)
  obtain rfl : value = value' := Option.some.inj (hvalue.symm.trans hvalue')
  exact hfind

end Sorted

end Dictionary

namespace Attributes

variable {α : Type} {attrs : Attributes α} {name key t : String} {v : AttributeValue α}

/-- Attributes that are read from a document are sorted. -/
theorem sorted_ofDocument? {document : Document} {attrs : Attributes Float}
    (h : ofDocument? document = some attrs) : attrs.Sorted := by
  unfold ofDocument? at h
  split at h
  · obtain ⟨entries, -, hattrs⟩ := Option.bind_eq_some_iff.1 h
    rw [← Option.some.inj hattrs]
    exact Dictionary.sorted_empty.insertAll entries
  · cases h

/-- A value under a spelling of a name. -/
structure Spelled (attrs : Attributes α) (name key : String) (v : AttributeValue α) : Prop where
  spelling : Text.eqIgnoringCase key name = true
  found : attrs.find? key = some v

/-- The value under the first of the spellings of a name. -/
structure FirstSpelled (attrs : Attributes α) (name key : String) (v : AttributeValue α) : Prop
    extends Spelled attrs name key v where
  first : ∀ other w, Spelled attrs name other w → key ≤ other

/-- There are numbers under the first of the spellings of a name. -/
def NumbersFirst (attrs : Attributes α) (name : String) : Prop :=
  ∃ key xs, FirstSpelled attrs name key (.numbers xs)

theorem find?_spelling_eq_some_iff (h : attrs.Sorted) :
    attrs.entries.find? (fun entry => Text.eqIgnoringCase entry.1 name) = some (key, v) ↔
      FirstSpelled attrs name key v := by
  refine (h.find?_entries_eq_some_iff (p := fun key => Text.eqIgnoringCase key name)).trans ?_
  constructor
  · rintro ⟨⟨hspelling, hfound⟩, hfirst⟩
    exact ⟨⟨hspelling, hfound⟩, fun other w hw => hfirst other w hw.spelling hw.found⟩
  · rintro ⟨⟨hspelling, hfound⟩, hfirst⟩
    exact ⟨⟨hspelling, hfound⟩, fun other w hp hw => hfirst other w ⟨hp, hw⟩⟩

theorem Spelled.exists_first (h : attrs.Sorted) (hv : Spelled attrs name key v) :
    ∃ other w, FirstSpelled attrs name other w := by
  obtain ⟨other, w, hfind⟩ :=
    h.exists_find?_entries (p := fun key => Text.eqIgnoringCase key name) hv.spelling hv.found
  exact ⟨other, w, (find?_spelling_eq_some_iff h).1 hfind⟩

theorem FirstSpelled.findText? (h : attrs.Sorted) (hv : FirstSpelled attrs name key v) :
    attrs.findText? name = v.text? := by
  rw [Attributes.findText?, (find?_spelling_eq_some_iff h).2 hv]
  rfl

/-- What is found is a text under some spelling. -/
theorem spelled_of_findText? (h : attrs.Sorted) (ht : attrs.findText? name = some t) :
    ∃ key, Spelled attrs name key (.text t) := by
  obtain ⟨⟨key, v⟩, hfind, hv⟩ := Option.bind_eq_some_iff.1 ht
  have hspelled := (find?_spelling_eq_some_iff h).1 hfind
  cases v with
  | text s =>
    obtain rfl : s = t := Option.some.inj hv
    exact ⟨key, hspelled.toSpelled⟩
  | numbers xs => cases hv

theorem findText?_of_numbersFirst (h : attrs.Sorted) (hnumbers : NumbersFirst attrs name) :
    attrs.findText? name = none := by
  obtain ⟨key, xs, hfirst⟩ := hnumbers
  exact hfirst.findText? h

/-- Where there is a text under some spelling, only numbers under the first one hide it. -/
theorem Spelled.findText?_isSome (h : attrs.Sorted) (ht : Spelled attrs name key (.text t))
    (hnumbers : ¬NumbersFirst attrs name) : (attrs.findText? name).isSome = true := by
  obtain ⟨other, w, hfirst⟩ := ht.exists_first h
  rw [hfirst.findText? h]
  cases w with
  | text s => rfl
  | numbers xs => exact absurd ⟨other, xs, hfirst⟩ hnumbers

theorem findText?_isSome_iff (h : attrs.Sorted) (ht : Spelled attrs name key (.text t)) :
    (attrs.findText? name).isSome = true ↔ ¬NumbersFirst attrs name := by
  refine ⟨fun hsome hnumbers => ?_, ht.findText?_isSome h⟩
  rw [findText?_of_numbersFirst h hnumbers] at hsome
  cases hsome

theorem findText?_eq_none_iff (h : attrs.Sorted) : attrs.findText? name = none ↔
    (∀ key t, ¬Spelled attrs name key (.text t)) ∨ NumbersFirst attrs name := by
  constructor
  · intro hnone
    by_contra hnot
    push Not at hnot
    obtain ⟨⟨key, t, ht⟩, hnumbers⟩ := hnot
    have hsome := ht.findText?_isSome h hnumbers
    rw [hnone] at hsome
    cases hsome
  · rintro (hnever | hnumbers)
    · refine Option.eq_none_iff_forall_ne_some.2 fun t ht => ?_
      obtain ⟨key, hspelled⟩ := spelled_of_findText? h ht
      exact hnever key t hspelled
    · exact findText?_of_numbersFirst h hnumbers

theorem spelled_of_text? (ht : attrs.text? name = some t) : Spelled attrs name name (.text t) := by
  obtain ⟨v, hfind, hv⟩ := Option.bind_eq_some_iff.1 ht
  cases v with
  | text s =>
    obtain rfl : s = t := Option.some.inj hv
    exact ⟨Text.eqIgnoringCase_refl name, hfind⟩
  | numbers xs => cases hv

/-- A text under a spelling of `transform_type` decides over the name of the formula, unless there are
numbers under the first spelling. Then the standard name does. -/
theorem key?_of_spelled {r : Recipe α} (h : r.attributes.Sorted)
    (ht : Spelled r.attributes Name.transformType key (.text t)) :
    (NumbersFirst r.attributes Name.transformType → r.key? = r.attributes.text? Name.standardName) ∧
      (¬NumbersFirst r.attributes Name.transformType →
        ∃ key' t', Spelled r.attributes Name.transformType key' (.text t') ∧ r.key? = some t') := by
  unfold Recipe.key?
  constructor
  · intro hnumbers
    rw [findText?_of_numbersFirst h hnumbers, Option.none_or]
  · intro hnumbers
    obtain ⟨t', ht'⟩ := Option.isSome_iff_exists.1 (ht.findText?_isSome h hnumbers)
    obtain ⟨key', hspelled⟩ := spelled_of_findText? h ht'
    exact ⟨key', t', hspelled, by rw [ht', Option.some_or]⟩

/-- **Looking up a text without regard to case** finds a text under some spelling of the name. It finds none
if there is no text under any spelling, or if there are numbers under the first one; only in this case a text
under the very name is missed, and a kind of transform does not decide over the formula of a recipe. -/
theorem findText?_complete_iff (h : attrs.Sorted) (name : String) :
    (∀ t, attrs.findText? name = some t → ∃ key, Spelled attrs name key (.text t)) ∧
      (attrs.findText? name = none ↔
        (∀ key t, ¬Spelled attrs name key (.text t)) ∨ NumbersFirst attrs name) ∧
      (∀ t, attrs.text? name = some t →
        ((attrs.findText? name).isSome = true ↔ ¬NumbersFirst attrs name)) ∧
      ∀ r : Recipe α, r.attributes = attrs →
        ∀ key t, Spelled attrs Name.transformType key (.text t) →
          (NumbersFirst attrs Name.transformType → r.key? = attrs.text? Name.standardName) ∧
            (¬NumbersFirst attrs Name.transformType →
              ∃ key' t', Spelled attrs Name.transformType key' (.text t') ∧ r.key? = some t') := by
  refine ⟨fun t ht => spelled_of_findText? h ht, findText?_eq_none_iff h,
    fun t ht => findText?_isSome_iff h (spelled_of_text? ht), ?_⟩
  rintro r rfl key t ht
  exact key?_of_spelled h ht

/-- A number and a text under two spellings of one name. -/
def twoSpellings : Attributes ℚ :=
  Dictionary.empty.insertAll [
    ("standard_name", .text "atmosphere_sigma_coordinate"),
    ("transform_type", .text "OceanS"),
    ("TRANSFORM_TYPE", .numbers [1])]

/-- What is made from them, without any data. -/
def twoSpellingsRecipe : Recipe ℚ :=
  ⟨"vertical", Library.toDataset Dictionary.empty, twoSpellings, FormulaTerms.empty, {}⟩

theorem sorted_twoSpellings : twoSpellings.Sorted := Dictionary.sorted_empty.insertAll _

/-- The number hides the text, and the standard name decides. -/
theorem findText?_complete_iff_twoSpellings :
    twoSpellings.Sorted ∧ NumbersFirst twoSpellings Name.transformType ∧
      twoSpellings.findText? Name.transformType = none ∧
      twoSpellingsRecipe.key? = some "atmosphere_sigma_coordinate" := by
  have hsorted := sorted_twoSpellings
  have hnumbers : NumbersFirst twoSpellings Name.transformType :=
    ⟨"TRANSFORM_TYPE", [1], (find?_spelling_eq_some_iff hsorted).1 (by decide +kernel)⟩
  have htext : Spelled twoSpellings Name.transformType "transform_type" (.text "OceanS") :=
    ⟨by decide +kernel, by decide +kernel⟩
  obtain ⟨-, hnone, -, hkey⟩ := findText?_complete_iff hsorted Name.transformType
  refine ⟨hsorted, hnumbers, hnone.2 (.inr hnumbers), ?_⟩
  refine ((hkey twoSpellingsRecipe rfl _ _ htext).1 hnumbers).trans ?_
  decide +kernel

/-- A text under the very name is not always found when case is ignored. -/
theorem not_findText?_complete : ¬∀ (attrs : Attributes ℚ) (name t : String), attrs.Sorted →
    attrs.text? name = some t → (attrs.findText? name).isSome = true := by
  intro h
  have hsome := h twoSpellings Name.transformType "OceanS" sorted_twoSpellings (by decide +kernel)
  have hnone : (twoSpellings.findText? Name.transformType).isSome = false := by decide +kernel
  rw [hnone] at hsome
  cases hsome

end Attributes

end Gridded
