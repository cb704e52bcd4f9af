import Gridded.Proofs.Checking
import Gridded.Proofs.Text.Words
import Gridded.Vertical.FormulaTerms

/-!
# The grammar of formula terms

A text of formula terms is a sequence of items. An item is a term and its variable, either in one word with
a colon between them or in two words, the first of which ends with the colon.

* `FormulaTerms.Item`, `FormulaTerms.Spells`: the items, and the words that spell them;
* `FormulaTerms.Spells.unique`: words spell at most one sequence of items;
* `FormulaTerms.ofWords_eq_ok`: reading finds the bindings of these items;
* `FormulaTerms.ofText_grammar`: the texts that are read, what is read, and the error of all others;
* `FormulaTerms.words_text`, `FormulaTerms.ofText_text_iff`: the written form, and when it is read back.
-/

namespace Gridded.FormulaTerms

/-! ### Words and their colons -/

theorem splitColon_of_not_mem {chars : List Char} (h : ':' ∉ chars) : splitColon chars = (chars, none) := by
  induction chars with
  | nil => rfl
  | cons c chars ih =>
    rw [List.mem_cons, not_or] at h
    rw [splitColon, if_neg (Ne.symm h.1), ih h.2]

theorem splitColon_append {before : List Char} (h : ':' ∉ before) (after : List Char) :
    splitColon (before ++ ':' :: after) = (before, some after) := by
  induction before with
  | nil => rfl
  | cons c before ih =>
    rw [List.mem_cons, not_or] at h
    rw [List.cons_append, splitColon, if_neg (Ne.symm h.1), ih h.2]

/-- The text of a word. -/
def Word.text : Word → String
  | .binding name value => name ++ ":" ++ value
  | .term name => name ++ ":"
  | .var name => name

/-- What a word is can be told from its text: its first colon ends the term. -/
def Word.Plain : Word → Prop
  | .binding name value => ':' ∉ name.toList ∧ value ≠ ""
  | .term name => ':' ∉ name.toList
  | .var name => ':' ∉ name.toList

theorem Word.ofText_text {w : Word} (h : w.Plain) : ofText w.text = w := by
  cases w with
  | binding name value =>
    have hchars : (name ++ ":" ++ value).toList = name.toList ++ ':' :: value.toList := by simp
    have hvalue : value.toList ≠ [] := fun hnil => h.2 (String.toList_eq_nil_iff.1 hnil)
    obtain ⟨c, rest, hcons⟩ := List.exists_cons_of_ne_nil hvalue
    rw [ofText, text, hchars, splitColon_append h.1, hcons]
    simp [← hcons]
  | term name =>
    have hchars : (name ++ ":").toList = name.toList ++ ':' :: [] := by simp
    rw [ofText, text, hchars, splitColon_append h]
    simp
  | var name => rw [ofText, text, splitColon_of_not_mem h]

/-- Every text is that of a plain word. -/
theorem Word.exists_text_eq (token : String) : ∃ w : Word, w.Plain ∧ w.text = token := by
  by_cases h : ':' ∈ token.toList
  · obtain ⟨before, after, htoken, hbefore⟩ := List.eq_append_cons_of_mem h
    have hplain : ':' ∉ (String.ofList before).toList := by simpa using hbefore
    by_cases hafter : after = []
    · refine ⟨.term (String.ofList before), hplain, String.ext ?_⟩
      simp [text, htoken, hafter]
    · refine ⟨.binding (String.ofList before) (String.ofList after), ⟨hplain, ?_⟩, String.ext ?_⟩
      · exact fun hempty => hafter (by simpa using congrArg String.toList hempty)
      · simp [text, htoken]
  · exact ⟨.var token, h, rfl⟩

/-! ### Items -/

/-- A term with its variable, as it is written. -/
inductive Item
  /-- In one word, `term:variable`. -/
  | joined (term var : String)
  /-- In two words, `term:` and `variable`. -/
  | parted (term var : String)
  deriving DecidableEq, Repr

/-- The term and its variable. -/
def Item.binding : Item → String × String
  | joined term var => (term, var)
  | parted term var => (term, var)

/-- What the words of an item are. -/
def Item.words : Item → List Word
  | joined term var => [.binding term var]
  | parted term var => [.term term, .var var]

/-- Words spell a sequence of items. Terms are not empty and have no colon. The variable of a joined item is
not empty, and that of a parted one has no colon. -/
inductive Spells : List Item → List String → Prop
  | nil : Spells [] []
  | joined {term var : String} {items : List Item} {tokens : List String} :
      term ≠ "" → ':' ∉ term.toList → var ≠ "" → Spells items tokens →
        Spells (.joined term var :: items) ((term ++ ":" ++ var) :: tokens)
  | parted {term var : String} {items : List Item} {tokens : List String} :
      term ≠ "" → ':' ∉ term.toList → ':' ∉ var.toList → Spells items tokens →
        Spells (.parted term var :: items) ((term ++ ":") :: var :: tokens)

theorem Spells.map_ofText {items : List Item} {tokens : List String} (h : Spells items tokens) :
    tokens.map Word.ofText = items.flatMap Item.words := by
  induction h with
  | nil => rfl
  | @joined term var _ _ _ hterm hvar _ ih =>
    have hword : Word.ofText (term ++ ":" ++ var) = .binding term var :=
      Word.ofText_text (w := .binding term var) ⟨hterm, hvar⟩
    rw [List.map_cons, ih, hword]
    rfl
  | @parted term var _ _ _ hterm hvar _ ih =>
    have hfirst : Word.ofText (term ++ ":") = .term term := Word.ofText_text (w := .term term) hterm
    have hsecond : Word.ofText var = .var var := Word.ofText_text (w := .var var) hvar
    rw [List.map_cons, List.map_cons, ih, hfirst, hsecond]
    rfl

theorem flatMap_words_injective : Function.Injective (List.flatMap Item.words) := by
  intro items
  induction items with
  | nil =>
    intro others h
    cases others with
    | nil => rfl
    | cons other others => cases other <;> simp [Item.words] at h
  | cons item items ih =>
    intro others h
    cases others with
    | nil => cases item <;> simp [Item.words] at h
    | cons other others =>
      -- The first word tells which kind of item it is, and so how many words belong to it.
      cases item <;> cases other <;>
        simp only [List.flatMap_cons, Item.words, List.cons_append, List.nil_append, List.cons.injEq,
          Word.binding.injEq, Word.term.injEq, Word.var.injEq, reduceCtorEq, false_and] at h
      · obtain ⟨⟨rfl, rfl⟩, hrest⟩ := h
        rw [ih hrest]
      · obtain ⟨rfl, rfl, hrest⟩ := h
        rw [ih hrest]

/-- Words spell at most one sequence of items. -/
theorem Spells.unique {items others : List Item} {tokens : List String} (h : Spells items tokens)
    (h' : Spells others tokens) : items = others :=
  flatMap_words_injective (h.map_ofText.symm.trans h'.map_ofText)

/-! ### Reading -/

/-- Words that spell items are read as the bindings of the items. -/
theorem Spells.ofWords_eq {items : List Item} {tokens : List String} (h : Spells items tokens)
    (text : String) : ofWords text none tokens = .ok (items.map Item.binding) := by
  induction h with
  | nil => rfl
  | @joined term var _ _ hne hterm hvar _ ih =>
    have hword : Word.ofText (term ++ ":" ++ var) = .binding term var :=
      Word.ofText_text (w := .binding term var) ⟨hterm, hvar⟩
    simp only [ofWords, hword, if_neg hne, ih, map_ok]
    rfl
  | @parted term var _ _ hne hterm hvar _ ih =>
    have hfirst : Word.ofText (term ++ ":") = .term term := Word.ofText_text (w := .term term) hterm
    have hsecond : Word.ofText var = .var var := Word.ofText_text (w := .var var) hvar
    simp only [ofWords, hfirst, hsecond, if_neg hne, ih, map_ok]
    rfl

/-- Words that are read spell items, the first of them with the term that was open before. -/
theorem spells_of_ofWords {text : String} {open? : Option String} {tokens : List String}
    {bindings : List (String × String)} (hopen : ∀ term ∈ open?, term ≠ "" ∧ ':' ∉ term.toList)
    (h : ofWords text open? tokens = .ok bindings) :
    ∃ items, Spells items ((open?.map (· ++ ":")).toList ++ tokens) ∧
      items.map Item.binding = bindings := by
  induction tokens generalizing open? bindings with
  | nil =>
    cases open? with
    | none =>
      cases h
      exact ⟨[], .nil, rfl⟩
    | some term => cases h
  | cons token tokens ih =>
    obtain ⟨word, hplain, rfl⟩ := Word.exists_text_eq token
    have hword := Word.ofText_text hplain
    cases open? with
    | none =>
      cases word with
      | binding term var =>
        simp only [ofWords, hword] at h
        split_ifs at h with hne
        obtain ⟨rest, hrest, rfl⟩ := map_eq_ok.1 h
        obtain ⟨items, hitems, rfl⟩ := ih (by simp) hrest
        exact ⟨_, .joined hne hplain.1 hplain.2 hitems, rfl⟩
      | term name =>
        simp only [ofWords, hword] at h
        split_ifs at h with hne
        exact ih (by simpa using ⟨hne, hplain⟩) h
      | var name =>
        simp only [ofWords, hword, reduceCtorEq] at h
    | some term =>
      cases word with
      | binding _ _ => simp only [ofWords, hword, reduceCtorEq] at h
      | term _ => simp only [ofWords, hword, reduceCtorEq] at h
      | var name =>
        simp only [ofWords, hword] at h
        obtain ⟨rest, hrest, rfl⟩ := map_eq_ok.1 h
        obtain ⟨items, hitems, rfl⟩ := ih (by simp) hrest
        obtain ⟨hne, hterm⟩ := hopen term rfl
        exact ⟨_, .parted hne hterm hplain hitems, rfl⟩

/-- Reading words gives bindings exactly if the words spell items with these bindings. -/
theorem ofWords_eq_ok {text : String} {tokens : List String} {bindings : List (String × String)} :
    ofWords text none tokens = .ok bindings ↔
      ∃ items, Spells items tokens ∧ items.map Item.binding = bindings := by
  refine ⟨fun h => by simpa using spells_of_ofWords (by simp) h, ?_⟩
  rintro ⟨items, hitems, rfl⟩
  exact hitems.ofWords_eq text

theorem ofText_eq_ok {text : String} {f : FormulaTerms} :
    ofText text = .ok f ↔ ofWords text none (Text.words text) = .ok f.bindings := by
  unfold ofText
  cases ofWords text none (Text.words text) with
  | ok bindings =>
    cases f
    simp
  | error fault => simp

/-- **Reading accepts exactly the grammar.** A text has one list of words. It is read exactly if its words
spell items, and then there is one such sequence, whose bindings are read in their order. Every other text
is refused as an argument. Another text with the same words, whatever its white space, is read alike. -/
theorem ofText_grammar (text : String) :
    ∃ tokens, (∀ others, Text.Runs text.toList others ↔ others = tokens) ∧
      (∀ f, ofText text = .ok f ↔ ∃ items, Spells items tokens ∧ f.bindings = items.map Item.binding) ∧
      (∀ items others, Spells items tokens → Spells others tokens → items = others) ∧
      ((¬ ∃ items, Spells items tokens) → ∃ fault, ofText text = .error (.invalidArgument fault)) ∧
      ∀ respaced : String, Text.Runs respaced.toList tokens →
        ∀ f, ofText respaced = .ok f ↔ ofText text = .ok f := by
  have hread : ∀ (other : String) (f : FormulaTerms), ofText other = .ok f ↔
      ∃ items, Spells items (Text.words other) ∧ f.bindings = items.map Item.binding := fun other f => by
    rw [ofText_eq_ok, ofWords_eq_ok]
    simp only [eq_comm]
  refine ⟨Text.words text, fun others => Text.runs_iff.trans eq_comm, hread text,
    fun _ _ => Spells.unique, fun hnone => ?_, fun respaced hwords f => ?_⟩
  · unfold ofText
    cases hresult : ofWords text none (Text.words text) with
    | ok bindings =>
      obtain ⟨items, hitems, -⟩ := ofWords_eq_ok.1 hresult
      exact absurd ⟨items, hitems⟩ hnone
    | error fault => exact ⟨fault, rfl⟩
  · rw [hread respaced, hread text, Text.runs_iff.1 hwords]

/-! ### Writing -/

/-- The words of the written form of bindings. -/
def writtenWords (bindings : List (String × String)) : List String :=
  bindings.flatMap fun binding => [binding.1 ++ ":", binding.2]

theorem text_eq (f : FormulaTerms) : f.text = " ".intercalate (writtenWords f.bindings) := by
  obtain ⟨bindings⟩ := f
  have hcolon : ": " = ":" ++ " " := rfl
  rw [text, writtenWords]
  induction bindings with
  | nil => rfl
  | cons binding bindings ih =>
    cases bindings with
    | nil => simp [hcolon, String.append_assoc]
    | cons next bindings =>
      simp only [List.map_cons, List.flatMap_cons, List.cons_append, List.nil_append,
        String.intercalate_cons_cons, hcolon, String.append_assoc] at ih ⊢
      rw [ih]

/-- What bindings that were read have in common. -/
structure IsRead (binding : String × String) : Prop where
  ne_empty : binding.1 ≠ ""
  plain : ':' ∉ binding.1.toList
  isWord_term : Text.IsWord (binding.1 ++ ":")
  isWord_var : Text.IsWord binding.2

theorem Spells.isRead {items : List Item} {tokens : List String} (h : Spells items tokens)
    (htokens : ∀ token ∈ tokens, Text.IsWord token) :
    ∀ binding ∈ items.map Item.binding, IsRead binding := by
  induction h with
  | nil => simp
  | @joined term var _ _ hne hterm hvar _ ih =>
    rw [List.forall_mem_cons] at htokens
    have hsolid : ∀ c ∈ term.toList ++ ':' :: var.toList, Text.isBlank c = false := by
      simpa using htokens.1.solid
    rw [List.map_cons, List.forall_mem_cons]
    refine ⟨⟨hne, hterm, ⟨?_, ?_⟩, ⟨hvar, ?_⟩⟩, ih htokens.2⟩
    · simp
    · intro c hc
      have hmem : c ∈ term.toList ∨ c = ':' := by simpa [Item.binding] using hc
      exact hsolid c (by simpa using hmem.imp_right Or.inl)
    · intro c hc
      have hmem : c ∈ var.toList := hc
      exact hsolid c (by simp [hmem])
  | parted hne hterm _ _ ih =>
    simp only [List.forall_mem_cons] at htokens
    rw [List.map_cons, List.forall_mem_cons]
    exact ⟨⟨hne, hterm, htokens.1, htokens.2.1⟩, ih htokens.2.2⟩

theorem isRead_of_ofText {text : String} {f : FormulaTerms} (h : ofText text = .ok f) :
    ∀ binding ∈ f.bindings, IsRead binding := by
  obtain ⟨items, hitems, hbindings⟩ := ofWords_eq_ok.1 (ofText_eq_ok.1 h)
  rw [← hbindings]
  exact hitems.isRead fun _ => Text.isWord_of_mem_words

theorem words_text {f : FormulaTerms} (h : ∀ binding ∈ f.bindings, IsRead binding) :
    Text.words f.text = writtenWords f.bindings := by
  rw [text_eq]
  refine Text.words_intercalate fun token htoken => ?_
  obtain ⟨binding, hbinding, htoken⟩ := List.mem_flatMap.1 htoken
  rcases List.mem_pair.1 htoken with rfl | rfl
  · exact (h binding hbinding).isWord_term
  · exact (h binding hbinding).isWord_var

/-- Reading the written form of a binding. Its first word is the term, and its second word must be no other
term. -/
theorem ofWords_writtenWords_cons {binding : String × String} (h : IsRead binding)
    (bindings : List (String × String)) (text : String) :
    ofWords text none (writtenWords (binding :: bindings)) =
      match Word.ofText binding.2 with
      | .var name => ((binding.1, name) :: ·) <$> ofWords text none (writtenWords bindings)
      | _ => .error (.termWithoutVariable text binding.1) := by
  have hterm : Word.ofText (binding.1 ++ ":") = .term binding.1 :=
    Word.ofText_text (w := .term binding.1) h.plain
  simp only [writtenWords, List.flatMap_cons, List.cons_append, List.nil_append, ofWords, hterm,
    if_neg h.ne_empty]
  cases Word.ofText binding.2 <;> rfl

/-- Bindings whose variables have no colon are found again in their written form. -/
theorem ofWords_writtenWords {bindings : List (String × String)} (h : ∀ binding ∈ bindings, IsRead binding)
    (hvars : ∀ binding ∈ bindings, ':' ∉ binding.2.toList) (text : String) :
    ofWords text none (writtenWords bindings) = .ok bindings := by
  induction bindings with
  | nil => rfl
  | cons binding bindings ih =>
    rw [List.forall_mem_cons] at h hvars
    have hvar : Word.ofText binding.2 = .var binding.2 := Word.ofText_text (w := .var binding.2) hvars.1
    rw [ofWords_writtenWords_cons h.1, hvar, ih h.2 hvars.2]
    rfl

/-- The written form breaks off at the first variable with a colon, which is no variable when it stands by
itself. -/
theorem ofWords_writtenWords_error {bindings : List (String × String)}
    (h : ∀ binding ∈ bindings, IsRead binding) (hvars : ∃ binding ∈ bindings, ':' ∈ binding.2.toList)
    (text : String) : ∃ binding ∈ bindings,
      ofWords text none (writtenWords bindings) = .error (.termWithoutVariable text binding.1) := by
  induction bindings with
  | nil => simp at hvars
  | cons binding bindings ih =>
    rw [List.forall_mem_cons] at h
    obtain ⟨word, hplain, hword⟩ := Word.exists_text_eq binding.2
    have hvar : Word.ofText binding.2 = word := hword ▸ Word.ofText_text hplain
    rw [ofWords_writtenWords_cons h.1, hvar]
    cases word with
    | var name =>
      obtain rfl : name = binding.2 := hword
      have hcolon : ':' ∉ binding.2.toList := hplain
      obtain ⟨other, hother, hrest⟩ := ih h.2 (by simpa [hcolon] using hvars)
      exact ⟨other, List.mem_cons_of_mem _ hother, by rw [hrest]; rfl⟩
    | _ => exact ⟨binding, List.mem_cons_self, rfl⟩

/-- **The written form is read back exactly if no variable has a colon.** Otherwise it is refused, as if a
term were without its variable. -/
theorem ofText_text_iff {text : String} {f : FormulaTerms} (h : ofText text = .ok f) :
    (ofText f.text = .ok f ↔ ∀ binding ∈ f.bindings, ':' ∉ binding.2.toList) ∧
      ((∃ binding ∈ f.bindings, ':' ∈ binding.2.toList) → ∃ binding ∈ f.bindings,
        ofText f.text = .error (.invalidArgument (.termWithoutVariable f.text binding.1))) := by
  have hread := isRead_of_ofText h
  have hrefused (hvar : ∃ binding ∈ f.bindings, ':' ∈ binding.2.toList) : ∃ binding ∈ f.bindings,
      ofText f.text = .error (.invalidArgument (.termWithoutVariable f.text binding.1)) := by
    obtain ⟨binding, hbinding, herror⟩ := ofWords_writtenWords_error hread hvar f.text
    refine ⟨binding, hbinding, ?_⟩
    rw [ofText, words_text hread, herror]
  refine ⟨⟨fun hback binding hbinding hcolon => ?_, fun hvars => ?_⟩, hrefused⟩
  · obtain ⟨_, -, herror⟩ := hrefused ⟨binding, hbinding, hcolon⟩
    cases hback.symm.trans herror
  · rw [ofText_eq_ok, words_text hread]
    exact ofWords_writtenWords hread hvars f.text

/-- The bindings of a text in both spellings are read back from their written form. -/
theorem ofText_text_iff_mixedSpelling :
    ∃ f, ofText "s:s_rho  eta: zeta" = .ok f ∧ f.text = "s: s_rho eta: zeta" ∧ ofText f.text = .ok f := by
  have hread : ofText "s:s_rho  eta: zeta" = .ok ⟨[("s", "s_rho"), ("eta", "zeta")]⟩ := rfl
  exact ⟨_, hread, rfl, (ofText_text_iff hread).1.2 (by decide)⟩

/-- A variable with a colon is read where it follows its term without white space, and not where it is
written after it. -/
theorem not_ofText_text_colonInVariable :
    ¬ ∀ (text : String) (f : FormulaTerms), ofText text = .ok f → ofText f.text = .ok f := by
  intro h
  have hread : ofText "sigma:lev:0" = .ok ⟨[("sigma", "lev:0")]⟩ := rfl
  have hback : ofText "sigma: lev:0" = .error (.invalidArgument (.termWithoutVariable "sigma: lev:0" "sigma")) :=
    rfl
  have hsame : ofText "sigma: lev:0" = .ok ⟨[("sigma", "lev:0")]⟩ := h _ _ hread
  cases hback.symm.trans hsame

end Gridded.FormulaTerms
