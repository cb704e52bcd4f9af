import Gridded.Error

/-!
# Formula terms

A vertical coordinate names the variables of its formula in one text: `s: s_rho eta: zeta`. Each term
is followed by a colon and, with or without white space between, by its variable.

* `FormulaTerms`: the bindings in the order of the text;
* `FormulaTerms.ofText`: reading the text;
* `FormulaTerms.text`: writing it;
* `FormulaTerms.find?`, `FormulaTerms.require`: the variable of a term.
-/

namespace Gridded

/-- Which variable stands for each term of a formula. The first binding of a term counts. -/
structure FormulaTerms where
  bindings : List (String × String)
  deriving DecidableEq, Repr

namespace FormulaTerms

/-- No bindings. -/
def empty : FormulaTerms := ⟨[]⟩

/-- Add a binding after the others. -/
def bind (f : FormulaTerms) (term var : String) : FormulaTerms := ⟨f.bindings ++ [(term, var)]⟩

/-- The variable of a term. -/
def find? (f : FormulaTerms) (term : String) : Option String := f.bindings.lookup term

/-- Whether a term is bound. -/
def contains (f : FormulaTerms) (term : String) : Bool := (f.find? term).isSome

/-- The variable of a term that a transform cannot do without. -/
def require (f : FormulaTerms) (transform term : String) : Except Error String :=
  match f.find? term with
  | some var => .ok var
  | none => .error (.missingTerm transform term)

/-- The bindings, each as `term: variable`. -/
def text (f : FormulaTerms) : String :=
  " ".intercalate (f.bindings.map fun binding => binding.1 ++ ": " ++ binding.2)

/-- The diagnostic form. -/
def listing (f : FormulaTerms) : String :=
  Listing.record "FormulaTerms" [("terms", Listing.list (f.bindings.map fun binding =>
    "(" ++ Text.quote binding.1 ++ ", " ++ Text.quote binding.2 ++ ")"))]

/-! ### Reading -/

/-- A word of the text: its part before the first colon and the part after it, if it has a colon. -/
def splitColon : List Char → List Char × Option (List Char)
  | [] => ([], none)
  | c :: rest =>
    if c = ':' then ([], some rest)
    else
      let parts := splitColon rest
      (c :: parts.1, parts.2)

/-- What one word of the text is. -/
inductive Word
  /-- A term and its variable, `term:variable`. -/
  | binding (term var : String)
  /-- A term whose variable is the next word, `term:`. -/
  | term (name : String)
  /-- A word without a colon. -/
  | var (name : String)
  deriving DecidableEq, Repr

/-- Tell what a word is. -/
def Word.ofText (word : String) : Word :=
  match splitColon word.toList with
  | (_, none) => var word
  | (before, some []) => term (String.ofList before)
  | (before, some after) => binding (String.ofList before) (String.ofList after)

/-- Read words one by one, of which `open?` is a term that waits for its variable. -/
def ofWords (text : String) (open? : Option String) :
    List String → Except ArgumentFault (List (String × String))
  | [] =>
    match open? with
    | none => .ok []
    | some term => .error (.termWithoutVariable text term)
  | word :: rest =>
    match Word.ofText word, open? with
    | .var name, some term => ((term, name) :: ·) <$> ofWords text none rest
    | .var name, none => .error (.variableWithoutTerm text name)
    | _, some term => .error (.termWithoutVariable text term)
    | .binding term name, none =>
      if term = "" then .error (.emptyTerm text)
      else ((term, name) :: ·) <$> ofWords text none rest
    | .term name, none =>
      if name = "" then .error (.emptyTerm text) else ofWords text (some name) rest

/-- Read the bindings of a text. -/
def ofText (text : String) : Except Error FormulaTerms :=
  match ofWords text none (Text.words text) with
  | .ok bindings => .ok ⟨bindings⟩
  | .error fault => .error (.invalidArgument fault)

end FormulaTerms

end Gridded
