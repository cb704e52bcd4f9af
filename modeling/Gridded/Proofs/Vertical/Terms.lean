import Gridded.Proofs.Data.Fullness
import Gridded.Vertical.Recipe

/-!
# The terms of a recipe

What is known of a term once it is read, whatever the source of arrays answers.

* `Recipe.Binds`: the variable that stands for a term;
* `Recipe.variableOf_eq_ok`, `Recipe.levels_eq_ok`, `Recipe.number_eq_ok`: when a term can be read, and
  what is read;
* `HorizontalTerm.Loaded`, `Recipe.horizontal_eq_ok`: the same for terms with horizontal dimensions,
  whose arrays may have to be read later;
* `HorizontalTerm.Loaded.shape_of_load`, `HorizontalTerm.Loaded.isFull_of_load`: the arrays of such a
  term at any time step;
* `HorizontalTerm.times_of_commonTimes`: terms that vary in time have the time steps that are common to
  all.
-/

namespace Gridded

variable {α : Type}

/-- The variable stands for a term. -/
def Recipe.Binds (r : Recipe α) (term : String) (v : Variable α) : Prop :=
  ∃ name, r.terms.find? term = some name ∧ r.dataset.find? name = some v

/-! ### Terms without horizontal dimensions -/

namespace Recipe

variable {r : Recipe α} {formula : Formula} {term : String} {target : Option String}

theorem Binds.unique {v v' : Variable α} (h : r.Binds term v) (h' : r.Binds term v') : v = v' := by
  obtain ⟨name, hname, hv⟩ := h
  obtain ⟨name', hname', hv'⟩ := h'
  cases hname.symm.trans hname'
  exact Option.some.inj (hv.symm.trans hv')

theorem variableOf_eq_ok {v : Variable α} :
    r.variableOf formula term = .ok v ↔ r.Binds term v := by
  unfold variableOf Binds FormulaTerms.require
  rcases r.terms.find? term with _ | name
  · simp
  · simp only [ok_bind, Option.some.injEq, exists_eq_left']
    rcases r.dataset.find? name with _ | found <;> simp [pure_eq_ok]

variable [Scalar α]

@[simp] theorem unitFactor_none (settings : Settings) (source : Option String) :
    (unitFactor settings source none : α) = 1 := by
  cases source <;> rfl

/-- Numbers of a unit need no conversion to it. -/
@[simp] theorem unitFactor_self (settings : Settings) (unit : Option String) :
    (unitFactor settings unit unit : α) = 1 := by
  cases unit with
  | none => rfl
  | some unit => exact if_pos rfl

/-- Reading a term with a number for each level takes a variable of at most one dimension. The numbers
are cleaned, and there are as many as the source answers. -/
theorem levels_eq_ok {xs : List α} : r.levels formula term target = .ok xs ↔
    ∃ v data, r.Binds term v ∧ v.rank ≤ 1 ∧ r.dataset.read v.name = .ok data ∧
      xs = data.entries.toList.map (clean v.missing (unitFactor r.settings v.units? target)) := by
  simp only [levels, bind_eq_ok, variableOf_eq_ok]
  constructor
  · rintro ⟨v, hv, h⟩
    split_ifs at h with hrank
    obtain ⟨data, hdata, h⟩ := bind_eq_ok.1 h
    exact ⟨v, data, hv, Nat.le_of_not_lt hrank, hdata, (pure_eq_ok.1 h).symm⟩
  · rintro ⟨v, data, hv, hrank, hdata, rfl⟩
    refine ⟨v, hv, ?_⟩
    rw [if_neg (Nat.not_lt.2 hrank), hdata]
    rfl

/-- A term that has one number has it at its only level. -/
theorem number_eq_ok {x : α} :
    r.number formula term target = .ok x ↔ r.levels formula term target = .ok [x] := by
  simp only [number, bind_eq_ok]
  constructor
  · rintro ⟨xs, hxs, h⟩
    split at h
    · cases h
      exact hxs
    · obtain ⟨v, -, herror⟩ := bind_eq_ok.1 h
      cases herror
  · intro h
    exact ⟨[x], h, rfl⟩

end Recipe

/-! ### Terms with horizontal dimensions -/

namespace HorizontalTerm

variable [Scalar α]

/-- What is known of a term whose variable is `v` and whose numbers are converted by `factor`, once it
is read from `d`: its sides and its time steps are those that the variable declares, and without time
steps its array is that of the variable, cleaned. -/
inductive Loaded (d : Dataset α) (v : Variable α) (factor : α) : HorizontalTerm α → Prop
  | static {rows columns : Nat} {data : Tensor α} (hshape : v.shape = [rows, columns])
    (hread : d.read v.name = .ok data) (hdata : data.shape = [rows, columns]) :
    Loaded d v factor
      ⟨v, none, rows, columns, factor, some (data.map (Recipe.clean v.missing factor))⟩
  | timed {times rows columns : Nat} (hshape : v.shape = [times, rows, columns]) :
    Loaded d v factor ⟨v, some times, rows, columns, factor, none⟩

variable {d d' : Dataset α} {v : Variable α} {factor : α} {f : HorizontalTerm α}

theorem Loaded.var_eq (h : f.Loaded d v factor) : f.var = v := by
  cases h <;> rfl

theorem clean_eq_ok {data cleaned : Tensor α} : f.clean data = .ok cleaned ↔
    data.shape = f.shape ∧ data.map (Recipe.clean f.var.missing f.factor) = cleaned := by
  unfold clean
  split_ifs with h <;> simp [h]

theorem load_static {data : Tensor α} (h : f.data = some data) (time : Nat) :
    f.load d time = .ok data := by
  rw [load, h]

theorem load_timed (h : f.data = none) (time : Nat) :
    f.load d time = d.readAt f.name time >>= f.clean := by
  rw [load, h]

/-- At every time step, an array has the sides that the variable declares. -/
theorem Loaded.shape_of_load (h : f.Loaded d v factor) {time : Nat} {a : Tensor α}
    (ha : f.load d' time = .ok a) : a.shape = [f.rows, f.columns] := by
  cases h with
  | static _ _ hdata =>
    rw [load_static rfl] at ha
    cases ha
    exact hdata
  | timed _ =>
    rw [load_timed rfl] at ha
    obtain ⟨data, -, hclean⟩ := bind_eq_ok.1 ha
    obtain ⟨hdata, rfl⟩ := clean_eq_ok.1 hclean
    exact hdata

/-- At every time step, an array is full. -/
theorem Loaded.isFull_of_load (h : f.Loaded d v factor) (hd : d.Full) (hd' : d'.Full) {time : Nat}
    {a : Tensor α} (ha : f.load d' time = .ok a) : a.IsFull := by
  cases h with
  | static _ hread _ =>
    rw [load_static rfl] at ha
    cases ha
    exact Tensor.isFull_map (hd.read hread) _
  | timed _ =>
    rw [load_timed rfl] at ha
    obtain ⟨data, hread, hclean⟩ := bind_eq_ok.1 ha
    obtain ⟨-, rfl⟩ := clean_eq_ok.1 hclean
    exact Tensor.isFull_map (hd'.readAt hread) _

omit [Scalar α] in
theorem sameShape_eq_ok {other : HorizontalTerm α} :
    f.sameShape other = .ok () ↔ other.rows = f.rows ∧ other.columns = f.columns := by
  unfold sameShape shape
  split_ifs with h <;> simpa using h

omit [Scalar α] in
/-- A term that varies in time has the time steps that are common to all. -/
theorem times_of_commonTimes {formula : Formula} {terms : List (HorizontalTerm α)}
    {times : Option Nat} (h : commonTimes formula terms = .ok times) {f : HorizontalTerm α}
    (hf : f ∈ terms) {n : Nat} (hn : f.times = some n) : times = some n := by
  unfold commonTimes at h
  -- A step keeps what was found before it and adds what its own term has.
  refine foldlM_eq_ok_forall (P := fun f found => ∀ n, f.times = some n → found = some n)
    ?_ ?_ h f hf n hn
  · intro found g next hstep n hn
    rcases found with _ | m <;> rw [hn] at hstep
    · cases hstep
      rfl
    · dsimp only at hstep
      split_ifs at hstep with heq
      cases hstep
      rw [heq]
  · intro f found g next hfound hstep n hn
    rw [hfound n hn] at hstep
    rcases hg : g.times with _ | m <;> rw [hg] at hstep
    · cases hstep
      rfl
    · dsimp only at hstep
      split_ifs at hstep with heq
      cases hstep
      rfl

end HorizontalTerm

/-- Reading a term with horizontal dimensions takes a variable of two dimensions whose array has the
shape that it declares, or one of three dimensions, which is left for later. -/
theorem Recipe.horizontal_eq_ok [Scalar α] {r : Recipe α} {formula : Formula} {term : String}
    {target : Option String} {f : HorizontalTerm α} : r.horizontal formula term target = .ok f ↔
      ∃ v, r.Binds term v ∧
        f.Loaded r.dataset v (Recipe.unitFactor r.settings v.units? target) := by
  simp only [horizontal, bind_eq_ok, variableOf_eq_ok]
  constructor
  · rintro ⟨v, hv, g, hg, h⟩
    refine ⟨v, hv, ?_⟩
    unfold HorizontalTerm.declared at hg
    split at hg
    · rename_i rows columns hshape
      cases hg
      obtain ⟨data, hread, h⟩ := bind_eq_ok.1 h
      obtain ⟨cleaned, hclean, h⟩ := bind_eq_ok.1 h
      obtain ⟨hdata, rfl⟩ := HorizontalTerm.clean_eq_ok.1 hclean
      cases h
      exact .static hshape hread hdata
    · rename_i times rows columns hshape
      cases hg
      cases h
      exact .timed hshape
    · cases hg
  · rintro ⟨v, hv, hf⟩
    refine ⟨v, hv, ?_⟩
    cases hf with
    | static hshape hread hdata =>
      refine ⟨_, by rw [HorizontalTerm.declared, hshape], ?_⟩
      dsimp only
      rw [hread, ok_bind, HorizontalTerm.clean_eq_ok.2 ⟨hdata, rfl⟩]
      rfl
    | timed hshape => exact ⟨_, by rw [HorizontalTerm.declared, hshape], rfl⟩

/-- Reading a term in its own unit is reading it without conversion. -/
theorem Recipe.horizontal_self [Scalar α] {r : Recipe α} {formula : Formula} {term : String}
    {f : HorizontalTerm α} (h : r.horizontal formula term none = .ok f) :
    r.horizontal formula term f.var.units? = .ok f := by
  obtain ⟨v, hv, hf⟩ := horizontal_eq_ok.1 h
  refine horizontal_eq_ok.2 ⟨v, hv, ?_⟩
  rw [hf.var_eq, unitFactor_self]
  rwa [unitFactor_none] at hf

end Gridded
