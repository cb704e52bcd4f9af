import Mathlib.Data.List.Forall2

/-!
# Checked computations

Facts about computations that may fail, and about doing one for each member of a list.

* `bind_eq_ok`, `map_eq_ok`, `pure_eq_ok`: when a sequence of steps gives a result;
  `bind_eq_error`, `map_eq_error`: when it does not;
* `mapM_eq_ok`, `exists_mapM_iff`, `forM_eq_ok`: a traversal gives a result when every step does, and
  otherwise fails as one of them (`exists_error_of_mapM`); `mapM_eq_some` is about look-ups;
* `foldlM_eq_ok_induction`, `foldlM_eq_ok_forall`: what every step of a run keeps holds at its end;
* `find?_forall₂`, `mem_forall₂`, `forall₂_imp_mem`, `forall₂_trans`: lists that correspond member by member.
-/

namespace Gridded

section Steps

variable {ε α β : Type}

theorem bind_eq_ok {x : Except ε α} {f : α → Except ε β} {b : β} :
    x >>= f = .ok b ↔ ∃ a, x = .ok a ∧ f a = .ok b := by
  cases x <;> simp [bind, Except.bind]

theorem map_eq_ok {f : α → β} {x : Except ε α} {b : β} :
    f <$> x = .ok b ↔ ∃ a, x = .ok a ∧ f a = b := by
  cases x <;> simp [Functor.map, Except.map]

theorem pure_eq_ok {a b : α} : (pure a : Except ε α) = .ok b ↔ a = b := by
  simp [pure, Except.pure]

theorem bind_eq_error {x : Except ε α} {f : α → Except ε β} {e : ε} :
    x >>= f = .error e ↔ x = .error e ∨ ∃ a, x = .ok a ∧ f a = .error e := by
  cases x <;> simp [bind, Except.bind]

theorem map_eq_error {f : α → β} {x : Except ε α} {e : ε} :
    f <$> x = .error e ↔ x = .error e := by
  cases x <;> simp [Functor.map, Except.map]

@[simp] theorem ok_bind (a : α) (f : α → Except ε β) : Except.ok a >>= f = f a := rfl

@[simp] theorem error_bind (e : ε) (f : α → Except ε β) :
    (Except.error e : Except ε α) >>= f = .error e := rfl

@[simp] theorem bind_ok (x : Except ε α) : x >>= Except.ok = x := by cases x <;> rfl

@[simp] theorem map_ok (f : α → β) (a : α) : f <$> (Except.ok a : Except ε α) = .ok (f a) := rfl

@[simp] theorem map_error (f : α → β) (e : ε) :
    f <$> (Except.error e : Except ε α) = .error e := rfl

end Steps

section Traversal

variable {ε α β : Type}

/-- A traversal gives a list of results, one for each member. -/
theorem mapM_eq_ok {f : α → Except ε β} {l : List α} {r : List β} :
    l.mapM f = .ok r ↔ List.Forall₂ (fun a b => f a = .ok b) l r := by
  induction l generalizing r with
  | nil => rw [List.mapM_nil, pure_eq_ok, List.forall₂_nil_left_iff, eq_comm]
  | cons a l ih =>
    simp only [List.mapM_cons, bind_eq_ok, pure_eq_ok, ih, List.forall₂_cons_left_iff]
    constructor
    · rintro ⟨b, hb, bs, hbs, rfl⟩
      exact ⟨b, bs, hb, hbs, rfl⟩
    · rintro ⟨b, bs, hb, hbs, rfl⟩
      exact ⟨b, hb, bs, hbs, rfl⟩

/-- A traversal gives a result exactly if every step does. -/
theorem exists_mapM_iff {f : α → Except ε β} {l : List α} :
    (∃ r, l.mapM f = .ok r) ↔ ∀ a ∈ l, ∃ b, f a = .ok b := by
  induction l with
  | nil => simp [pure, Except.pure]
  | cons a l ih =>
    rw [List.forall_mem_cons, ← ih]
    simp only [List.mapM_cons, bind_eq_ok, pure_eq_ok]
    constructor
    · rintro ⟨_, b, hb, bs, hbs, rfl⟩
      exact ⟨⟨b, hb⟩, bs, hbs⟩
    · rintro ⟨⟨b, hb⟩, bs, hbs⟩
      exact ⟨_, b, hb, bs, hbs, rfl⟩

/-- A traversal fails as one of its steps does. -/
theorem exists_error_of_mapM {f : α → Except ε β} {l : List α} {e : ε} (h : l.mapM f = .error e) :
    ∃ a ∈ l, f a = .error e := by
  induction l with
  | nil => cases h
  | cons a l ih =>
    rw [List.mapM_cons, bind_eq_error] at h
    rcases h with ha | ⟨b, -, h⟩
    · exact ⟨a, List.mem_cons_self, ha⟩
    · rcases bind_eq_error.1 h with hl | ⟨bs, -, hpure⟩
      · obtain ⟨a', ha', he⟩ := ih hl
        exact ⟨a', List.mem_cons_of_mem _ ha', he⟩
      · cases hpure

/-- A check of every member passes if each member passes it. -/
theorem forM_eq_ok {f : α → Except ε Unit} {l : List α} :
    l.forM f = .ok () ↔ ∀ a ∈ l, f a = .ok () := by
  induction l with
  | nil => simp [pure, Except.pure]
  | cons a l ih =>
    rw [List.forM, bind_eq_ok, List.forall_mem_cons]
    constructor
    · rintro ⟨⟨⟩, ha, hl⟩
      exact ⟨ha, ih.1 hl⟩
    · rintro ⟨ha, hl⟩
      exact ⟨(), ha, ih.2 hl⟩

/-- A traversal by look-ups that all find something. -/
theorem mapM_eq_some {f : α → Option β} {g : α → β} {l : List α}
    (h : ∀ a ∈ l, f a = some (g a)) : l.mapM f = some (l.map g) := by
  induction l with
  | nil => rfl
  | cons a l ih =>
    rw [List.forall_mem_cons] at h
    rw [List.mapM_cons, h.1, ih h.2]
    rfl

/-- Traversals of two lists that correspond give the same if their steps do. -/
theorem mapM_forall₂ {γ : Type} {R : α → β → Prop} {f : α → Except ε γ} {g : β → Except ε γ}
    (hfg : ∀ a b, R a b → f a = g b) {l : List α} {r : List β} (h : List.Forall₂ R l r) :
    l.mapM f = r.mapM g := by
  induction h with
  | nil => rfl
  | cons hab _ ih => rw [List.mapM_cons, List.mapM_cons, hfg _ _ hab, ih]

/-- Two lists that correspond agree on the first member with a property that corresponds. -/
theorem find?_forall₂ {R : α → β → Prop} {p : α → Bool} {q : β → Bool}
    (hpq : ∀ a b, R a b → p a = q b) {l : List α} {r : List β} (h : List.Forall₂ R l r) :
    Option.Rel R (l.find? p) (r.find? q) := by
  induction h with
  | nil => exact .none
  | @cons a b l r hab _ ih =>
    rw [List.find?_cons, List.find?_cons, ← hpq a b hab]
    cases p a with
    | true => exact .some hab
    | false => exact ih

/-- Each member of the first list has one that corresponds to it in the second. -/
theorem mem_forall₂ {R : α → β → Prop} {l : List α} {r : List β} (h : List.Forall₂ R l r)
    {a : α} (ha : a ∈ l) : ∃ b ∈ r, R a b := by
  induction h with
  | nil => cases ha
  | cons hab _ ih =>
    rcases List.mem_cons.1 ha with rfl | ha
    · exact ⟨_, List.mem_cons_self, hab⟩
    · obtain ⟨b, hb, hR⟩ := ih ha
      exact ⟨b, List.mem_cons_of_mem _ hb, hR⟩

/-- Members that correspond in one way do so in another, if that follows for members of the lists. -/
theorem forall₂_imp_mem {R S : α → β → Prop} {l : List α} {r : List β}
    (h : ∀ a ∈ l, ∀ b ∈ r, R a b → S a b) (hR : List.Forall₂ R l r) : List.Forall₂ S l r := by
  obtain ⟨hlength, hzip⟩ := List.forall₂_iff_zip.1 hR
  refine List.forall₂_iff_zip.2 ⟨hlength, fun {a b} hab => ?_⟩
  obtain ⟨ha, hb⟩ := List.of_mem_zip hab
  exact h a ha b hb (hzip hab)

/-- Lists that correspond to a common one in between correspond to each other. -/
theorem forall₂_trans {γ : Type} {R : α → β → Prop} {S : β → γ → Prop} {T : α → γ → Prop}
    {l : List α} {m : List β} {r : List γ} (h : ∀ a ∈ l, ∀ b ∈ m, ∀ c, R a b → S b c → T a c)
    (hR : List.Forall₂ R l m) (hS : List.Forall₂ S m r) : List.Forall₂ T l r := by
  induction hR generalizing r with
  | nil =>
    cases hS
    exact .nil
  | @cons a b l m hab _ ih =>
    obtain ⟨c, r, hbc, hrest, rfl⟩ := List.forall₂_cons_left_iff.1 hS
    refine .cons (h a List.mem_cons_self b List.mem_cons_self c hab hbc) (ih ?_ hrest)
    exact fun a ha b hb => h a (List.mem_cons_of_mem _ ha) b (List.mem_cons_of_mem _ hb)

end Traversal

section Run

variable {ε α β : Type}

theorem foldlM_cons_eq_ok {f : β → α → Except ε β} {a : α} {l : List α} {x y : β} :
    (a :: l).foldlM f x = .ok y ↔ ∃ z, f x a = .ok z ∧ l.foldlM f z = .ok y := by
  rw [List.foldlM_cons, bind_eq_ok]

/-- What every step of a run keeps holds at its end. -/
theorem foldlM_eq_ok_induction {f : β → α → Except ε β} {P : β → Prop} {l : List α}
    (step : ∀ x, ∀ a ∈ l, ∀ y, P x → f x a = .ok y → P y) {x y : β} (hx : P x)
    (h : l.foldlM f x = .ok y) : P y := by
  induction l generalizing x with
  | nil => cases h; exact hx
  | cons a l ih =>
    obtain ⟨z, hz, hrest⟩ := foldlM_cons_eq_ok.1 h
    have hPz : P z := step x a List.mem_cons_self z hx hz
    exact ih (fun x b hb => step x b (List.mem_cons_of_mem _ hb)) hPz hrest

/-- What every step makes true for its own member, and later steps keep for all members, holds at the
end for each of them. -/
theorem foldlM_eq_ok_forall {f : β → α → Except ε β} {P : α → β → Prop} {l : List α}
    (mark : ∀ x a y, f x a = .ok y → P a y) (keep : ∀ b x a y, P b x → f x a = .ok y → P b y)
    {x y : β} (h : l.foldlM f x = .ok y) : ∀ a ∈ l, P a y := by
  induction l generalizing x with
  | nil => exact fun a ha => by cases ha
  | cons a l ih =>
    obtain ⟨z, hz, hrest⟩ := foldlM_cons_eq_ok.1 h
    have hkept : P a y :=
      foldlM_eq_ok_induction (fun x b _ y hx => keep a x b y hx) (mark x a z hz) hrest
    exact List.forall_mem_cons.2 ⟨hkept, ih hrest⟩

end Run

end Gridded
