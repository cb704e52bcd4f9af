import Gridded.Outcome
import Gridded.Proofs.Checking

/-!
# Computations that may be broken off

Facts about steps of which each may be broken off, and about computations that do the same as others as long
as they are not.

* `Gives`: a look-up or a computation in words that gives something with a property;
* `Outcome.bind_eq_pure`, `Outcome.bind_eq_brokenOff`: what comes of steps one after the other;
* `Outcome.mapM_eq_pure`: a traversal, each step of which gives what is expected under a condition;
* `Outcome.Agrees`: a computation that gives the answer of another one, if it gives any; `Agrees.bind`,
  `Agrees.mapM` and `Agrees.foldlM` say so of steps one after the other.
-/

namespace Gridded

variable {α β : Type}

/-- There is a result with a property. -/
def Gives (x : Option α) (P : α → Prop) : Prop := ∃ a, P a ∧ x = some a

namespace Gives

variable {x : Option α} {P : α → Prop} {Q : β → Prop}

theorem of_some {a : α} (h : P a) : Gives (some a) P := ⟨a, h, rfl⟩

theorem bind {f : α → Option β} (h : Gives x P) (hf : ∀ a, P a → Gives (f a) Q) :
    Gives (x >>= f) Q := by
  obtain ⟨a, ha, rfl⟩ := h
  exact hf a ha

/-- What is seen of the result, where that is known. -/
theorem map_eq_some {f : α → β} {b : β} (h : Gives x fun a => f a = b) : x.map f = some b := by
  obtain ⟨a, ha, rfl⟩ := h
  exact congrArg some ha

/-- A traversal of a list, each step of which stands for what another function gives. -/
theorem mapM {γ δ : Type} {f : γ → Option α} {view : α → δ} {g : γ → δ} {l : List γ}
    (h : ∀ c ∈ l, Gives (f c) fun a => view a = g c) :
    Gives (l.mapM f) fun r => r.map view = l.map g := by
  induction l with
  | nil => exact of_some rfl
  | cons c l ih =>
    rw [List.mapM_cons]
    refine (h c List.mem_cons_self).bind fun a ha => ?_
    refine (ih fun d hd => h d (List.mem_cons_of_mem c hd)).bind fun r hr => ?_
    exact of_some (by rw [List.map_cons, List.map_cons, ha, hr])

end Gives

namespace Outcome

variable {x : Outcome α} {y : Except Error α} {a : α} {b : β} {f : α → Outcome β} {e : Error}

/-! ### The three outcomes -/

theorem cases_eq (x : Outcome α) : x = brokenOff ∨ (∃ e, x = throw e) ∨ ∃ a, x = pure a := by
  rcases x with _ | e | a
  · exact .inl rfl
  · exact .inr (.inl ⟨e, rfl⟩)
  · exact .inr (.inr ⟨a, rfl⟩)

theorem liftM_eq (y : Except Error α) : (liftM y : Outcome α) = answer y := rfl

theorem answer_inj {z : Except Error α} : answer y = answer z ↔ y = z := Option.some_inj

theorem answer_eq_pure : answer y = pure a ↔ y = .ok a := answer_inj

theorem pure_inj {c : α} : (pure a : Outcome α) = pure c ↔ a = c :=
  answer_inj.trans (Iff.of_eq (Except.ok.injEq a c))

theorem pure_ne_brokenOff : (pure a : Outcome α) ≠ brokenOff := Option.some_ne_none _

theorem answer_ne_brokenOff : answer y ≠ brokenOff := Option.some_ne_none _

theorem throw_ne_pure : (throw e : Outcome α) ≠ pure a := fun h => by cases h

theorem throw_ne_brokenOff : (throw e : Outcome α) ≠ brokenOff := Option.some_ne_none _

theorem lift_eq_pure {z : Option α} : (liftM z : Outcome α) = pure a ↔ z = some a := by
  cases z with
  | none => exact iff_of_false (fun h => by cases h) fun h => by cases h
  | some c => exact pure_inj.trans Option.some_inj.symm

theorem lift_eq_brokenOff {z : Option α} : (liftM z : Outcome α) = brokenOff ↔ z = none := by
  cases z with
  | none => exact iff_of_true rfl rfl
  | some c => exact iff_of_false pure_ne_brokenOff fun h => by cases h

@[simp] theorem answer_ok_bind (a : α) (f : α → Outcome β) : answer (.ok a) >>= f = f a := rfl

@[simp] theorem answer_error_bind (e : Error) (f : α → Outcome β) :
    answer (.error e) >>= f = throw e := rfl

@[simp] theorem brokenOff_bind (f : α → Outcome β) : (brokenOff : Outcome α) >>= f = brokenOff := rfl

/-! ### Steps -/

theorem bind_eq_pure : x >>= f = pure b ↔ ∃ a, x = pure a ∧ f a = pure b := by
  constructor
  · intro h
    rcases x.cases_eq with rfl | ⟨e, rfl⟩ | ⟨a, rfl⟩
    · cases h
    · cases h
    · exact ⟨a, rfl, h⟩
  · rintro ⟨a, rfl, h⟩
    exact h

theorem bind_eq_brokenOff :
    x >>= f = brokenOff ↔ x = brokenOff ∨ ∃ a, x = pure a ∧ f a = brokenOff := by
  constructor
  · intro h
    rcases x.cases_eq with rfl | ⟨e, rfl⟩ | ⟨a, rfl⟩
    · exact .inl rfl
    · cases h
    · exact .inr ⟨a, rfl, h⟩
  · rintro (rfl | ⟨a, rfl, h⟩)
    · rfl
    · exact h

theorem map_eq_pure {g : α → β} : g <$> x = pure b ↔ ∃ a, x = pure a ∧ g a = b := by
  refine Iff.trans bind_eq_pure (exists_congr fun a => and_congr_right fun _ => ?_)
  exact pure_inj

theorem map_eq_brokenOff {g : α → β} : g <$> x = brokenOff ↔ x = brokenOff := by
  refine Iff.trans bind_eq_brokenOff (or_iff_left ?_)
  rintro ⟨a, -, h⟩
  exact pure_ne_brokenOff h

/-- What is given under a condition is given under the same one after it is changed. -/
theorem map_eq_pure_iff {g : α → β} {P : Prop} (h : ∀ a, x = pure a ↔ y = .ok a ∧ P) :
    g <$> x = pure b ↔ g <$> y = .ok b ∧ P := by
  simp only [map_eq_pure, map_eq_ok, h]
  constructor
  · rintro ⟨a, ⟨ha, hP⟩, hb⟩
    exact ⟨⟨a, ha, hb⟩, hP⟩
  · rintro ⟨⟨a, ha, hb⟩, hP⟩
    exact ⟨a, ⟨ha, hP⟩, hb⟩

theorem map_answer (g : α → β) (y : Except Error α) : g <$> answer y = answer (g <$> y) := by
  cases y <;> rfl

/-- If each step gives what another computation gives, as long as a condition holds, then so do all steps,
as long as all conditions hold. -/
theorem mapM_eq_pure {f : α → Outcome β} {g : α → Except Error β} {P : α → Prop} {l : List α} {r : List β}
    (h : ∀ a ∈ l, ∀ b, f a = pure b ↔ g a = .ok b ∧ P a) :
    l.mapM f = pure r ↔ l.mapM g = .ok r ∧ ∀ a ∈ l, P a := by
  induction l generalizing r with
  | nil =>
    rw [List.mapM_nil, List.mapM_nil, pure_inj, pure_eq_ok]
    simp
  | cons a l ih =>
    have hhead := h a List.mem_cons_self
    have hrest := fun r => ih (r := r) fun c hc => h c (List.mem_cons_of_mem a hc)
    simp only [List.mapM_cons, bind_eq_pure, bind_eq_ok, pure_inj, pure_eq_ok, hhead, hrest,
      List.forall_mem_cons]
    constructor
    · rintro ⟨b, ⟨hb, hP⟩, bs, ⟨hbs, hall⟩, rfl⟩
      exact ⟨⟨b, hb, bs, hbs, rfl⟩, hP, hall⟩
    · rintro ⟨⟨b, hb, bs, hbs, rfl⟩, hP, hall⟩
      exact ⟨b, ⟨hb, hP⟩, bs, ⟨hbs, hall⟩, rfl⟩

/-! ### Agreement -/

/-- If there is an answer, it is that of another computation. -/
def Agrees (x : Outcome α) (y : Except Error α) : Prop := ∀ r, x = answer r → r = y

theorem agrees_answer (y : Except Error α) : (answer y).Agrees y := fun _ h => (answer_inj.1 h).symm

theorem agrees_pure (a : α) : (pure a : Outcome α).Agrees (.ok a) := agrees_answer (.ok a)

theorem agrees_brokenOff : (brokenOff : Outcome α).Agrees y := fun _ h => by cases h

theorem Agrees.eq_ok (h : x.Agrees y) (hx : x = pure a) : y = .ok a := (h (.ok a) hx).symm

/-- What should be given, but is not, was broken off. -/
theorem Agrees.eq_brokenOff (h : x.Agrees (.ok a)) (hx : x ≠ pure a) : x = brokenOff := by
  rcases x.cases_eq with rfl | ⟨e, rfl⟩ | ⟨b, rfl⟩
  · rfl
  · cases h _ rfl
  · cases h _ rfl
    exact absurd rfl hx

theorem Agrees.bind {g : α → Except Error β} (h : x.Agrees y) (hf : ∀ a, (f a).Agrees (g a)) :
    (x >>= f).Agrees (y >>= g) := by
  rcases x.cases_eq with rfl | ⟨e, rfl⟩ | ⟨a, rfl⟩
  · exact agrees_brokenOff
  · obtain rfl : .error e = y := h _ rfl
    exact agrees_answer (.error e)
  · obtain rfl : .ok a = y := h _ rfl
    exact hf a

theorem Agrees.map {g : α → β} (h : x.Agrees y) : (g <$> x).Agrees (g <$> y) := by
  cases y with
  | error e => exact h.bind fun a => agrees_pure (g a)
  | ok a => exact h.bind fun a => agrees_pure (g a)

theorem Agrees.mapM {f : α → Outcome β} {g : α → Except Error β} {l : List α}
    (h : ∀ a ∈ l, (f a).Agrees (g a)) : (l.mapM f).Agrees (l.mapM g) := by
  induction l with
  | nil => exact agrees_pure []
  | cons a l ih =>
    rw [List.mapM_cons, List.mapM_cons]
    refine (h a List.mem_cons_self).bind fun b => ?_
    refine (ih fun c hc => h c (List.mem_cons_of_mem a hc)).bind fun bs => agrees_pure (b :: bs)

theorem Agrees.foldlM {f : β → α → Outcome β} {g : β → α → Except Error β}
    (h : ∀ b a, (f b a).Agrees (g b a)) (l : List α) (b : β) : (l.foldlM f b).Agrees (l.foldlM g b) := by
  induction l generalizing b with
  | nil => exact agrees_pure b
  | cons a l ih =>
    rw [List.foldlM_cons, List.foldlM_cons]
    exact (h b a).bind ih

end Outcome

end Gridded
