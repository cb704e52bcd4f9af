import Gridded.Axis.Word
import Gridded.Proofs.Slice.Overflow

/-!
# Slices of axes in words

An axis is cut in words as it is cut exactly, as long as the stride of the range that the slice remembers is a
word. If it is not, there is no answer.

* `Axis.takeWord_eq_pure`, `Axis.takeWord_eq_brokenOff`: what is taken in words, and when there is no answer;
* `Axis.followWord_eq_pure`, `Axis.followWord_eq_brokenOff`: the same for an axis that follows another one;
* `Axis.agrees_takeWord`, `SystemAxis.agrees_takeWord?`: an answer in words is the exact answer;
* `SystemAxis.takeWord?_eq_pure`, `SystemAxis.followWord_eq_pure`: what is kept of an axis of a system.
-/

namespace Gridded

open Outcome

variable {α : Type} [Scalar α]

namespace Axis

variable {a b p : Axis α} {s : Slice}

theorem takeWord_of_empty (h : s.last = none) :
    a.takeWord s = throw (.invalidRange (.emptySubset a.name)) := by
  unfold takeWord
  rw [h]

theorem takeWord_of_last {last : ℕ} (h : s.last = some last) : a.takeWord s =
    answer (s.within a.size) >>= fun _ => a.range.composeWord s >>= fun range =>
      answer { a.draftOf s last with range := some range, isSubset := true }.build := by
  unfold takeWord
  rw [h]
  rfl

theorem take_of_last {last : ℕ} (h : s.last = some last) : a.take s =
    s.within a.size >>= fun _ => a.range.compose s >>= fun range =>
      { a.draftOf s last with range := some range, isSubset := true }.build := by
  unfold take
  rw [h]

/-- **A slice is taken in words** as it is taken exactly, if the product of the strides fits. -/
theorem takeWord_eq_pure :
    a.takeWord s = pure b ↔ a.take s = .ok b ∧ a.range.StrideFits s := by
  cases hl : s.last with
  | none =>
    have htake : a.take s = .error (.invalidRange (.emptySubset a.name)) := by rw [take, hl]
    rw [takeWord_of_empty hl, htake]
    exact iff_of_false throw_ne_pure fun h => by cases h.1
  | some last =>
    rw [takeWord_of_last hl, take_of_last hl]
    simp only [bind_eq_pure, answer_eq_pure, Slice.composeWord_eq_pure, bind_eq_ok]
    constructor
    · rintro ⟨u, hu, range, ⟨hrange, hfits⟩, hb⟩
      exact ⟨⟨u, hu, range, hrange, hb⟩, hfits⟩
    · rintro ⟨⟨u, hu, range, hrange, hb⟩, hfits⟩
      exact ⟨u, hu, range, ⟨hrange, hfits⟩, hb⟩

theorem agrees_takeWord (a : Axis α) (s : Slice) : (a.takeWord s).Agrees (a.take s) := by
  cases hl : s.last with
  | none =>
    rw [takeWord_of_empty hl, take, hl]
    exact agrees_answer (.error _)
  | some last =>
    rw [takeWord_of_last hl, take_of_last hl]
    refine (agrees_answer _).bind fun _ => ?_
    exact (Slice.agrees_composeWord _ _).bind fun range => agrees_answer _

/-- A slice within the axis is refused an answer if the product of the strides does not fit. -/
theorem takeWord_eq_brokenOff (hlen : a.range.len = a.size) : a.takeWord s = brokenOff ↔
    (∃ last, s.last = some last ∧ last < a.size) ∧ ¬a.range.StrideFits s := by
  cases hl : s.last with
  | none =>
    rw [takeWord_of_empty hl]
    exact iff_of_false throw_ne_brokenOff fun ⟨⟨last, h, _⟩, _⟩ => by cases h
  | some last =>
    rw [takeWord_of_last hl]
    simp only [bind_eq_brokenOff, answer_ne_brokenOff, false_or, answer_eq_pure,
      Slice.composeWord_eq_brokenOff, and_false, exists_false, or_false, hlen,
      Slice.below_iff_last_lt hl, Option.some.injEq, exists_eq_left']
    constructor
    · rintro ⟨_, -, h⟩
      exact h
    · intro h
      exact ⟨(), Slice.within_eq_ok.2 ((Slice.below_iff_last_lt hl _).2 h.1), h⟩

/-! ### Following another axis -/

/-- **An axis follows in words** as it follows exactly, if the product of the strides fits. -/
theorem followWord_eq_pure (hsub : p.isSubset = true) :
    a.followWord p = pure b ↔ a.follow p = .ok b ∧ a.range.StrideFits p.range := by
  unfold followWord follow
  rw [if_pos hsub, if_pos hsub]
  split_ifs with hparent
  · exact takeWord_eq_pure
  · exact iff_of_false throw_ne_pure fun h => by cases h.1

theorem followWord_eq_brokenOff (hlen : a.range.len = a.size) (hsub : p.isSubset = true) :
    a.followWord p = brokenOff ↔ p.name ∈ a.parents ∧
      (∃ last, p.range.last = some last ∧ last < a.size) ∧ ¬a.range.StrideFits p.range := by
  unfold followWord
  rw [if_pos hsub]
  split_ifs with hparent
  · rw [takeWord_eq_brokenOff hlen]
    exact (and_iff_right (List.contains_iff_mem.1 hparent)).symm
  · exact iff_of_false throw_ne_brokenOff fun h => hparent (List.contains_iff_mem.2 h.1)

end Axis

/-! ### Axes of a system -/

namespace SystemAxis

variable {a b : SystemAxis α} {r : Option Slice}

theorem takeWord_eq_pure {s : Slice} :
    a.takeWord s = pure b ↔ a.take s = .ok b ∧ a.axis.range.StrideFits s := by
  cases a with
  | plain a => exact map_eq_pure_iff fun _ => Axis.takeWord_eq_pure
  | timed t => exact map_eq_pure_iff fun _ => map_eq_pure_iff fun _ => Axis.takeWord_eq_pure

/-- An axis of a system follows in words as it follows exactly, if the product of the strides fits. -/
theorem followWord_eq_pure {p : Axis α} (hsub : p.isSubset = true) :
    a.followWord p = pure b ↔ a.follow p = .ok b ∧ a.axis.range.StrideFits p.range := by
  cases a with
  | plain a => exact map_eq_pure_iff fun _ => Axis.followWord_eq_pure hsub
  | timed t => exact map_eq_pure_iff fun _ => map_eq_pure_iff fun _ => Axis.followWord_eq_pure hsub

/-- The whole axis needs no stride. -/
theorem takeWord?_eq_pure : a.takeWord? r = pure b ↔
    a.take? r = .ok b ∧ ∀ s, r = some s → a.axis.range.StrideFits s := by
  cases r with
  | none =>
    show (pure a : Outcome _) = pure b ↔ Except.ok a = .ok b ∧ _
    simp [pure_inj]
  | some s =>
    show a.takeWord s = pure b ↔ a.take s = .ok b ∧ _
    simp [takeWord_eq_pure]

theorem agrees_takeWord? (a : SystemAxis α) (r : Option Slice) :
    (a.takeWord? r).Agrees (a.take? r) := by
  cases r with
  | none => exact agrees_pure a
  | some s =>
    cases a with
    | plain a => exact (Axis.agrees_takeWord a s).map
    | timed t =>
      show (timed <$> (fun axis => (⟨axis, t.scale⟩ : TimeAxis α)) <$> t.axis.takeWord s).Agrees
        (timed <$> (fun axis => (⟨axis, t.scale⟩ : TimeAxis α)) <$> t.axis.take s)
      exact (Axis.agrees_takeWord t.axis s).map.map

end SystemAxis

end Gridded
