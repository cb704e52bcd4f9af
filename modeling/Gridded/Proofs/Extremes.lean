import Gridded.Extent
import Gridded.Proofs.Doubles

/-!
# The extremes of a list of doubles

The extent of a list starts from two bounds, which are finite, and each number that is smaller or larger
replaces one of them. Where all numbers of the list are beyond the bound that it starts from, this bound
stays. Of the doubles only the infinities are beyond it.

* `Scalar.Precedence`: what is asked of an order in which one number comes before another;
* `Scalar.earlier`: the choice between two numbers, of which `least` and `greatest` are cases;
* `Scalar.Foremost`: what repeated choice leaves of a start and a list, with `foldl_earlier`;
* `Extent.isEmpty_ofList_iff`: the lists with an empty extent are those without numbers;
* `Extent.ofList_extremes`: for which lists of doubles the bounds are the least and the greatest number.
-/

namespace Gridded

/-! ### The first of some numbers -/

namespace Scalar

variable {α : Type} [Scalar α] (before : α → α → Prop)

/-- An order of the numbers, up to equal places: a number that comes before another comes before each
third one, or the third comes before the other. -/
structure Precedence : Prop where
  asymm : ∀ x y, before x y → ¬before y x
  splits : ∀ x y z, Scalar.isNaN z = false → before x y → before x z ∨ before z y

/-- The first of two numbers if it comes before the second, else the second. What is not a number is not
chosen. -/
def earlier [DecidableRel before] (a b : α) : α :=
  if Scalar.isNaN b then a else if before a b then a else b

/-- What is left of a start and a list of numbers: nothing comes before it, and it is one of the list,
unless the start comes before all of these. -/
structure Foremost (start : α) (l : List α) (b : α) : Prop where
  isNaN : Scalar.isNaN b = false
  not_start : ¬before start b
  not_mem : ∀ x ∈ l, Scalar.isNaN x = false → ¬before x b
  left : b ∈ l ∨ b = start ∧ ∀ x ∈ l, Scalar.isNaN x = false → before start x

variable {before} {start b : α} {l : List α}

theorem Precedence.irrefl (hp : Precedence before) (x : α) : ¬before x x := fun h => hp.asymm x x h h

namespace Foremost

theorem nil (hp : Precedence before) (hstart : Scalar.isNaN start = false) :
    Foremost before start [] start where
  isNaN := hstart
  not_start := hp.irrefl start
  not_mem := by simp
  left := .inr ⟨rfl, by simp⟩

/-- One more number, between which and the one so far is chosen. -/
theorem snoc [DecidableRel before] (hp : Precedence before) (h : Foremost before start l b) (y : α) :
    Foremost before start (l ++ [y]) (earlier before b y) := by
  have hmem : ∀ {P : α → Prop}, (∀ x ∈ l ++ [y], P x) ↔ (∀ x ∈ l, P x) ∧ P y := by
    simp [or_imp, forall_and]
  unfold earlier
  split_ifs with hy hby
  · -- What is not a number is skipped.
    have hskip : ∀ {p : Prop}, Scalar.isNaN y = false → p := fun hy' => by simp [hy] at hy'
    refine ⟨h.isNaN, h.not_start, hmem.2 ⟨h.not_mem, hskip⟩, ?_⟩
    exact h.left.imp (List.mem_append_left _) fun ⟨hb, hl⟩ => ⟨hb, hmem.2 ⟨hl, hskip⟩⟩
  · refine ⟨h.isNaN, h.not_start, hmem.2 ⟨h.not_mem, fun _ => hp.asymm _ _ hby⟩, ?_⟩
    exact h.left.imp (List.mem_append_left _) fun ⟨hb, hl⟩ => ⟨hb, hmem.2 ⟨hl, fun _ => hb ▸ hby⟩⟩
  · rw [Bool.not_eq_true] at hy
    have hreplaced : ∀ x, ¬before x b → ¬before x y := fun x hx hxy =>
      (hp.splits x y b h.isNaN hxy).elim hx hby
    exact ⟨hy, hreplaced _ h.not_start, hmem.2 ⟨fun x hx hx' => hreplaced x (h.not_mem x hx hx'),
      fun _ => hp.irrefl y⟩, .inl (by simp)⟩

/-- Exactly if the start does not come before all numbers of the list, one of the list is left. -/
theorem mem_iff (h : Foremost before start l b) :
    b ∈ l ↔ ∃ x ∈ l, Scalar.isNaN x = false ∧ ¬before start x := by
  constructor
  · exact fun hb => ⟨b, hb, h.isNaN, h.not_start⟩
  · rintro ⟨x, hx, hnumber, hbefore⟩
    exact h.left.resolve_right fun hl => hbefore (hl.2 x hx hnumber)

/-- If the start comes before all numbers of the list, it is left. -/
theorem eq_start (h : Foremost before start l b)
    (hl : ∀ x ∈ l, Scalar.isNaN x = false → before start x) : b = start :=
  h.left.elim (fun hb => absurd (hl b hb h.isNaN) h.not_start) And.left

end Foremost

theorem foldl_earlier [DecidableRel before] (hp : Precedence before)
    (hstart : Scalar.isNaN start = false) (l : List α) :
    Foremost before start l (l.foldl (earlier before) start) := by
  induction l using List.reverseRecOn with
  | nil => exact .nil hp hstart
  | append_singleton l y ih =>
    rw [List.foldl_append]
    exact ih.snoc hp y

variable [Ordered α]

theorem precedence_lt : Precedence (α := α) (· < ·) where
  asymm _ _ hxy hyx := Ordered.not_le_of_lt hxy (Ordered.le_of_lt hyx)
  splits x y z hz hxy := by
    by_cases hxz : x < z
    · exact .inl hxz
    · have hx := (Ordered.isNaN_of_le x y (Ordered.le_of_lt hxy)).1
      have hzx : z ≤ x := Ordered.le_of_not_lt hx hz hxz
      exact .inr ((Ordered.lt_iff z y).2 ⟨Ordered.le_trans z x y hzx (Ordered.le_of_lt hxy),
        fun hyz => Ordered.not_le_of_lt hxy (Ordered.le_trans y z x hyz hzx)⟩)

theorem precedence_gt : Precedence (α := α) fun x y => y < x where
  asymm x y := precedence_lt.asymm y x
  splits x y z hz hyx := (precedence_lt.splits y x z hz hyx).symm

end Scalar

/-! ### The extent of a list -/

namespace Extent

section

variable {α : Type} [Scalar α]

/-- Each bound is a choice of its own. -/
theorem ofList_eq (l : List α) : ofList l =
    ⟨l.foldl (Scalar.earlier (· < ·)) Scalar.largest,
      l.foldl (Scalar.earlier fun x y => y < x) (-Scalar.largest)⟩ := by
  have hadd : ∀ (e : Extent α) (x : α), e.add x =
      ⟨Scalar.earlier (· < ·) e.least x, Scalar.earlier (fun x y => y < x) e.greatest x⟩ := fun e x => by
    by_cases hx : Scalar.isNaN x = true <;> simp [add, Scalar.earlier, Scalar.least, Scalar.greatest, hx]
  induction l using List.reverseRecOn with
  | nil => rfl
  | append_singleton l x ih =>
    rw [ofList_append, List.foldl_append, List.foldl_append, ih]
    exact hadd _ x

variable [Scalar.Ordered α]

/-- The bounds are out of order exactly if the list has no numbers, where the bounds that it starts from
are out of order. -/
theorem isEmpty_ofList_iff (hlargest : -Scalar.largest < (Scalar.largest : α)) (l : List α) :
    (ofList l).isEmpty = true ↔ ∀ x ∈ l, Scalar.isNaN x = true := by
  obtain ⟨hlow, hhigh⟩ := Scalar.Ordered.isNaN_of_le _ _ (Scalar.Ordered.le_of_lt hlargest)
  have hleast := Scalar.foldl_earlier Scalar.precedence_lt hhigh l
  have hgreatest := Scalar.foldl_earlier Scalar.precedence_gt hlow l
  rw [isEmpty, ofList_eq, decide_eq_true_iff]
  constructor
  · intro hempty x hx
    rw [← Bool.not_eq_false]
    intro hnumber
    -- A number is at least the least bound and at most the greatest.
    have hle := Scalar.Ordered.le_of_not_lt hnumber hleast.isNaN (hleast.not_mem x hx hnumber)
    exact hgreatest.not_mem x hx hnumber (Scalar.Ordered.lt_of_lt_of_le hempty hle)
  · intro hmissing
    rw [hleast.eq_start fun x hx hnumber => by simp [hmissing x hx] at hnumber,
      hgreatest.eq_start fun x hx hnumber => by simp [hmissing x hx] at hnumber]
    exact hlargest

end

theorem neg_largest_lt_largest : -Scalar.largest < (Scalar.largest : Float) := by decide +kernel

/-- The least bound is in the list and below all its numbers if one of these is below the positive infinity,
and else it is what the extent starts from. -/
theorem least_ofList (l : List Float) :
    (((ofList l).least ∈ l ∧ ∀ x ∈ l, Scalar.isNaN x = false → (ofList l).least ≤ x) ↔
      ∃ x ∈ l, x < Doubles.infinity) ∧
    ((¬∃ x ∈ l, x < Doubles.infinity) → (ofList l).least = Scalar.largest) := by
  have hnumber := (Scalar.Ordered.isNaN_of_le _ _ (Scalar.Ordered.le_of_lt neg_largest_lt_largest)).2
  have hleast := Scalar.foldl_earlier Scalar.precedence_lt hnumber l
  have hbelow : ∀ x : Float,
      x < Doubles.infinity ↔ Scalar.isNaN x = false ∧ ¬Scalar.largest < x := fun x => by
    rw [Doubles.lt_infinity_iff, Scalar.Ordered.le_iff_not_lt hnumber]
  simp only [hbelow, ofList_eq]
  constructor
  · rw [← hleast.mem_iff, and_iff_left_iff_imp]
    exact fun _ x hx hx' => Scalar.Ordered.le_of_not_lt hx' hleast.isNaN (hleast.not_mem x hx hx')
  · exact fun hnone => hleast.eq_start fun x hx hx' => by_contra fun hlt => hnone ⟨x, hx, hx', hlt⟩

/-- The greatest bound is in the list and above all its numbers if one of these is above the negative
infinity, and else it is what the extent starts from. -/
theorem greatest_ofList (l : List Float) :
    (((ofList l).greatest ∈ l ∧ ∀ x ∈ l, Scalar.isNaN x = false → x ≤ (ofList l).greatest) ↔
      ∃ x ∈ l, -Doubles.infinity < x) ∧
    ((¬∃ x ∈ l, -Doubles.infinity < x) → (ofList l).greatest = -Scalar.largest) := by
  have hnumber := (Scalar.Ordered.isNaN_of_le _ _ (Scalar.Ordered.le_of_lt neg_largest_lt_largest)).1
  have hgreatest := Scalar.foldl_earlier Scalar.precedence_gt hnumber l
  have habove : ∀ x : Float,
      -Doubles.infinity < x ↔ Scalar.isNaN x = false ∧ ¬x < -Scalar.largest := fun x => by
    rw [Doubles.neg_infinity_lt_iff, Scalar.Ordered.ge_iff_not_lt hnumber]
  simp only [habove, ofList_eq]
  constructor
  · rw [← hgreatest.mem_iff, and_iff_left_iff_imp]
    exact fun _ x hx hx' => Scalar.Ordered.le_of_not_lt hgreatest.isNaN hx' (hgreatest.not_mem x hx hx')
  · exact fun hnone => hgreatest.eq_start fun x hx hx' => by_contra fun hlt => hnone ⟨x, hx, hx', hlt⟩

/-- For every list of doubles, in any order: the extent is empty exactly if none of them is a number. Its
least bound is in the list and below all its numbers exactly if one of these is below the positive infinity,
and else it is the largest finite number. Its greatest bound is in the list and above all its numbers exactly
if one of these is above the negative infinity, and else it is the opposite of the largest finite number. -/
theorem ofList_extremes (l : List Float) :
    ((ofList l).isEmpty = true ↔ ∀ x ∈ l, Scalar.isNaN x = true) ∧
    (((ofList l).least ∈ l ∧ ∀ x ∈ l, Scalar.isNaN x = false → (ofList l).least ≤ x) ↔
      ∃ x ∈ l, x < Doubles.infinity) ∧
    ((¬∃ x ∈ l, x < Doubles.infinity) → (ofList l).least = Scalar.largest) ∧
    (((ofList l).greatest ∈ l ∧ ∀ x ∈ l, Scalar.isNaN x = false → x ≤ (ofList l).greatest) ↔
      ∃ x ∈ l, -Doubles.infinity < x) ∧
    ((¬∃ x ∈ l, -Doubles.infinity < x) → (ofList l).greatest = -Scalar.largest) :=
  ⟨isEmpty_ofList_iff neg_largest_lt_largest l, (least_ofList l).1, (least_ofList l).2, greatest_ofList l⟩

/-- The only number of a list may be the positive infinity. The extent is not empty then, and still its
least bound is below this number. -/
theorem least_ofList_infinity : Scalar.isNaN Doubles.infinity = false ∧
    (ofList [Doubles.infinity]).isEmpty = false ∧
    (ofList [Doubles.infinity]).least < Doubles.infinity := by
  decide +kernel

end Extent

end Gridded
