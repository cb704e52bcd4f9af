import Gridded.Proofs.Axis.Accessing
import Gridded.Proofs.System.Selecting

/-!
# Where axes come from

Axes are made from settings given in any order, remade from other axes with further settings, and cut by
slices and selections, by themselves or as part of a grid or a system. Every axis that arises in this way
is intact and holds every value that its coordinates are computed from.

* `Axis.Setting`: one thing said about an axis that is to be made, with `Axis.Draft.setAll` for a sequence;
* `Axis.Produced`: the axes that arise; `Axis.Produced.built`, `Axis.intact_of_produced`.
-/

namespace Gridded.Axis

variable {α : Type}

/-! ### Settings -/

/-- One thing said about an axis that is to be made. -/
inductive Setting (α : Type)
  | name (name : String)
  | description (text : String)
  | units (text : String)
  | kind (kind : AxisKind)
  | attributes (attributes : Attributes α)
  | spacing (spacing : Spacing)
  | dependence (dependence : Dependence)
  | parents (names : List String)
  | resolution (resolution : α)
  | size (size : Nat)
  | values (values : List α)
  | regular (size : Nat) (start stop step : α)
  | range (range : Slice)

variable [Scalar α]

namespace Draft

/-- The draft with one more setting, which goes before an earlier one of the same thing. -/
def set (d : Draft α) : Setting α → Draft α
  | .name name => { d with name := name }
  | .description text => { d with description := some text }
  | .units text => { d with units := some text }
  | .kind kind => { d with kind := some kind }
  | .attributes attributes => { d with attributes := attributes }
  | .spacing spacing => { d with spacing := some spacing }
  | .dependence dependence => { d with dependence := dependence }
  | .parents names => { d with parents := names }
  | .resolution resolution => { d with resolution := resolution }
  | .size size => { d with size := size }
  | .values values => { d with values := some values }
  | .regular size start stop step => d.regular size start stop step
  | .range range => { d with range := some range }

/-- The draft with settings given one after the other. -/
def setAll (d : Draft α) (settings : List (Setting α)) : Draft α := settings.foldl set d

end Draft

/-! ### Histories -/

/-- The axes that arise from settings, slices and selections. -/
inductive Produced : Axis α → Prop
  | make (settings : List (Setting α)) {a : Axis α} :
      (Draft.blank.setAll settings).build = .ok a → Produced a
  | remake (settings : List (Setting α)) {a b : Axis α} :
      Produced a → (a.toDraft.setAll settings).build = .ok b → Produced b
  | take {a b : Axis α} (s : Slice) : Produced a → a.take s = .ok b → Produced b
  | select {a b : Axis α} (s : Selection α) : Produced a → a.select s = .ok b → Produced b
  | takeClosest {a b : Axis α} (x : α) : Produced a → a.takeClosest x = .ok b → Produced b
  | takeClosestCell {a b : Axis α} (c : Interval α) :
      Produced a → a.takeClosestCell c = .ok b → Produced b
  | follow {a b : Axis α} (parent : Axis α) : Produced a → a.follow parent = .ok b → Produced b
  | takeTimed {t u : TimeAxis α} (s : Slice) : Produced t.axis → t.take s = .ok u → Produced u.axis
  | selectTimed {t u : TimeAxis α} (s : Selection α) :
      Produced t.axis → t.select s = .ok u → Produced u.axis
  | takeClosestTimed {t u : TimeAxis α} (date : Instant) :
      Produced t.axis → t.takeClosest date = .ok u → Produced u.axis
  | followTimed {t u : TimeAxis α} (parent : Axis α) :
      Produced t.axis → t.follow parent = .ok u → Produced u.axis
  | columnsOfGrid {g g' : HorizontalGrid α} (rows columns : Slice) :
      Produced g.x → g.take rows columns = .ok g' → Produced g'.x
  | rowsOfGrid {g g' : HorizontalGrid α} (rows columns : Slice) :
      Produced g.y → g.take rows columns = .ok g' → Produced g'.y
  | selectSystem {sys sys' : CoordinateSystem α} (s : Selection α) {a : SystemAxis α} :
      sys.Built → (∀ b ∈ sys.axes, Produced b.axis) → sys.select s = .ok sys' → a ∈ sys'.axes →
        Produced a.axis

section Steps

variable {a b : Axis α}

theorem built_of_take {s : Slice} (h : a.take s = .ok b) : b.Built := (taken_of_take h).built

theorem built_of_take? {r : Option Slice} (ha : a.Built) (h : a.take? r = .ok b) : b.Built := by
  cases r with
  | none =>
    cases h
    exact ha
  | some s => exact built_of_take h

theorem built_of_select {s : Selection α} (ha : a.Built) (h : a.select s = .ok b) : b.Built := by
  obtain ⟨r, -, h⟩ := bind_eq_ok.1 h
  exact built_of_take? ha h

theorem built_of_takeClosest {x : α} (h : a.takeClosest x = .ok b) : b.Built := by
  obtain ⟨i, -, h⟩ := bind_eq_ok.1 h
  exact built_of_take h

theorem built_of_follow {parent : Axis α} (ha : a.Built) (h : a.follow parent = .ok b) : b.Built := by
  unfold follow at h
  split_ifs at h
  · exact built_of_take h
  · cases h
    exact ha

omit [Scalar α] in
/-- A time axis changes as its axis does. -/
theorem axis_of_onAxis {t u : TimeAxis α} {x : Except Error (Axis α)} (h : t.onAxis x = .ok u) :
    x = .ok u.axis := by
  obtain ⟨b, hb, rfl⟩ := map_eq_ok.1 h
  exact hb

end Steps

/-- Each axis of a history is one that some draft makes. -/
theorem Produced.built {a : Axis α} (h : Produced a) : a.Built := by
  induction h with
  | make settings h => exact ⟨_, h⟩
  | remake settings _ h _ => exact ⟨_, h⟩
  | take s _ h _ => exact built_of_take h
  | select s _ h ih => exact built_of_select ih h
  | takeClosest x _ h _ => exact built_of_takeClosest h
  | takeClosestCell c _ h _ =>
    obtain ⟨i, -, h⟩ := bind_eq_ok.1 h
    exact built_of_take h
  | follow parent _ h ih => exact built_of_follow ih h
  | takeTimed s _ h _ => exact built_of_take (axis_of_onAxis h)
  | selectTimed s _ h ih =>
    obtain ⟨r, -, h⟩ := bind_eq_ok.1 h
    exact built_of_take? ih (axis_of_onAxis h)
  | takeClosestTimed date _ h _ => exact built_of_takeClosest (axis_of_onAxis h)
  | followTimed parent _ h ih => exact built_of_follow ih (axis_of_onAxis h)
  | columnsOfGrid rows columns _ h _ =>
    obtain ⟨x, hx, h⟩ := bind_eq_ok.1 h
    obtain ⟨y, -, h⟩ := bind_eq_ok.1 h
    cases h
    exact built_of_take hx
  | rowsOfGrid rows columns _ h _ =>
    obtain ⟨x, -, h⟩ := bind_eq_ok.1 h
    obtain ⟨y, hy, h⟩ := bind_eq_ok.1 h
    cases h
    exact built_of_take hy
  | selectSystem s hsys _ h ha ih =>
    have hselected := CoordinateSystem.selected_of_select hsys.consistent h
    obtain ⟨b, hb, hkept⟩ := mem_forall₂ hselected.takes.flip ha
    exact (SystemAxis.kept_of_take? hkept).built (ih b hb)

/-- **Every axis is intact and bounded.** Whatever settings were given in whatever order, and however the
axis was remade and cut since, its fields fit together, and it has every value that its coordinates are
computed from. -/
theorem intact_of_produced {a : Axis α} (h : Produced a) : a.Intact ∧ a.Bounded :=
  ⟨h.built.intact, h.built.wellFormed.bounded⟩

/-- Three heights, said to be regular at first. -/
def unevenHeights : List (Setting ℚ) :=
  [.regular 4 0 3 1, .values [10, 11, 13], .size 0, .spacing .irregularPoint, .name "height",
    .kind .height]

/-- The heights are remade as cells that touch, of which every other one is taken. -/
theorem intact_of_produced_unevenHeights :
    ∃ a b c : Axis ℚ, (Draft.blank.setAll unevenHeights).build = .ok a ∧
      (a.toDraft.setAll [.values [10, 11, 13, 16], .spacing .contiguousInterval]).build = .ok b ∧
      b.take ⟨none, 0, 2, 2⟩ = .ok c ∧ c.spacing = .discontiguousInterval ∧ c.start = 10 ∧
      c.stop = 16 ∧ c.Intact ∧ c.Bounded := by
  have hproduced : ∀ a b c : Axis ℚ, (Draft.blank.setAll unevenHeights).build = .ok a →
      (a.toDraft.setAll [.values [10, 11, 13, 16], .spacing .contiguousInterval]).build = .ok b →
      b.take ⟨none, 0, 2, 2⟩ = .ok c → Produced c :=
    fun a b c ha hb hc => .take _ (.remake _ (.make _ ha) hb) hc
  obtain ⟨hintact, hbounded⟩ := intact_of_produced (hproduced _ _ _ rfl rfl rfl)
  exact ⟨_, _, _, rfl, rfl, rfl, rfl, rfl, rfl, hintact, hbounded⟩

end Gridded.Axis
