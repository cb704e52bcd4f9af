import Gridded.Proofs.System.Alignment

/-!
# Which axes make a system

Axes are checked one by one, and the first one that does not fit ends the check. All the same, whether a
system is made depends only on what the axes are, and not on how they are checked. What a selection keeps is
checked again, and passes.

* `CoordinateSystem.Proper`: axes that fit together, said by their names, their roles and their parents;
* `CoordinateSystem.consistent_iff_proper`: the checks ask for nothing else;
* `CoordinateSystem.blames_build`: axes are refused as a wrong argument;
* `CoordinateSystem.OnGrid`: the horizontal grid is that of the axes;
* `CoordinateSystem.Renewable`: what a selection keeps makes a system again;
* `CoordinateSystem.build_iff_proper`: when a system is made, and what holds of it after any selections.
-/

namespace Gridded.CoordinateSystem

variable {α : Type}

/-! ### Proper lists of axes -/

/-- The axes fit together: no name and no role is there twice, times and runs have dates, every axis that
another one follows is there, and so are an X axis and a Y axis. -/
structure Proper (axes : List (SystemAxis α)) : Prop where
  names : (axes.map SystemAxis.name).Nodup
  roles : (axes.filterMap SystemAxis.role?).Nodup
  dated : ∀ a ∈ axes, a.role? = some .time ∨ a.role? = some .runTime → ∃ t, a = .timed t
  parents : ∀ a ∈ axes, ∀ parent ∈ a.axis.parents, parent ∈ axes.map SystemAxis.name
  x : Role.x ∈ axes.filterMap SystemAxis.role?
  y : Role.y ∈ axes.filterMap SystemAxis.role?

/-- Axes differ pairwise exactly if no name and no role is there twice. -/
theorem pairwise_distinct_iff {axes : List (SystemAxis α)} : axes.Pairwise Distinct ↔
    (axes.map SystemAxis.name).Nodup ∧ (axes.filterMap SystemAxis.role?).Nodup := by
  have hdistinct : ∀ {a b : SystemAxis α}, Distinct a b ↔ a.name ≠ b.name ∧
      ∀ role, a.role? = some role → ∀ role', b.role? = some role' → role ≠ role' := by
    refine fun {a b} => and_congr_right fun _ => forall₂_congr fun role _ => ?_
    constructor
    · rintro h role' hb rfl
      exact h hb
    · exact fun h hb => h role hb rfl
  unfold List.Nodup
  rw [List.pairwise_map, List.pairwise_filterMap, ← List.pairwise_and_iff]
  exact ⟨fun h => h.imp hdistinct.1, fun h => h.imp hdistinct.2⟩

theorem isDated_iff {a : SystemAxis α} :
    IsDated a ↔ (a.role? = some .time ∨ a.role? = some .runTime → ∃ t, a = .timed t) := by
  refine imp_congr_right fun _ => ?_
  cases a with
  | plain a => simp [SystemAxis.timed?]
  | timed t => simp [SystemAxis.timed?]

/-- A role is filled exactly if some axis has it. -/
theorem exists_filling_iff {axes : List (SystemAxis α)} {role : Role} :
    (∃ a, filling axes role = some a) ↔ role ∈ axes.filterMap SystemAxis.role? := by
  rw [List.mem_filterMap]
  constructor
  · rintro ⟨a, ha⟩
    exact ⟨a, role_of_filling ha⟩
  · rintro ⟨a, ha, hrole⟩
    rcases hfilling : filling axes role with _ | b
    · exact absurd hrole (filling_eq_none.1 hfilling a ha)
    · exact ⟨b, rfl⟩

/-- The checks ask for nothing else. -/
theorem consistent_iff_proper {axes : List (SystemAxis α)} : Consistent axes ↔ Proper axes := by
  constructor
  · intro h
    obtain ⟨hnames, hroles⟩ := pairwise_distinct_iff.1 h.distinct
    refine ⟨hnames, hroles, fun a ha => isDated_iff.1 (h.dated a ha), fun a ha parent hparent => ?_,
      exists_filling_iff.1 h.x, exists_filling_iff.1 h.y⟩
    exact List.mem_map.2 (h.parents a ha parent hparent)
  · intro h
    refine ⟨pairwise_distinct_iff.2 ⟨h.names, h.roles⟩, fun a ha => isDated_iff.2 (h.dated a ha),
      fun a ha parent hparent => ?_, exists_filling_iff.2 h.x, exists_filling_iff.2 h.y⟩
    exact List.mem_map.1 (h.parents a ha parent hparent)

/-! ### Refusals -/

/-- A computation that fails with nothing but wrong arguments. -/
def Blames {β : Type} (x : Except Error β) : Prop :=
  ∀ e, x = .error e → ∃ fault, e = .invalidArgument fault

theorem blames_ok {β : Type} (b : β) : Blames (.ok b : Except Error β) := by
  rintro e ⟨⟩

theorem blames_error {β : Type} (fault : ArgumentFault) :
    Blames (.error (.invalidArgument fault) : Except Error β) := by
  rintro e ⟨⟩
  exact ⟨fault, rfl⟩

theorem Blames.bind {β γ : Type} {x : Except Error β} {f : β → Except Error γ} (hx : Blames x)
    (hf : ∀ b, Blames (f b)) : Blames (x >>= f) := by
  intro e h
  rcases bind_eq_error.1 h with h | ⟨b, -, h⟩
  · exact hx e h
  · exact hf b e h

theorem blames_checkNext (before : List (SystemAxis α)) (a : SystemAxis α) :
    Blames (checkNext before a) := by
  unfold checkNext
  split
  · exact blames_error _
  · split
    · exact blames_ok _
    · split
      · exact blames_error _
      · split
        · exact blames_error _
        · exact blames_ok _

theorem blames_checkEach (before axes : List (SystemAxis α)) : Blames (checkEach before axes) := by
  induction axes generalizing before with
  | nil => exact blames_ok _
  | cons a axes ih => exact (blames_checkNext before a).bind fun _ => ih (before ++ [a])

theorem blames_forM {β : Type} {f : β → Except Error Unit} {l : List β} (h : ∀ b, Blames (f b)) :
    Blames (l.forM f) := by
  induction l with
  | nil => exact blames_ok _
  | cons b l ih => exact (h b).bind fun _ => ih

theorem blames_checkParents (axes : List (SystemAxis α)) : Blames (checkParents axes) := by
  refine blames_forM fun a => ?_
  split
  · exact blames_error _
  · exact blames_ok _

theorem blames_required (axes : List (SystemAxis α)) (role : Role) : Blames (required axes role) := by
  unfold required
  split
  · exact blames_ok _
  · exact blames_error _

theorem blames_checkRole (axis : Axis α) (role : Role) : Blames (HorizontalGrid.checkRole axis role) := by
  unfold HorizontalGrid.checkRole
  split
  · exact blames_ok _
  · exact blames_error _

/-- Axes are refused as a wrong argument. -/
theorem blames_build (name : Option String) (axes : List (SystemAxis α))
    (transform : Option (VerticalTransform α)) : Blames (build name axes transform) := by
  refine (blames_checkEach [] axes).bind fun _ => (blames_checkParents axes).bind fun _ => ?_
  refine (blames_required axes .x).bind fun x => (blames_required axes .y).bind fun y => ?_
  refine Blames.bind ?_ fun grid => blames_ok _
  exact (blames_checkRole x .x).bind fun _ => (blames_checkRole y .y).bind fun _ => blames_ok _

/-! ### Systems on their own grid -/

/-- The horizontal grid consists of the axes that run along it. -/
def OnGrid (sys : CoordinateSystem α) : Prop :=
  ∀ a ∈ sys.axes, (a.role? = some .x → sys.horizontal.x = a.axis) ∧
    (a.role? = some .y → sys.horizontal.y = a.axis)

theorem Built.onGrid {sys : CoordinateSystem α} (h : sys.Built) : sys.OnGrid := by
  obtain ⟨name, axes, transform, h⟩ := h
  obtain ⟨hconsistent, x, y, hx, hy, rfl⟩ := build_eq_ok.1 h
  intro a ha
  constructor
  · intro hrole
    have hfilling := (filling_eq_some hconsistent.distinct).2 ⟨ha, hrole⟩
    exact congrArg SystemAxis.axis (Option.some.inj (hx.symm.trans hfilling))
  · intro hrole
    have hfilling := (filling_eq_some hconsistent.distinct).2 ⟨ha, hrole⟩
    exact congrArg SystemAxis.axis (Option.some.inj (hy.symm.trans hfilling))

variable [Scalar α] {sys sys' : CoordinateSystem α} {s : Selection α}

/-- What a selection gives is made from axes, as every system is. -/
theorem built_of_select (h : sys.select s = .ok sys') : sys'.Built := by
  obtain ⟨choices, -, h⟩ := bind_eq_ok.1 h
  obtain ⟨axes, -, h⟩ := bind_eq_ok.1 h
  obtain ⟨transform, -, h⟩ := bind_eq_ok.1 h
  exact ⟨_, _, _, h⟩

theorem Built.of_foldlM {selections : List (Selection α)} (hsys : sys.Built)
    (h : selections.foldlM select sys = .ok sys') : sys'.Built :=
  foldlM_eq_ok_induction (fun _ _ _ _ _ hselect => built_of_select hselect) hsys h

/-- Whatever a selection keeps of the axes makes a system again. -/
def Renewable (sys : CoordinateSystem α) : Prop :=
  ∀ (s : Selection α) (choices : List (Choice α)) (kept : List (SystemAxis α)),
    sys.axes.mapM (choose s) = .ok choices → choices.mapM (settle choices) = .ok kept →
      ∀ name transform, ∃ sys', build name kept transform = .ok sys'

theorem Built.renewable (h : sys.Built) : sys.Renewable := by
  intro s choices kept hchoices hkept name transform
  rw [← mapM_restriction_eq hchoices, mapM_eq_ok] at hkept
  have hconsistent : Consistent kept :=
    h.consistent.of_kept (hkept.imp fun _ _ hb => ⟨_, SystemAxis.kept_of_take? hb⟩)
  exact hconsistent.exists_build name transform

/-- **Systems are made from proper axes and from no others.** Other axes are refused as a wrong argument. A
system has the axes that it was made from, and however often it is selected from, its axes are proper, its
horizontal grid is that of its axes, and what a further selection keeps of them is not refused. -/
theorem build_iff_proper (name : Option String) (axes : List (SystemAxis α))
    (transform : Option (VerticalTransform α)) :
    ((∃ sys, build name axes transform = .ok sys) ↔ Proper axes) ∧
    (∀ e, build name axes transform = .error e → ∃ fault, e = .invalidArgument fault) ∧
    ∀ sys, build name axes transform = .ok sys → sys.axes = axes ∧
      ∀ (selections : List (Selection α)) (sys' : CoordinateSystem α),
        selections.foldlM select sys = .ok sys' → Proper sys'.axes ∧ sys'.OnGrid ∧ sys'.Renewable := by
  refine ⟨?_, blames_build name axes transform, fun sys hbuild => ⟨?_, fun selections sys' hrun => ?_⟩⟩
  · rw [← consistent_iff_proper]
    constructor
    · rintro ⟨sys, hbuild⟩
      exact (build_eq_ok.1 hbuild).1
    · exact fun hconsistent => hconsistent.exists_build name transform
  · obtain ⟨-, x, y, -, -, rfl⟩ := build_eq_ok.1 hbuild
    rfl
  · have hbuilt : sys'.Built := Built.of_foldlM ⟨_, _, _, hbuild⟩ hrun
    exact ⟨consistent_iff_proper.1 hbuilt.consistent, hbuilt.onGrid, hbuilt.renewable⟩

/-- Levels that depend on time are a proper part of a column, and so they are after the latest time and the
first column are selected. -/
theorem build_iff_proper_column : ∃ sys sys', column .dependent = .ok sys ∧ Proper sys.axes ∧
    [{ latestTime := true }, { horizontal := some ⟨.single 0, .single 0⟩ }].foldlM select sys =
      .ok sys' ∧ Proper sys'.axes ∧ sys'.OnGrid := by
  have hproper : ∀ sys sys', column .dependent = .ok sys →
      [{ latestTime := true }, { horizontal := some ⟨.single 0, .single 0⟩ }].foldlM select sys =
        .ok sys' → Proper sys.axes ∧ Proper sys'.axes ∧ sys'.OnGrid := by
    intro sys sys' hsys hrun
    obtain ⟨name, axes, transform, hbuild⟩ := built_of_column hsys
    obtain ⟨hiff, -, hsystem⟩ := build_iff_proper name axes transform
    obtain ⟨haxes, hall⟩ := hsystem sys hbuild
    obtain ⟨hproper', hgrid, -⟩ := hall _ sys' hrun
    exact ⟨haxes ▸ hiff.1 ⟨sys, hbuild⟩, hproper', hgrid⟩
  obtain ⟨h, h', hgrid⟩ := hproper _ _ rfl rfl
  exact ⟨_, _, rfl, h, rfl, h', hgrid⟩

end Gridded.CoordinateSystem
