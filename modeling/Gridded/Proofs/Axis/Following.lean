import Gridded.Proofs.Axis.Taking

/-!
# Following a chain of slices

A dependent axis follows a slice of the axis that it depends on by the indices which that slice
remembers. They are indices on the first axis. So the first step is right, and a second step, from the
slice followed to a slice of this slice, looks up the right indices on the wrong axis.

* `Axis.follow_eq_ok`: when and what `follow` takes;
* `Axis.exists_follow`, `Axis.exists_follow_iff`, `Axis.coordinateAt_of_follow`: both steps, as long as the
  strides fit;
* `Axis.KeepsUp`: a followed axis that has the coordinates at the indices of the slice;
* `Axis.keepsUp_iff`: exactly when the second step keeps up.
-/

namespace Gridded.Axis

open Outcome

section Structure

variable {α : Type} [Scalar α] {a p b : Axis α}

theorem follow_eq_ok (hsub : p.isSubset = true) :
    a.follow p = .ok b ↔ p.name ∈ a.parents ∧ a.take p.range = .ok b := by
  unfold follow
  split_ifs with h
  · simp only [List.contains_iff_mem] at h
    simp [h]
  · simp only [List.contains_iff_mem] at h
    simp [h]

/-- What follows the slice `p₂` has the coordinates of `d` at the indices that `p₂` remembers, where
`d₁` is what is left of `d`. -/
def KeepsUp (d d₁ p₂ : Axis α) : Prop :=
  ∃ d₂, d₁.followWord p₂ = pure d₂ ∧ d₂.size = p₂.size ∧
    ∀ k < p₂.size, d₂.coordinateAt k = d.coordinateAt (p₂.range.index k)

theorem Taken.name_eq {s : Slice} (h : Taken a b s) : b.name = a.name := congrArg Label.name h.label

theorem Taken.parents_eq {s : Slice} (h : Taken a b s) : b.parents = a.parents :=
  congrArg Label.parents h.label

theorem Taken.dependence_eq {s : Slice} (h : Taken a b s) : b.dependence = a.dependence :=
  congrArg Label.dependence h.label

/-- A slice of an axis with all indices remembers the indices of the slice. -/
theorem Taken.index_range {s : Slice} (h : Taken a b s) (hr : a.range.IsIdentity) {i : Nat}
    (hi : i < s.len) : b.range.index i = s.index i := by
  rw [h.range.index i hi, hr.index]

/-- The stride that a slice of an axis remembers. -/
theorem stride_of_take {s : Slice} (h : a.take s = .ok b) :
    b.range.stride = a.range.stride * s.stride := by
  obtain ⟨last, range, hl, -, hrange, hmakes⟩ := take_eq_ok.1 h
  obtain ⟨hpos, -⟩ := Slice.last_eq_some.1 hl
  obtain ⟨-, rfl⟩ := (Slice.compose_eq_ok hpos).1 hrange
  obtain ⟨-, hb⟩ := Draft.rangeFor_eq_ok.1 hmakes.range
  rw [hb, stride_rangeNamed]
  rfl

/-! ### Two steps -/

variable {p₁ p₂ d d₁ : Axis α} {r s : Slice}

/-- The first step: a slice of the independent axis can be followed. -/
theorem exists_follow (hprecise : d.Precise) (hd : d.WellFormed) (hr : p.range.IsIdentity)
    (hparent : p.name ∈ d.parents) (hsize : d.size = p.size) (hs₁ : 0 < r.stride)
    (h₁ : p.take r = .ok p₁) :
    ∃ d₁, d.follow p₁ = .ok d₁ := by
  have ht := taken_of_take h₁
  have hlen : p₁.range.len = r.len := ht.range.len
  have hbelow : p₁.range.Below d.size := by
    intro i hi
    rw [hlen] at hi
    rw [ht.index_range hr hi, hsize]
    exact ht.below i hi
  obtain ⟨d₁, hd₁⟩ : ∃ d₁, d.take p₁.range = .ok d₁ := by
    refine exists_take hprecise hd (hlen ▸ ht.len_pos) hbelow fun h => ?_
    rw [hlen]
    exact hd.len_of_scalar hs₁ ht.len_pos (hsize ▸ ht.below) h
  exact ⟨d₁, (follow_eq_ok ht.isSubset).2 ⟨ht.name_eq ▸ hparent, hd₁⟩⟩

/-- The second step succeeds as long as the indices on the first axis exist on the followed slice. -/
theorem exists_follow_iff (hprecise : d.Precise) (hd : d.WellFormed) (hparent : p.name ∈ d.parents)
    (hsize : d.size = p.size) (hs₁ : 0 < r.stride) (hs₂ : 0 < s.stride)
    (h₁ : p.take r = .ok p₁) (h₂ : p₁.take s = .ok p₂) (hd₁ : d.follow p₁ = .ok d₁) :
    (∃ d₂, d₁.follow p₂ = .ok d₂) ↔ p₂.range.Below p₁.size := by
  have ht₁ := taken_of_take h₁
  have ht₂ := taken_of_take h₂
  have htaked := ((follow_eq_ok ht₁.isSubset).1 hd₁).2
  have htd := taken_of_take htaked
  have hsize₁ : d₁.size = p₁.size := by rw [htd.size, ht₁.range.len, ht₁.size]
  constructor
  · rintro ⟨d₂, hd₂⟩
    have hbelow := (taken_of_take ((follow_eq_ok ht₂.isSubset).1 hd₂).2).below
    rwa [hsize₁] at hbelow
  · intro hbelow
    have hname : p₂.name ∈ d₁.parents := by
      rwa [htd.parents_eq, ht₂.name_eq, ht₁.name_eq]
    obtain ⟨d₂, hd₂⟩ : ∃ d₂, d₁.take p₂.range = .ok d₂ := by
      refine exists_take (hprecise.take htaked) htd.built.wellFormed ?_ (hsize₁ ▸ hbelow) fun h => ?_
      · rw [ht₂.range.len]
        exact ht₂.len_pos
      · -- All sizes are one along a scalar axis.
        have hone : r.len = 1 := hd.len_of_scalar hs₁ ht₁.len_pos (hsize ▸ ht₁.below)
          (htd.dependence_eq ▸ h)
        rw [ht₂.range.len]
        refine Slice.len_eq_one hs₂ ht₂.len_pos ?_
        rw [← hone, ← ht₁.size]
        exact ht₂.below
    exact ⟨d₂, (follow_eq_ok ht₂.isSubset).2 ⟨hname, hd₂⟩⟩

/-- The second step looks up indices of the first axis on the followed slice. -/
theorem coordinateAt_of_follow {d₂ : Axis α} (hprecise : d.Precise) (hr : p.range.IsIdentity)
    (h₁ : p.take r = .ok p₁) (h₂ : p₁.take s = .ok p₂) (hd₁ : d.follow p₁ = .ok d₁)
    (hd₂ : d₁.follow p₂ = .ok d₂) :
    d₂.size = p₂.size ∧ ∀ k < p₂.size,
      d₂.coordinateAt k = d.coordinateAt (r.index (p₂.range.index k)) := by
  have ht₁ := taken_of_take h₁
  have ht₂ := taken_of_take h₂
  have htaked := ((follow_eq_ok ht₁.isSubset).1 hd₁).2
  have hs₁ := samples_of_take hprecise htaked
  have hs₂ := samples_of_take (hprecise.take htaked) ((follow_eq_ok ht₂.isSubset).1 hd₂).2
  have hlen : p₂.range.len = p₂.size := by rw [ht₂.range.len, ht₂.size]
  refine ⟨hs₂.size.trans hlen, fun k hk => ?_⟩
  have hk' : k < p₂.range.len := hlen ▸ hk
  have hlt : p₂.range.index k < p₁.range.len := hs₁.size ▸ hs₂.below k hk'
  rw [hs₂.coordinateAt hk', hs₁.coordinateAt hlt, ht₁.index_range hr (ht₁.range.len ▸ hlt)]

/-- The stride that is composed in the second step, as a product of those that are given. -/
theorem strideFits_of_follow (hr : p.range.IsIdentity) (h₁ : p.take r = .ok p₁) (h₂ : p₁.take s = .ok p₂)
    (hd₁ : d.follow p₁ = .ok d₁) : d₁.range.StrideFits p₂.range ↔
      d.range.stride * r.stride * (r.stride * s.stride) < UInt64.size := by
  have ht₁ := taken_of_take h₁
  have ht₂ := taken_of_take h₂
  have hstride₁ : p₁.range.stride = r.stride := by rw [stride_of_take h₁, hr.2, Nat.one_mul]
  have hstride₂ : p₂.range.stride = r.stride * s.stride := by rw [stride_of_take h₂, hstride₁]
  have hstride : d₁.range.stride = d.range.stride * r.stride := by
    rw [stride_of_take ((follow_eq_ok ht₁.isSubset).1 hd₁).2, hstride₁]
  have hpos : 0 < p₂.range.len := ht₂.range.len ▸ ht₂.len_pos
  rw [Slice.StrideFits, hstride, hstride₂]
  exact ⟨fun h => h hpos, fun h _ => h⟩

/-- The second step keeps up exactly if it looks up right coordinates, though on the wrong axis, and can be
taken at all. -/
theorem keepsUp_iff_of_follow (hprecise : d.Precise) (hd : d.WellFormed) (hr : p.range.IsIdentity)
    (hparent : p.name ∈ d.parents) (hsize : d.size = p.size) (hs₁ : 0 < r.stride) (hs₂ : 0 < s.stride)
    (h₁ : p.take r = .ok p₁) (h₂ : p₁.take s = .ok p₂) (hd₁ : d.follow p₁ = .ok d₁) :
    d.KeepsUp d₁ p₂ ↔
      (∀ k < p₂.size, p₂.range.index k < p₁.size ∧
        d.coordinateAt (r.index (p₂.range.index k)) = d.coordinateAt (p₂.range.index k)) ∧
      d.range.stride * r.stride * (r.stride * s.stride) < UInt64.size := by
  have ht₂ := taken_of_take h₂
  have hlen : p₂.range.len = p₂.size := by rw [ht₂.range.len, ht₂.size]
  have hexists := exists_follow_iff hprecise hd hparent hsize hs₁ hs₂ h₁ h₂ hd₁
  have hfits := strideFits_of_follow hr h₁ h₂ hd₁
  constructor
  · rintro ⟨d₂, hd₂, -, hcoord⟩
    obtain ⟨hd₂, hstrides⟩ := (followWord_eq_pure ht₂.isSubset).1 hd₂
    refine ⟨fun k hk => ⟨hexists.1 ⟨d₂, hd₂⟩ k (hlen ▸ hk), ?_⟩, hfits.1 hstrides⟩
    rw [← hcoord k hk, (coordinateAt_of_follow hprecise hr h₁ h₂ hd₁ hd₂).2 k hk]
  · rintro ⟨h, hstrides⟩
    obtain ⟨d₂, hd₂⟩ := hexists.2 fun k hk => (h k (hlen ▸ hk)).1
    obtain ⟨hsize₂, hcoord⟩ := coordinateAt_of_follow hprecise hr h₁ h₂ hd₁ hd₂
    exact ⟨d₂, (followWord_eq_pure ht₂.isSubset).2 ⟨hd₂, hfits.2 hstrides⟩, hsize₂,
      fun k hk => by rw [hcoord k hk, (h k hk).2]⟩

/-- **When a dependent axis keeps up.** A slice of the independent axis can always be followed, as long as
the product of the strides fits into a word. The slice of this slice finds the right coordinates exactly if
every index that it remembers exists on the followed slice and has the same coordinate there, and if all
strides together fit; so of different coordinates, exactly if the first slice leaves the indices of the
second where they are, and the strides fit. -/
theorem keepsUp_iff (hprecise : d.Precise) (hd : d.Built) (hr : p.range.IsIdentity)
    (hparent : p.name ∈ d.parents) (hsize : d.size = p.size) (hs₁ : 0 < r.stride) (hs₂ : 0 < s.stride)
    (h₁ : p.takeWord r = pure p₁) (h₂ : p₁.takeWord s = pure p₂) :
    ((∃ d₁, d.followWord p₁ = pure d₁) ↔ d.range.stride * r.stride < UInt64.size) ∧
    ∀ d₁, d.followWord p₁ = pure d₁ →
      (d.KeepsUp d₁ p₂ ↔
        (∀ k < p₂.size, p₂.range.index k < p₁.size ∧
          d.coordinateAt (r.index (p₂.range.index k)) = d.coordinateAt (p₂.range.index k)) ∧
        d.range.stride * r.stride * (r.stride * s.stride) < UInt64.size) ∧
      ((∀ i < d.size, ∀ j < d.size, d.coordinateAt i = d.coordinateAt j → i = j) →
        (d.KeepsUp d₁ p₂ ↔ (r.first = 0 ∧ (r.stride = 1 ∨ s.last = some 0)) ∧
          d.range.stride * r.stride * (r.stride * s.stride) < UInt64.size)) := by
  obtain ⟨h₁, -⟩ := takeWord_eq_pure.1 h₁
  obtain ⟨h₂, -⟩ := takeWord_eq_pure.1 h₂
  have ht₁ := taken_of_take h₁
  have ht₂ := taken_of_take h₂
  constructor
  · have hfits : d.range.StrideFits p₁.range ↔ d.range.stride * r.stride < UInt64.size := by
      rw [Slice.StrideFits, stride_of_take h₁, hr.2, Nat.one_mul, ht₁.range.len]
      exact ⟨fun h => h ht₁.len_pos, fun h _ => h⟩
    simp only [followWord_eq_pure ht₁.isSubset, exists_and_right, hfits]
    exact and_iff_right (exists_follow hprecise hd.wellFormed hr hparent hsize hs₁ h₁)
  intro d₁ hd₁
  obtain ⟨hd₁, -⟩ := (followWord_eq_pure ht₁.isSubset).1 hd₁
  have hiff := keepsUp_iff_of_follow hprecise hd.wellFormed hr hparent hsize hs₁ hs₂ h₁ h₂ hd₁
  refine ⟨hiff, fun hinj => ?_⟩
  -- The index that `p₂` remembers is that of `s` on `p₁`, moved to the first axis by `r`.
  have hindex : ∀ k < s.len, p₂.range.index k = r.index (s.index k) := fun k hk => by
    rw [ht₂.range.index k hk, ht₁.index_range hr (ht₁.size ▸ ht₂.below k hk)]
  have hfirst : ∀ i < p₁.size, r.index i < d.size := fun i hi => by
    rw [hsize]
    exact ht₁.below i (ht₁.size ▸ hi)
  rw [hiff, ← Slice.index_eq_self_iff hs₁ ht₂.len_pos, ht₂.size]
  refine and_congr_left fun _ => ?_
  constructor
  · intro h k hk
    obtain ⟨hlt, hcoord⟩ := h k hk
    rw [hindex k hk] at hlt hcoord
    have hsame := hinj _ (hfirst _ hlt) _ (hfirst _ (ht₂.below k hk)) hcoord
    exact (Slice.index_inj hs₁).1 hsame
  · intro h k hk
    rw [hindex k hk, h k hk, h k hk]
    exact ⟨ht₂.below k hk, rfl⟩

end Structure

/-- Four time offsets. -/
def fourOffsets : Draft ℚ :=
  { Draft.blank with
    name := "offset"
    kind := some .timeOffset
    spacing := some .irregularPoint
    values := some [0, 6, 12, 18] }

/-- The times at the four offsets. -/
def fourTimes : Draft ℚ :=
  { Draft.blank with
    name := "valid"
    spacing := some .irregularPoint
    dependence := .dependent
    parents := ["offset"]
    values := some [100, 106, 112, 118] }

/-- The times keep up as long as nothing is left out at the front. -/
theorem keepsUp_fourTimes :
    ∃ p p₁ p₂ d d₁ : Axis ℚ, fourOffsets.build = .ok p ∧ fourTimes.build = .ok d ∧
      p.takeWord ⟨none, 0, 3, 1⟩ = pure p₁ ∧ p₁.takeWord ⟨none, 1, 2, 1⟩ = pure p₂ ∧
      d.followWord p₁ = pure d₁ ∧ d.KeepsUp d₁ p₂ := by
  have hp : fourOffsets.build = .ok _ := rfl
  have hd : fourTimes.build = .ok _ := rfl
  have hr := (Draft.build_eq_ok.1 hp).isIdentity_range rfl
  obtain ⟨hfirst, hsecond⟩ := keepsUp_iff (r := ⟨none, 0, 3, 1⟩) (s := ⟨none, 1, 2, 1⟩) (precise_rat _)
    ⟨fourTimes, hd⟩ hr (List.mem_singleton.2 rfl) rfl Nat.one_pos Nat.one_pos rfl rfl
  obtain ⟨d₁, hd₁⟩ := hfirst.2 (by decide)
  refine ⟨_, _, _, _, d₁, hp, hd, rfl, rfl, hd₁, (hsecond d₁ hd₁).1.2 ⟨fun k hk => ⟨?_, ?_⟩, by decide⟩⟩
  · change k < 2 at hk
    show 0 + 1 * 1 + k * (1 * 1) < 3
    omega
  · rw [Slice.IsIdentity.index ⟨rfl, rfl⟩]

/-- The second step fails as soon as the first one has left out the first offset: index 3 of the first
axis is beyond the three times that are left. -/
theorem not_keepsUp_fourTimes :
    ∃ p p₁ p₂ d d₁ : Axis ℚ, fourOffsets.build = .ok p ∧ fourTimes.build = .ok d ∧
      p.takeWord ⟨none, 1, 3, 1⟩ = pure p₁ ∧ p₁.takeWord ⟨none, 1, 2, 1⟩ = pure p₂ ∧
      d.followWord p₁ = pure d₁ ∧
      d₁.followWord p₂ = throw (.invalidRange (.beyondDimension p₂.range 3)) ∧
      ¬ d.KeepsUp d₁ p₂ := by
  have hfollow : ∀ {a b p : Axis ℚ}, p.isSubset = true → p.name ∈ a.parents →
      a.takeWord p.range = pure b → a.followWord p = pure b := fun hsub hname htake => by
    obtain ⟨htake, hfits⟩ := takeWord_eq_pure.1 htake
    exact (followWord_eq_pure hsub).2 ⟨(follow_eq_ok hsub).2 ⟨hname, htake⟩, hfits⟩
  refine ⟨_, _, _, _, _, rfl, rfl, rfl, rfl, hfollow rfl (List.mem_singleton.2 rfl) rfl, rfl, ?_⟩
  rintro ⟨d₂, hd₂, -⟩
  cases hd₂

end Gridded.Axis
