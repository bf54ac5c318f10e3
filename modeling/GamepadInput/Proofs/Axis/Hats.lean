import GamepadInput.Proofs.Axis.Extent
import GamepadInput.Proofs.Axis.Zero

/-!
# Decoding the samples of a hat

A sample leaves the two slots of its hat at the direction of its position (`exists_feed_hat`).  A hat
of four positions or more is then at its centre if the sample names no position, and else only where
the marks of the dial fall together (`decodes_hat`).  A sample so far off that its distance from the
first position does not fit is not decoded at all.
-/

namespace GamepadInput

namespace Axis

theorem isNaN_of_mem_steps {value : Binary32} (member : value ∈ steps) : value.isNaN = false :=
  (@forall_mem_steps_iff (·.isNaN = false)).mpr ⟨rfl, rfl, rfl⟩ value member

theorem Direction.Same.congr {first second : Direction} (same : first.Same second)
    (other : Direction) : first.Same other ↔ second.Same other := by
  simp only [Direction.Same, Binary.equals_congr same.1, Binary.equals_congr same.2]

namespace Layout

variable {layout after : Layout} {axis place : Nat} {value : Binary32} {min max raw : Int}

/-! ## The slots of a hat -/

/-- A hat with positions `min` to `max` has its two slots from `axis` on. -/
structure HatAt (layout : Layout) (axis : Nat) (min max : Int) : Prop where
  first : layout.source? axis = some (.hat min max)
  second : layout.source? (axis + 1) = some .hatSecond

theorem hatAt_pushHat (layout : Layout) (cookie : Nat) (min max : Int) :
    (layout.pushHat cookie min max).HatAt layout.size min max := by
  constructor
  · simp only [source?, pushHat, size]
    rw [Array.getElem?_push, if_neg (by simp), Array.getElem?_push_size]
    rfl
  · simp only [source?, pushHat, size]
    rw [Array.getElem?_push, if_pos (by simp)]
    rfl

/-- Two slots hold the numbers of a direction. -/
def Shows (layout : Layout) (axis : Nat) (direction : Direction) : Prop :=
  ∃ x y, layout.values[axis]? = some x ∧ layout.values[axis + 1]? = some y ∧
    Direction.Same (x, y) direction

theorem Shows.iff_same {direction : Direction} (shows_ : layout.Shows axis direction)
    (other : Direction) : layout.Shows axis other ↔ direction.Same other := by
  obtain ⟨x, y, first, second, same⟩ := shows_
  rw [← same.congr other]
  constructor
  · rintro ⟨x', y', first', second', same'⟩
    cases first.symm.trans first'
    cases second.symm.trans second'
    exact same'
  · exact fun same' => ⟨x, y, first, second, same'⟩

theorem exists_value_set {source : Source} (here : layout.source? axis = some source)
    (number : value.isNaN = false) :
    ∃ now, (layout.set axis value).1.values[axis]? = some now ∧ now.equals value = true := by
  obtain ⟨slot, found, -⟩ := Option.map_eq_some_iff.mp here
  have inside := (Array.getElem?_eq_some_iff.mp found).1
  simp only [set, found]
  split
  · rename_i held
    exact ⟨slot.value, by simp [values, found], held⟩
  · exact ⟨value, by simp [values, inside], Binary.equals_self number⟩

/-! ## One sample -/

theorem exists_feed_hat (hat : layout.HatAt axis min max) (accepts : HatAccepts min max raw) :
    ∃ after changes, layout.feed axis raw = .ok (after, changes) ∧
      after.Shows axis (hatDirection (raw - min) (max - min + 1)) := by
  have takes : ∀ source ∈ layout.source? axis, source.Accepts raw := by
    rw [hat.first]
    rintro source ⟨⟩
    exact accepts
  obtain ⟨after, changes, fed⟩ := feed_ok_iff.mpr takes
  refine ⟨after, changes, fed, ?_⟩
  have first := hat.first
  cases feeds_of_feed fed with
  | outside absent => simp [source?, absent] at first
  | linear here source mapped => simp [source?, here, source] at first
  | second here source => simp [source?, here, source] at first
  | @hat slot min' max' x y here source sampled =>
    simp only [source?, here, source, Option.map_some, Option.some.injEq, Source.hat.injEq] at first
    obtain ⟨rfl, rfl⟩ := first
    have direction := (hatSample_eq_ok_iff.mp sampled).2
    have steps := hatDirection_mem_steps (raw - min') (max' - min' + 1)
    rw [← direction] at steps ⊢
    obtain ⟨x', first, sameX⟩ := exists_value_set hat.first (isNaN_of_mem_steps steps.1)
    have second : (layout.set axis x).1.source? (axis + 1) = some .hatSecond := by
      rw [source?_set, hat.second]
    obtain ⟨y', next, sameY⟩ := exists_value_set second (isNaN_of_mem_steps steps.2)
    refine ⟨x', y', ?_, next, sameX, sameY⟩
    rw [values_set_other (by omega), first]

/-- The distance of the sample is taken first. -/
theorem feed_hat_overflow (hat : layout.HatAt axis min max) (far : ¬FitsWord 64 (raw - min)) :
    layout.feed axis raw = .error .subtract := by
  obtain ⟨slot, here, source⟩ := Option.map_eq_some_iff.mp hat.first
  have distance : checkedSub 64 raw min = .error .subtract := if_neg far
  simp only [feed, here, source, hatSample, distance]
  rfl

/-- A sample of a hat is decoded into one of the nine directions, and into the centre exactly if
`Centred`. -/
def Decodes (layout : Layout) (axis : Nat) (raw : Int) (Centred : Prop) : Prop :=
  ∃ after changes, layout.feed axis raw = .ok (after, changes) ∧
    (∃ x ∈ steps, ∃ y ∈ steps, after.Shows axis (x, y)) ∧
    (after.Shows axis .centre ↔ Centred)

/-- The fourth position of a hat of six or seven positions: the half mark and the third quarter mark
fall on it. -/
def IsLost (min max raw : Int) : Prop := raw = min + 3 ∧ (max - min = 5 ∨ max - min = 6)

/-- A hat of four positions or more decodes a sample into the centre exactly if it names none of the
positions, or the lost one.  A sample is not decoded exactly if its distance from the first position
does not fit, which it does for every position. -/
theorem decodes_hat (hat : layout.HatAt axis min max) (enough : 4 ≤ max - min + 1)
    (fits : FitsWord 64 (max - min + 1)) (raw : Int) :
    (FitsWord 64 (raw - min) →
        layout.Decodes axis raw (¬(min ≤ raw ∧ raw ≤ max) ∨ IsLost min max raw)) ∧
      (¬FitsWord 64 (raw - min) →
        layout.feed axis raw = .error .subtract ∧ ¬(min ≤ raw ∧ raw ≤ max)) := by
  rw [fitsWord_64] at fits
  constructor
  · intro near
    have accepts : HatAccepts min max raw := by
      refine ⟨near, ?_, ?_⟩ <;> rw [fitsWord_64] <;> omega
    obtain ⟨after, changes, fed, shown⟩ := exists_feed_hat hat accepts
    have steps := hatDirection_mem_steps (raw - min) (max - min + 1)
    refine ⟨after, changes, fed, ⟨_, steps.1, _, steps.2, shown⟩, ?_⟩
    rw [shown.iff_same]
    unfold IsLost
    by_cases inside : min ≤ raw ∧ raw ≤ max
    · rw [same_centre_iff enough (by omega) (by omega)]
      omega
    · rw [hatDirection_outside (by omega)]
      exact iff_of_true (by decide) (.inl inside)
  · intro far
    refine ⟨feed_hat_overflow hat far, ?_⟩
    rw [fitsWord_64] at far
    omega

/-- A hat of eight positions from one on, given its third position, and a sample too far off. -/
theorem decodes_hat_right :
    (empty.pushHat 7 1 8).HatAt 0 1 8 ∧ 4 ≤ (8 : Int) - 1 + 1 ∧ FitsWord 64 (8 - 1 + 1) ∧
      (FitsWord 64 (3 - 1) ∧
        (empty.pushHat 7 1 8).Decodes 0 3 (¬((1 : Int) ≤ 3 ∧ (3 : Int) ≤ 8) ∨ IsLost 1 8 3)) ∧
      ¬FitsWord 64 (-0x8000000000000000 - 1) ∧
        (empty.pushHat 7 1 8).feed 0 (-0x8000000000000000) = .error .subtract := by
  have hat : (empty.pushHat 7 1 8).HatAt 0 1 8 := hatAt_pushHat empty 7 1 8
  have enough : 4 ≤ (8 : Int) - 1 + 1 := by decide
  have fits : FitsWord 64 (8 - 1 + 1) := by decide
  have near : FitsWord 64 (3 - 1) := by decide
  have far : ¬FitsWord 64 (-0x8000000000000000 - 1) := by decide
  have decoded := (decodes_hat hat enough fits 3).1 near
  have overflows := ((decodes_hat hat enough fits (-0x8000000000000000)).2 far).1
  exact ⟨hat, enough, fits, ⟨near, decoded⟩, far, overflows⟩

/-- With six positions the fourth, straight down, is taken for the centre. -/
theorem not_decodes_lost :
    ¬∀ (layout : Layout) (axis : Nat) (min max raw : Int), layout.HatAt axis min max →
      4 ≤ max - min + 1 → FitsWord 64 (max - min + 1) → FitsWord 64 (raw - min) →
      layout.Decodes axis raw (¬(min ≤ raw ∧ raw ≤ max)) := by
  intro decodes
  obtain ⟨after, changes, fed, -, centred⟩ := decodes (empty.pushHat 0 0 5) 0 0 5 3
    (hatAt_pushHat empty 0 0 5) (by decide) (by decide) (by decide)
  have unmoved : (empty.pushHat 0 0 5).feed 0 3 = .ok (empty.pushHat 0 0 5, []) := rfl
  cases unmoved.symm.trans fed
  have rest : (empty.pushHat 0 0 5).values = #[0, 0] := by simp [values, pushHat, empty]
  exact centred.mp ⟨0, 0, by rw [rest]; rfl, by rw [rest]; rfl, by decide⟩ (by decide)

end Layout

end Axis

end GamepadInput
