import GamepadInput.Axis.Normalize

/-!
# Directions of a hat

A position has a horizontal part, decided by the half mark of its dial, and a vertical part, decided
by the two quarter marks (`parts_hatDirection`).  On a dial that splits into four equal quarters the
marks lie a quarter apart, so the direction turns with the position and is mirrored with it
(`hatDirection_symmetric`).  On other dials the marks are rounded: with six or seven positions the
third quarter mark falls on the half mark, and the position there points nowhere
(`same_centre_iff`).
-/

namespace GamepadInput.Axis

/-- The values of a hat. -/
def steps : List Binary32 := [.minusOne, 0, .one]

theorem forall_mem_steps_iff {property : Binary32 → Prop} :
    (∀ value ∈ steps, property value) ↔ property .minusOne ∧ property 0 ∧ property .one := by
  simp [steps]

namespace Direction

def centre : Direction := (0, 0)

/-- Two directions with equal numbers; the sign of a zero makes no difference. -/
def Same (first second : Direction) : Prop :=
  first.1.equals second.1 = true ∧ first.2.equals second.2 = true

instance (first second : Direction) : Decidable (first.Same second) :=
  inferInstanceAs (Decidable (_ ∧ _))

/-- The direction a quarter turn clockwise. -/
def turned (direction : Direction) : Direction := (direction.2.neg, direction.1)

/-- The direction with left and right exchanged. -/
def mirrored (direction : Direction) : Direction := (direction.1.neg, direction.2)

end Direction

variable {position positions quarter place : Int} {x y x' y' : Binary32}

/-! ## The two parts of a direction -/

/-- Horizontal part of a position: right before the half mark, left after it. -/
inductive Across (position positions : Int) : Binary32 → Prop where
  | right (past : 0 < position) (short : position < positions / 2) : Across position positions .one
  | left (past : positions / 2 < position) : Across position positions .minusOne
  | upright (mark : position = 0 ∨ position = positions / 2) : Across position positions 0

/-- Vertical part of a position: down between the quarter marks, up outside them. -/
inductive Along (position positions : Int) : Binary32 → Prop where
  | up (outside : position < positions / 4 ∨ positions / 4 * 3 < position) :
      Along position positions .minusOne
  | down (past : positions / 4 < position) (short : position < positions / 4 * 3) :
      Along position positions .one
  | level (mark : position = positions / 4 ∨ position = positions / 4 * 3) :
      Along position positions 0

theorem parts_hatDirection (low : 0 ≤ position) (high : position < positions) :
    Across position positions (hatDirection position positions).1 ∧
      Along position positions (hatDirection position positions).2 := by
  have inside : ¬(positions ≤ 0 ∨ position < 0 ∨ positions ≤ position) := by omega
  simp only [hatDirection, if_neg inside]
  constructor
  · by_cases right : 0 < position ∧ position < positions / 2
    · rw [if_pos right]
      exact .right right.1 right.2
    · rw [if_neg right]
      split
      · rename_i past
        exact .left past
      · exact .upright (by omega)
  · by_cases up : positions / 4 * 3 < position ∨ position < positions / 4
    · rw [if_pos up]
      exact .up up.symm
    · rw [if_neg up]
      split
      · rename_i down
        exact .down down.1 down.2
      · exact .level (by omega)

theorem hatDirection_outside (outside : ¬(0 ≤ position ∧ position < positions)) :
    hatDirection position positions = .centre := by
  rw [hatDirection, if_pos (by omega)]
  rfl

/-- The value of a mark is zero, and no other value is. -/
theorem Across.equals_zero_iff (across : Across position positions x)
    (high : position < positions) :
    x.equals 0 = true ↔ position = 0 ∨ position = positions / 2 := by
  cases across with
  | right past short => exact iff_of_false (by decide) (by omega)
  | left past => exact iff_of_false (by decide) (by omega)
  | upright mark => exact iff_of_true (by decide) mark

theorem Along.equals_zero_iff (along : Along position positions y) (low : 0 ≤ position) :
    y.equals 0 = true ↔ position = positions / 4 ∨ position = positions / 4 * 3 := by
  cases along with
  | up outside => exact iff_of_false (by decide) (by omega)
  | down past short => exact iff_of_false (by decide) (by omega)
  | level mark => exact iff_of_true (by decide) mark

theorem Across.mem_steps (across : Across position positions x) : x ∈ steps := by
  cases across <;> decide

theorem Along.mem_steps (along : Along position positions y) : y ∈ steps := by
  cases along <;> decide

theorem hatDirection_mem_steps (position positions : Int) :
    (hatDirection position positions).1 ∈ steps ∧ (hatDirection position positions).2 ∈ steps := by
  by_cases inside : 0 ≤ position ∧ position < positions
  · obtain ⟨across, along⟩ := parts_hatDirection inside.1 inside.2
    exact ⟨across.mem_steps, along.mem_steps⟩
  · rw [hatDirection_outside inside]
    decide

/-- On a dial of four positions or more a position points nowhere only where the half mark and the
third quarter mark fall together. -/
theorem same_centre_iff (enough : 4 ≤ positions) (low : 0 ≤ position)
    (high : position < positions) :
    (hatDirection position positions).Same .centre ↔
      position = 3 ∧ (positions = 6 ∨ positions = 7) := by
  obtain ⟨across, along⟩ := parts_hatDirection low high
  have upright := across.equals_zero_iff high
  have level := along.equals_zero_iff low
  unfold Direction.Same Direction.centre
  rw [upright, level]
  omega

/-! ## Turning and mirroring -/

/-- A place less than two rounds along a dial. -/
theorem emod_wrapped {round : Int} (low : 0 ≤ place) (high : place < 2 * round) :
    place % round = if place < round then place else place - round := by
  split
  · rename_i short
    exact Int.emod_eq_of_lt low short
  · rename_i past
    rw [← Int.sub_emod_right, Int.emod_eq_of_lt (by omega) (by omega)]

/-- The position `place` lies a quarter of the dial after `position`. -/
def QuarterAfter (quarter position place : Int) : Prop :=
  0 ≤ place ∧ place < 4 * quarter ∧
    (place = position + quarter ∨ place = position + quarter - 4 * quarter)

theorem quarterAfter_emod (low : 0 ≤ position) (high : position < 4 * quarter) :
    QuarterAfter quarter position ((position + quarter) % (4 * quarter)) := by
  have wrapped := @emod_wrapped (position + quarter) (4 * quarter) (by omega) (by omega)
  unfold QuarterAfter
  split at wrapped <;> omega

/-- The position `place` lies as far before up as `position` lies after it. -/
def Opposite (quarter position place : Int) : Prop :=
  0 ≤ place ∧ place < 4 * quarter ∧ (place = 4 * quarter - position ∨ position = 0 ∧ place = 0)

theorem opposite_emod (low : 0 ≤ position) (high : position < 4 * quarter) :
    Opposite quarter position ((4 * quarter - position) % (4 * quarter)) := by
  have wrapped := @emod_wrapped (4 * quarter - position) (4 * quarter) (by omega) (by omega)
  unfold Opposite
  split at wrapped <;> omega

theorem Across.turned (low : 0 ≤ position) (high : position < 4 * quarter)
    (after : QuarterAfter quarter position place) (across : Across place (4 * quarter) x')
    (along : Along position (4 * quarter) y) : x'.equals y.neg = true := by
  unfold QuarterAfter at after
  cases along <;> cases across <;> first | rfl | omega

theorem Along.turned (high : position < 4 * quarter) (after : QuarterAfter quarter position place)
    (along : Along place (4 * quarter) y') (across : Across position (4 * quarter) x) :
    y'.equals x = true := by
  unfold QuarterAfter at after
  cases across <;> cases along <;> first | rfl | omega

theorem Across.mirrored (high : position < 4 * quarter) (opposite : Opposite quarter position place)
    (across : Across place (4 * quarter) x') (across' : Across position (4 * quarter) x) :
    x'.equals x.neg = true := by
  unfold Opposite at opposite
  cases across' <;> cases across <;> first | rfl | omega

theorem Along.mirrored (high : position < 4 * quarter) (opposite : Opposite quarter position place)
    (along : Along place (4 * quarter) y') (along' : Along position (4 * quarter) y) :
    y'.equals y = true := by
  unfold Opposite at opposite
  cases along' <;> cases along <;> first | rfl | omega

/-- How the directions of a dial of four times `quarter` positions lie to each other, as seen from
one position. -/
structure SymmetricAt (quarter position : Int) : Prop where
  /-- A quarter of the dial further on, the direction is a quarter turn further on. -/
  turned : (hatDirection ((position + quarter) % (4 * quarter)) (4 * quarter)).Same
    (hatDirection position (4 * quarter)).turned
  /-- As far from up on its other side, the direction is mirrored. -/
  mirrored : (hatDirection ((4 * quarter - position) % (4 * quarter)) (4 * quarter)).Same
    (hatDirection position (4 * quarter)).mirrored
  upright_iff : (hatDirection position (4 * quarter)).1.equals 0 = true ↔
    position = 0 ∨ position = 2 * quarter
  level_iff : (hatDirection position (4 * quarter)).2.equals 0 = true ↔
    position = quarter ∨ position = 3 * quarter

theorem symmetricAt_of_inside (low : 0 ≤ position) (high : position < 4 * quarter) :
    SymmetricAt quarter position := by
  obtain ⟨across, along⟩ := parts_hatDirection low high
  refine ⟨?_, ?_, ?_, ?_⟩
  · have after := quarterAfter_emod low high
    obtain ⟨across', along'⟩ := parts_hatDirection after.1 after.2.1
    exact ⟨across'.turned low high after along, along'.turned high after across⟩
  · have opposite := opposite_emod low high
    obtain ⟨across', along'⟩ := parts_hatDirection opposite.1 opposite.2.1
    exact ⟨across'.mirrored high opposite across, along'.mirrored high opposite along⟩
  · rw [across.equals_zero_iff high]
    omega
  · rw [along.equals_zero_iff low]
    omega

/-- The reading of the centre lies outside the dial, like every reading that shares its low word. -/
theorem povDirection_eq (reading : Nat) :
    povDirection reading = hatDirection reading centidegrees := by
  unfold povDirection
  split
  · rename_i centre
    refine (hatDirection_outside ?_).symm
    unfold centidegrees
    omega
  · rfl

/-- On every dial of four equal quarters the directions turn and are mirrored with the position, and
a reading in hundredths of a degree is a position on such a dial. -/
theorem hatDirection_symmetric (low : 0 ≤ position) (high : position < 4 * quarter)
    (reading : Nat) :
    SymmetricAt quarter position ∧ povDirection reading = hatDirection reading centidegrees :=
  ⟨symmetricAt_of_inside low high, povDirection_eq reading⟩

/-- The left end of a dial in hundredths of a degree, a quarter before up, and the reading of the
centre. -/
theorem hatDirection_symmetric_left :
    (0 : Int) ≤ 27000 ∧ (27000 : Int) < 4 * 9000 ∧
      hatDirection 27000 (4 * 9000) = (.minusOne, 0) ∧ SymmetricAt 9000 27000 ∧
      povDirection 0xFFFF = hatDirection (0xFFFF : Nat) centidegrees := by
  have symmetric := @hatDirection_symmetric 27000 9000 (by decide) (by decide) 0xFFFF
  exact ⟨by decide, by decide, by decide, symmetric.1, symmetric.2⟩

end GamepadInput.Axis
