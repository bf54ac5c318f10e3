import GamepadInput.Proofs.Axis.Zero
import GamepadInput.Proofs.Device.Changes
import GamepadInput.XInput.Pad

/-!
# What a sample reports

A sample is compared with the last one: buttons by the bits that differ, axes by their numbers.  Each
button has a bit of its own and no axis is at the negative zero (`Pad.Regular`), so that what is
reported leads a record from the last sample to this one (`Pad.update_leads`).
-/

namespace GamepadInput.XInput

variable {device : Device}

/-- Which buttons bits show to be down. -/
def held (masks : List (BitVec 16)) (bits : BitVec 16) : List Bool :=
  masks.map fun mask => bits &&& mask != 0

/-- Before the first sample every button is up. -/
theorem held_zero : (held buttonMasks 0).toArray = .replicate buttonCount false := by
  decide

/-- Each button has a bit of its own. -/
theorem buttonMasks_eq :
    buttonMasks =
      [0, 1, 2, 3, 4, 5, 6, 7, 8, 9, 12, 13, 14, 15, 10].map fun bit : Fin 16 =>
        BitVec.twoPow 16 bit :=
  rfl

/-- A mask of one bit. -/
def IsSingle (mask : BitVec 16) : Prop := ∃ bit : Fin 16, mask = BitVec.twoPow 16 bit

theorem isSingle_buttonMasks : ∀ mask ∈ buttonMasks, IsSingle mask := by
  intro mask member
  rw [buttonMasks_eq] at member
  obtain ⟨bit, -, rfl⟩ := List.mem_map.mp member
  exact ⟨bit, rfl⟩

/-- A bit differs just if one of two has it set and the other has not. -/
theorem IsSingle.xor_and_eq_zero_iff {mask : BitVec 16} (single : IsSingle mask)
    (before after : BitVec 16) :
    (before ^^^ after) &&& mask = 0 ↔ (before &&& mask != 0) = (after &&& mask != 0) := by
  obtain ⟨bit, rfl⟩ := single
  have nonzero : BitVec.twoPow 16 bit ≠ 0#16 := by
    intro zero
    have selected := congrArg (·.getLsbD bit) zero
    simp at selected
  simp only [BitVec.and_twoPow, BitVec.getLsbD_xor]
  cases before.getLsbD bit <;> cases after.getLsbD bit <;> simp [nonzero]

namespace Pad

theorem buttonChanges_leads {before after : BitVec 16} {masks : List (BitVec 16)}
    (single : ∀ mask ∈ masks, IsSingle mask) {ahead : List Bool}
    (same : device.buttons = (ahead ++ held masks before).toArray) :
    device.LeadsTo (buttonChanges before after ahead.length masks) device.axes
      (ahead ++ held masks after).toArray := by
  induction masks generalizing device ahead with
  | nil =>
    rw [held, List.map_nil] at same ⊢
    exact same ▸ .nil device
  | cons mask rest ih =>
    obtain ⟨own, single⟩ := List.forall_mem_cons.mp single
    have differs := own.xor_and_eq_zero_iff before after
    rw [held, List.map_cons, ← held] at same ⊢
    rw [buttonChanges]
    generalize (before &&& mask != 0) = was at same differs
    generalize (after &&& mask != 0) = down at differs ⊢
    have onward {device : Device} (same : device.buttons = (ahead ++ down :: held rest before).toArray) :
        device.LeadsTo (buttonChanges before after (ahead.length + 1) rest) device.axes
          (ahead ++ down :: held rest after).toArray := by
      have whole := @ih device single (ahead ++ [down]) (by simpa using same)
      simpa using whole
    split
    · rename_i equal
      exact onward (differs.mp equal ▸ same)
    · rename_i unequal
      have turned : was = !down := by
        rw [differs] at unequal
        cases was <;> cases down <;> simp_all
      refine .cons ?_ (onward ?_)
      · simp [Device.Admits, same, turned]
      · simp [Device.apply, Device.setButton, same]

theorem axisChanges_leads {ahead before after : List Binary32}
    (regular : ∀ value ∈ before, value.isNegativeZero = false)
    (regular' : ∀ value ∈ after, value.isNegativeZero = false) (sizes : before.length = after.length)
    (same : device.axes = (ahead ++ before).toArray) :
    device.LeadsTo (axisChanges ahead.length before after) (ahead ++ after).toArray
      device.buttons := by
  induction before generalizing device ahead after with
  | nil =>
    cases List.length_eq_zero_iff.mp sizes.symm
    exact same ▸ .nil device
  | cons last before ih =>
    obtain ⟨value, after, rfl⟩ := List.exists_cons_of_length_eq_add_one sizes.symm
    rw [List.forall_mem_cons] at regular regular'
    have onward {device : Device} (same : device.axes = (ahead ++ value :: before).toArray) :
        device.LeadsTo (axisChanges (ahead.length + 1) before after)
          (ahead ++ value :: after).toArray device.buttons := by
      have whole := @ih device (ahead ++ [value]) after regular.2 regular'.2
        (Nat.succ.inj sizes) (by simpa using same)
      simpa using whole
    rw [axisChanges]
    split
    · rename_i equal
      exact onward (Binary.eq_of_equals equal regular'.1 regular.1 ▸ same)
    · refine .cons ?_ (onward ?_)
      · simp [Device.Admits, same]
      · simp [Device.apply, Device.setAxis, same]

/-- There is a value for every axis, none of which is the negative zero. -/
structure Regular (pad : Pad) : Prop where
  size_eq : pad.axes.length = axisCount
  plain : ∀ value ∈ pad.axes, value.isNegativeZero = false

theorem Regular.atRest (slot : Nat) : (atRest slot).Regular where
  size_eq := List.length_replicate
  plain value member := by
    rw [List.eq_of_mem_replicate member]
    rfl

end Pad

theorem Sample.regular_axes {sample : Sample} {values : List Binary32}
    (normalized : sample.axes = .ok values) :
    values.length = axisCount ∧ ∀ value ∈ values, value.isNegativeZero = false := by
  obtain ⟨leftX, first, normalized⟩ := exists_of_bind_ok normalized
  obtain ⟨leftY, second, normalized⟩ := exists_of_bind_ok normalized
  obtain ⟨rightX, third, normalized⟩ := exists_of_bind_ok normalized
  obtain ⟨rightY, fourth, normalized⟩ := exists_of_bind_ok normalized
  cases normalized
  have sticks {value : Int} {result : Binary32} (mapped : stick value = .ok result) :
      result.isNegativeZero = false :=
    Axis.isNegativeZero_linear mapped
  have triggers (value : Nat) : (trigger value).isNegativeZero = false :=
    Axis.isNegativeZero_halfRange _ _
  exact ⟨rfl, by simp [sticks first, sticks second, sticks third, sticks fourth, triggers]⟩

namespace Pad

variable {pad after : Pad} {sample : Sample} {kinds : List EventKind}

/-- The pad takes over the sample, and reports where it differs from the last. -/
theorem of_update (updated : pad.update sample = .ok (after, kinds)) :
    ∃ values, sample.axes = .ok values ∧
      after = { pad with buttons := sample.buttons, axes := values, sampled := true } ∧
      kinds = buttonChanges pad.buttons sample.buttons 0 buttonMasks ++
        axisChanges 0 pad.axes values := by
  obtain ⟨values, normalized, updated⟩ := exists_of_bind_ok updated
  cases updated
  exact ⟨values, normalized, rfl, rfl⟩

/-- What is reported leads a record from the last sample to this one. -/
theorem update_leads (regular : pad.Regular) (axes : device.axes = pad.axes.toArray)
    (buttons : device.buttons = (held buttonMasks pad.buttons).toArray)
    (updated : pad.update sample = .ok (after, kinds)) :
    after.Regular ∧
      device.LeadsTo kinds after.axes.toArray (held buttonMasks after.buttons).toArray := by
  obtain ⟨values, normalized, rfl, rfl⟩ := of_update updated
  obtain ⟨size, plain⟩ := Sample.regular_axes normalized
  refine ⟨⟨size, plain⟩, ?_⟩
  have presses : device.LeadsTo (buttonChanges pad.buttons sample.buttons 0 buttonMasks) device.axes
      (held buttonMasks sample.buttons).toArray :=
    @buttonChanges_leads device pad.buttons sample.buttons buttonMasks isSingle_buttonMasks [] buttons
  generalize buttonChanges pad.buttons sample.buttons 0 buttonMasks = pressed at presses ⊢
  have moves : (device.replay pressed).LeadsTo (axisChanges 0 pad.axes values) values.toArray
      (device.replay pressed).buttons :=
    @axisChanges_leads (device.replay pressed) [] pad.axes values regular.plain plain
      (regular.size_eq.trans size.symm) (presses.axes_eq.trans axes)
  rw [presses.buttons_eq] at moves
  exact presses.append moves

end Pad

end GamepadInput.XInput
