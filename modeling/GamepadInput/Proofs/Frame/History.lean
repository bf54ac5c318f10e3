import GamepadInput.Proofs.Frame.Tenure
import Mathlib.Data.List.Induction

/-!
# Gamepad slots show the history of a frame

Each call does to a slot what it does to the account of the slot (`slotAfter_tenure?`), so a frame
agrees with that account after any calls, and answers every question about gamepads from it.
-/

namespace GamepadInput.Frame

/-! ## Slots after one call -/

section Slots

variable (frame : Frame) (index : Nat)

/-- The slot at an index after one call. -/
def slotAfter (capacity index : Nat) (slot : Slot) : Call → Slot
  | .hear notice => if notice.device.id % capacity = index then slot.hear notice else slot
  | .handle _ => slot
  | .flush => slot.map (·.flush)
  | .disconnect other => if other = index then none else slot
  | .disconnectDevice device => if device % capacity = index then slot.disconnect device else slot

theorem slot?_modifySlotOf (device : DeviceId) (f : Slot → Slot) :
    (frame.modifySlotOf device f).slot? index =
      (frame.slot? index).map fun slot =>
        if device % frame.capacity = index then f slot else slot := by
  have read : (frame.modifySlotOf device f).slot? index =
      (frame.slots.set (frame.slotFor device) (f frame.slots[frame.slotFor device]))[index]? := rfl
  rw [read, Vector.getElem?_set]
  by_cases here : device % frame.capacity = index
  · subst here
    have inside : device % frame.capacity < frame.capacity :=
      Nat.mod_lt device frame.capacity_pos
    simp [slotFor, slot?, inside]
  · simp [slotFor, slot?, here]

theorem slot?_disconnect (other : Nat) :
    (frame.disconnect other).slot? index =
      (frame.slot? index).map fun slot => if other = index then none else slot := by
  have read : (frame.disconnect other).slot? index =
      (frame.slots.setIfInBounds other none)[index]? := rfl
  rw [read, Vector.getElem?_setIfInBounds]
  by_cases here : other = index
  · subst here
    by_cases inside : other < frame.capacity <;> simp [slot?, inside]
  · simp [slot?, here]

theorem slot?_flush : frame.flush.slot? index = (frame.slot? index).map (·.map (·.flush)) := by
  have read : frame.flush.slot? index =
      (frame.slots.map fun slot => slot.map Occupant.flush)[index]? := rfl
  rw [read, Vector.getElem?_map]
  rfl

theorem slot?_perform (call : Call) :
    (frame.perform call).slot? index =
      (frame.slot? index).map fun slot => slotAfter frame.capacity index slot call := by
  cases call with
  | hear notice => exact slot?_modifySlotOf frame index notice.device.id (·.hear notice)
  | handle event => exact Option.map_id'.symm
  | flush => exact slot?_flush frame index
  | disconnect other => exact slot?_disconnect frame index other
  | disconnectDevice device => exact slot?_modifySlotOf frame index device (·.disconnect device)

@[simp] theorem capacity_perform (call : Call) :
    (frame.perform call).capacity = frame.capacity := by
  cases call <;> rfl

end Slots

/-! ## Slots after a run -/

section Runs

variable {capacity index : Nat} {call : Call}

theorem attaches?_eq_some {device : Device} :
    call.attaches? capacity index = some device ↔
      call = .hear ⟨device, .attached⟩ ∧ device.id % capacity = index := by
  unfold Call.attaches?
  split
  · rename_i other
    split <;> rename_i here
    · constructor
      · rintro ⟨⟩
        exact ⟨rfl, here⟩
      · rintro ⟨⟨⟩, -⟩
        rfl
    · refine ⟨nofun, ?_⟩
      rintro ⟨⟨⟩, there⟩
      exact absurd there here
  · rename_i others
    refine ⟨nofun, ?_⟩
    rintro ⟨rfl, -⟩
    exact absurd rfl (others device)

/-- An attach to the slot takes it over, whoever was there. -/
theorem slotAfter_attach {device : Device} (attach : call.attaches? capacity index = some device)
    (slot : Slot) : slotAfter capacity index slot call = some (.ofDevice device) := by
  obtain ⟨rfl, here⟩ := attaches?_eq_some.mp attach
  rw [slotAfter, if_pos here]
  rfl

theorem slotAfter_none (other : call.attaches? capacity index = none) :
    slotAfter capacity index none call = none := by
  cases call with
  | hear notice =>
    obtain ⟨device, kind⟩ := notice
    simp only [slotAfter]
    split
    · rename_i here
      cases kind with
      | attached =>
        have attach : (Call.hear ⟨device, .attached⟩).attaches? capacity index = some device :=
          attaches?_eq_some.mpr ⟨rfl, here⟩
        rw [other] at attach
        cases attach
      | removed | button | axis => rfl
    · rfl
  | handle | flush => rfl
  | disconnect | disconnectDevice =>
    simp only [slotAfter]
    split <;> rfl

/-- Taking a device out leaves the slot to any other. -/
theorem disconnect_occupant (tenure : Tenure) (device : DeviceId) :
    Slot.disconnect (some tenure.occupant) device =
      if device = tenure.device.id then none else some tenure.occupant := by
  simp only [Slot.disconnect, Option.filter, Tenure.occupant]
  by_cases same : device = tenure.device.id
  · simp [same]
  · simp [same, Ne.symm same]

/-- Input counts for the device that holds the slot, and for no other that maps to it. -/
theorem slotAfter_input {notice : Notice} (input : notice.kind.isInput = true) (tenure : Tenure)
    (mine : tenure.device.id % capacity = index) :
    slotAfter capacity index (some tenure.occupant) (.hear notice) =
      some (tenure.extend (.hear notice)).occupant := by
  obtain ⟨device, kind⟩ := notice
  have goes : Call.hear ⟨device, kind⟩ ≠ .flush := nofun
  have heard : Slot.hear (some tenure.occupant) ⟨device, kind⟩ =
      some (if tenure.device.id = device.id then
        { tenure.occupant with current := tenure.occupant.current.apply kind }
      else tenure.occupant) := by
    cases kind with
    | attached | removed => cases input
    | button | axis => rfl
  by_cases same : device.id = tenure.device.id
  · have here : device.id % capacity = index := by rw [same, mine]
    have shown := tenure.padFrame_concat_hear tenure.now ⟨device, kind⟩ same
    rw [tenure.occupant_extend goes, shown, slotAfter, if_pos here, heard, if_pos same.symm]
    rfl
  · have still (button : Nat) :
        (Call.hear ⟨device, kind⟩).edge? tenure.device.id button = none := by
      cases kind <;> simp [Call.edge?, same]
    have quiet (axis : Nat) :
        (Call.hear ⟨device, kind⟩).move? tenure.device.id axis = none := by
      cases kind <;> simp [Call.move?, same]
    rw [tenure.occupant_silent goes still quiet, slotAfter, heard, if_neg (Ne.symm same), ite_self]

/-- A call that attaches nothing to the slot ends the tenure in it, or is one more call of it. -/
theorem slotAfter_tenure (other : call.attaches? capacity index = none) (tenure : Tenure)
    (mine : tenure.device.id % capacity = index) :
    slotAfter capacity index (some tenure.occupant) call =
      if call.vacates index tenure.device.id then none
      else some (tenure.extend call).occupant := by
  have elsewhere {device : DeviceId} (away : device % capacity ≠ index) :
      device ≠ tenure.device.id := by
    rintro rfl
    exact away mine
  cases call with
  | handle event =>
    have goes : Call.handle event ≠ .flush := nofun
    have same := tenure.occupant_silent goes (fun _ => rfl) fun _ => rfl
    simp [slotAfter, Call.vacates, same]
  | flush => simp [slotAfter, Call.vacates, tenure.occupant_flush]
  | disconnect place =>
    have goes : Call.disconnect place ≠ .flush := nofun
    have same := tenure.occupant_silent goes (fun _ => rfl) fun _ => rfl
    simp [slotAfter, Call.vacates, same]
  | disconnectDevice device =>
    have goes : Call.disconnectDevice device ≠ .flush := nofun
    have same := tenure.occupant_silent goes (fun _ => rfl) fun _ => rfl
    by_cases here : device % capacity = index
    · simp [slotAfter, Call.vacates, here, same, disconnect_occupant]
    · simp [slotAfter, Call.vacates, here, same, elsewhere here]
  | hear notice =>
    obtain ⟨device, kind⟩ := notice
    cases kind with
    | attached =>
      have away : device.id % capacity ≠ index := fun here => by
        have attach : (Call.hear ⟨device, .attached⟩).attaches? capacity index = some device :=
          attaches?_eq_some.mpr ⟨rfl, here⟩
        rw [other] at attach
        cases attach
      have goes : Call.hear ⟨device, .attached⟩ ≠ .flush := nofun
      have same := tenure.occupant_silent goes (fun _ => rfl) fun _ => rfl
      simp [slotAfter, Call.vacates, away, same]
    | removed =>
      have goes : Call.hear ⟨device, .removed⟩ ≠ .flush := nofun
      have same := tenure.occupant_silent goes (fun _ => rfl) fun _ => rfl
      by_cases here : device.id % capacity = index
      · simp [slotAfter, Slot.hear, Call.vacates, here, same, disconnect_occupant]
      · simp [slotAfter, Call.vacates, here, same, elsewhere here]
    | button | axis => exact slotAfter_input rfl tenure mine

/-- The device that holds a slot maps to it. -/
theorem tenure?_mod {calls : List Call} {tenure : Tenure}
    (held : tenure? capacity index calls = some tenure) : tenure.device.id % capacity = index := by
  induction calls using List.reverseRecOn generalizing tenure with
  | nil => cases held
  | append_singleton calls call ih =>
    rw [tenure?_concat] at held
    cases attach : call.attaches? capacity index with
    | some device =>
      simp only [attach, Option.some.injEq] at held
      rw [← held]
      exact (attaches?_eq_some.mp attach).2
    | none =>
      simp only [attach, Option.bind_eq_some_iff, Option.ite_none_left_eq_some,
        Option.some.injEq] at held
      obtain ⟨earlier, there, -, rfl⟩ := held
      have here := ih there
      exact here

/-- Every call carries on what the calls before it say of a slot. -/
theorem slotAfter_tenure? (calls : List Call) (call : Call) :
    slotAfter capacity index ((tenure? capacity index calls).map (·.occupant)) call =
      (tenure? capacity index (calls ++ [call])).map (·.occupant) := by
  rw [tenure?_concat]
  cases attach : call.attaches? capacity index with
  | some device =>
    rw [slotAfter_attach attach]
    exact congrArg some (Tenure.occupant_start device).symm
  | none =>
    cases held : tenure? capacity index calls with
    | none => exact slotAfter_none attach
    | some tenure =>
      rw [Option.map_some, slotAfter_tenure attach tenure (tenure?_mod held), Option.bind_some]
      split <;> rfl

theorem run_concat (frame : Frame) (calls : List Call) (call : Call) :
    frame.run (calls ++ [call]) = (frame.run calls).perform call := by
  simp [run]

@[simp] theorem capacity_run (frame : Frame) (calls : List Call) :
    (frame.run calls).capacity = frame.capacity := by
  induction calls using List.reverseRecOn with
  | nil => rfl
  | append_singleton calls call ih => rw [run_concat, capacity_perform, ih]

/-- A slot shows what the calls say of it. -/
theorem slot?_run (slots index : Nat) (calls : List Call) :
    ((atRest slots).run calls).slot? index =
      if index < max slots 1 then some ((tenure? (max slots 1) index calls).map (·.occupant))
      else none := by
  induction calls using List.reverseRecOn with
  | nil =>
    have read : ((atRest slots).run []).slot? index =
        (Vector.replicate (max slots 1) (none : Slot))[index]? := rfl
    rw [read, Vector.getElem?_replicate]
    rfl
  | append_singleton calls call ih =>
    have capacity : ((atRest slots).run calls).capacity = max slots 1 := capacity_run _ _
    rw [run_concat, slot?_perform, ih, capacity]
    split
    · rw [Option.map_some, slotAfter_tenure?]
    · rfl

end Runs

/-! ## Queries -/

section Queries

variable {slots : Nat} {calls : List Call}

namespace Tenure

variable (tenure : Tenure)

theorem button?_occupant (button : Nat) :
    tenure.occupant.button? button =
      if button < tenure.device.buttonCount then some (tenure.isDown button, tenure.wasDown button)
      else none := by
  simp only [Occupant.button?, occupant, padFrame, isDown, wasDown, Array.getElem?_ofFn]
  split <;> rfl

theorem axis?_occupant (axis : Nat) :
    tenure.occupant.axis? axis =
      if axis < trackedAxes then some (tenure.axis axis, tenure.axisBefore axis) else none := by
  simp only [Occupant.axis?, occupant, padFrame, Tenure.axis, axisBefore, Vector.getElem?_ofFn]
  split <;> rfl

theorem buttonCount_occupant : tenure.occupant.buttonCount = tenure.device.buttonCount := by
  simp [Occupant.buttonCount, occupant, padFrame]

end Tenure

/-- No device holds a slot past the last one. -/
theorem tenure?_of_le {capacity index : Nat} (positive : 0 < capacity) (past : capacity ≤ index)
    (calls : List Call) : tenure? capacity index calls = none := by
  cases held : tenure? capacity index calls with
  | none => rfl
  | some tenure =>
    have there : tenure.device.id % capacity = index := tenure?_mod held
    have inside : tenure.device.id % capacity < capacity := Nat.mod_lt _ positive
    rw [there] at inside
    exact absurd inside (Nat.not_lt.mpr past)

theorem occupant?_run (index : Nat) :
    ((atRest slots).run calls).occupant? index =
      (tenure? (max slots 1) index calls).map (·.occupant) := by
  rw [occupant?, slot?_run]
  split
  · rfl
  · rename_i past
    rw [tenure?_of_le (by omega) (Nat.le_of_not_lt past)]
    rfl

theorem padButton?_run (index button : Nat) :
    ((atRest slots).run calls).padButton? index button =
      (tenure? (max slots 1) index calls).bind fun tenure =>
        if button < tenure.device.buttonCount then
          some (tenure.isDown button, tenure.wasDown button)
        else none := by
  simp only [padButton?, occupant?_run, bind, Option.bind_map, Function.comp_def,
    Tenure.button?_occupant]

theorem padAxis?_run (index axis : Nat) :
    ((atRest slots).run calls).padAxis? index axis =
      (tenure? (max slots 1) index calls).bind fun tenure =>
        if axis < trackedAxes then some (tenure.axis axis, tenure.axisBefore axis) else none := by
  simp only [padAxis?, occupant?_run, bind, Option.bind_map, Function.comp_def,
    Tenure.axis?_occupant]

end Queries

/-- What is asked of a reading that is there under a condition only. -/
private theorem any_guarded {β : Type} (held : Option Tenure) (p : Tenure → Prop)
    [DecidablePred p] (read : Tenure → β) (ask : β → Bool) :
    (held.bind fun tenure => if p tenure then some (read tenure) else none).any ask =
      held.any fun tenure => p tenure && ask (read tenure) := by
  cases held with
  | none => rfl
  | some tenure => by_cases there : p tenure <;> simp [there]

private theorem elim_guarded {β γ : Type} (held : Option Tenure) (p : Tenure → Prop)
    [DecidablePred p] (read : Tenure → β) (rest : γ) (ask : β → γ) :
    (held.bind fun tenure => if p tenure then some (read tenure) else none).elim rest ask =
      held.elim rest fun tenure => if p tenure then ask (read tenure) else rest := by
  cases held with
  | none => rfl
  | some tenure => by_cases there : p tenure <;> simp [there]

/-- What a frame of so many slots answers about gamepads is what the calls so far say. -/
structure ShowsHistory (slots : Nat) (calls : List Call) (frame : Frame) : Prop where
  /-- A frame has one slot at least. -/
  capacity_eq : frame.capacity = max slots 1
  slot?_eq : ∀ index, frame.slot? index =
    if index < frame.capacity then
      some ((tenure? frame.capacity index calls).map (·.occupant))
    else none
  slotFor_eq : ∀ device, (frame.slotFor device).val = device % frame.capacity
  isConnected_eq : ∀ index,
    frame.isConnected index = (tenure? frame.capacity index calls).isSome
  connectedCount_eq : frame.connectedCount =
    (List.range frame.capacity).countP fun index => (tenure? frame.capacity index calls).isSome
  device?_eq : ∀ index slot, frame.slot? index = some slot →
    slot.device? = (tenure? frame.capacity index calls).map (·.device.id)
  buttonCount_eq : ∀ index slot, frame.slot? index = some slot →
    slot.buttonCount = (tenure? frame.capacity index calls).elim 0 (·.device.buttonCount)
  axisCount_eq : ∀ index slot, frame.slot? index = some slot →
    slot.axisCount = (tenure? frame.capacity index calls).elim 0 (·.device.axisCount)
  isPadButtonDown_eq : ∀ index button, frame.isPadButtonDown index button =
    (tenure? frame.capacity index calls).any fun tenure =>
      button < tenure.device.buttonCount && tenure.isDown button
  isPadButtonUp_eq : ∀ index button, frame.isPadButtonUp index button =
    (tenure? frame.capacity index calls).any fun tenure =>
      button < tenure.device.buttonCount && !tenure.isDown button
  wasPadButtonPressed_eq : ∀ index button, frame.wasPadButtonPressed index button =
    (tenure? frame.capacity index calls).any fun tenure =>
      button < tenure.device.buttonCount && (tenure.isDown button && !tenure.wasDown button)
  wasPadButtonReleased_eq : ∀ index button, frame.wasPadButtonReleased index button =
    (tenure? frame.capacity index calls).any fun tenure =>
      button < tenure.device.buttonCount && (!tenure.isDown button && tenure.wasDown button)
  padAxis_eq : ∀ index axis, frame.padAxis index axis =
    (tenure? frame.capacity index calls).elim 0 fun tenure =>
      if axis < trackedAxes then tenure.axis axis else 0
  padAxisDelta_eq : ∀ index axis, frame.padAxisDelta index axis =
    (tenure? frame.capacity index calls).elim 0 fun tenure =>
      if axis < trackedAxes then (tenure.axis axis).sub (tenure.axisBefore axis) else 0

/-- The slot that is found at an index. -/
theorem eq_of_slot?_run {slots index : Nat} {calls : List Call} {slot : Slot}
    (found : ((atRest slots).run calls).slot? index = some slot) :
    slot = (tenure? (max slots 1) index calls).map (·.occupant) := by
  rw [slot?_run, Option.ite_none_right_eq_some, Option.some.injEq] at found
  exact found.2.symm

/-- Slots that hold a device are counted by their indices. -/
theorem connectedCount_run (slots : Nat) (calls : List Call) :
    ((atRest slots).run calls).connectedCount =
      (List.range (max slots 1)).countP fun index =>
        (tenure? (max slots 1) index calls).isSome := by
  have shown : ((atRest slots).run calls).slots.toList =
      (List.range (max slots 1)).map fun index =>
        (tenure? (max slots 1) index calls).map (·.occupant) := by
    apply List.ext_getElem?
    intro index
    have read : ((atRest slots).run calls).slots.toList[index]? =
        ((atRest slots).run calls).slot? index := by
      simp [slot?]
    rw [read, slot?_run, List.getElem?_map]
    split
    · rename_i inside
      rw [List.getElem?_range inside]
      rfl
    · rename_i past
      have outside : (List.range (max slots 1)).length ≤ index := by
        rw [List.length_range]
        exact Nat.le_of_not_lt past
      rw [List.getElem?_eq_none outside]
      rfl
  rw [connectedCount, shown, List.countP_map]
  congr 1
  funext index
  simp

/-- After any calls, a frame shows in its gamepad slots what the calls say. -/
theorem shows_history (slots : Nat) (calls : List Call) :
    ShowsHistory slots calls ((atRest slots).run calls) := by
  have capacity : ((atRest slots).run calls).capacity = max slots 1 := capacity_run _ _
  exact {
    capacity_eq := capacity
    slot?_eq := by
      intro index
      rw [capacity, slot?_run]
    slotFor_eq := fun device => rfl
    isConnected_eq := by
      intro index
      rw [capacity, isConnected, occupant?_run, Option.isSome_map]
    connectedCount_eq := by
      rw [capacity, connectedCount_run]
    device?_eq := by
      intro index slot found
      rw [capacity, eq_of_slot?_run found, Slot.device?, Option.map_map]
      rfl
    buttonCount_eq := by
      intro index slot found
      rw [capacity, eq_of_slot?_run found, Slot.buttonCount]
      cases tenure? (max slots 1) index calls with
      | none => rfl
      | some tenure => exact tenure.buttonCount_occupant
    axisCount_eq := by
      intro index slot found
      rw [capacity, eq_of_slot?_run found, Slot.axisCount]
      cases tenure? (max slots 1) index calls <;> rfl
    isPadButtonDown_eq := by
      intro index button
      rw [capacity, isPadButtonDown, padButton?_run, any_guarded]
    isPadButtonUp_eq := by
      intro index button
      rw [capacity, isPadButtonUp, padButton?_run, any_guarded]
    wasPadButtonPressed_eq := by
      intro index button
      rw [capacity, wasPadButtonPressed, padButton?_run, any_guarded]
    wasPadButtonReleased_eq := by
      intro index button
      rw [capacity, wasPadButtonReleased, padButton?_run, any_guarded]
    padAxis_eq := by
      intro index axis
      rw [capacity, padAxis, padAxis?_run, elim_guarded]
    padAxisDelta_eq := by
      intro index axis
      rw [capacity, padAxisDelta, padAxis?_run, elim_guarded] }

/-- The button was held by a pad that has lost its slot to another since. -/
example :
    let pad (id : DeviceId) : Device := { Device.atRest "Pad" 0 0 2 2 .unknown with id }
    let frame := (atRest 2).run [.hear ⟨pad 0, .attached⟩, .hear ⟨pad 0, .button 1 true⟩, .flush,
      .hear ⟨pad 2, .attached⟩, .hear ⟨pad 2, .button 0 true⟩, .hear ⟨pad 0, .removed⟩]
    frame.wasPadButtonReleased 0 1 = false ∧ frame.wasPadButtonPressed 0 0 = true := by
  decide +kernel

end GamepadInput.Frame
