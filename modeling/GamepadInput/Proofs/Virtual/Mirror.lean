import GamepadInput.Proofs.Virtual.Course

/-!
# Two records of one pad

The host's side of a pad knows its state as of the last call, the device record knows it as of the
last delivery.  What lies between them is exactly what waits in the queue, and all that was ever
reported of the pad reads as one history that starts at rest.
-/

namespace GamepadInput.VirtualBackend

open Device

variable {id : DeviceId} {standing : Standing VirtualPadState} {heard : List Notice}
  {accepted : List EventKind} {entry : Entry VirtualPadState}

/-- How the events of a live pad, those that were heard and those that wait, relate its record to
the state that the host's side keeps. -/
structure Mirrored (entry : Entry VirtualPadState) (heard waiting : List EventKind) : Prop where
  axes_eq : (entry.device.replay waiting).axes = entry.data.layout.values
  buttons_eq : (entry.device.replay waiting).buttons = entry.data.buttons
  /-- A change of an axis starts where the one before it ended, the first at zero. -/
  last_eq : ∀ axis, (changesOf (heard ++ waiting) axis).map (·.last) =
    (0 :: (changesOf (heard ++ waiting) axis).map (·.value)).dropLast
  axis_lt : ∀ change, .axis change ∈ heard ++ waiting → change.axis < entry.device.axisCount
  button_lt : ∀ index down, .button index down ∈ heard ++ waiting →
    index < entry.device.buttonCount
  /-- The edges of a button are down, up, down, and so on. -/
  alternate : ∀ button place down, (edgesOf (heard ++ waiting) button)[place]? = some down →
    (down = true ↔ place % 2 = 0)

/-- The events of a live pad that were heard or wait are those that were accepted, its attach and
its removal aside. -/
theorem Course.accepted_eq {announced : Bool} {queue : List EventKind}
    (course : Course (.present entry announced queue) heard accepted) :
    (heard.map (·.kind) ++ queue).filter (·.isInput) = accepted := by
  cases course with
  | @present start state announced delivered waiting rest quiet admitted mirrors =>
    have all : (delivered ++ waiting).filter (·.isInput) = delivered ++ waiting :=
      List.filter_eq_self.mpr admitted.isInput
    have closes : (closing state).filter (·.isInput) = [] := by
      unfold closing
      split <;> rfl
    have told : ((if announced then start.hears (.attached :: delivered) else []).map
        (·.kind)).filter (·.isInput) = delivered.filter (·.isInput) := by
      cases announced with
      | true => simp [EventKind.isInput]
      | false =>
        rw [quiet rfl]
        rfl
    rw [← List.append_assoc, List.filter_append, List.filter_append, told, closes, List.append_nil,
      ← List.filter_append]
    exact all

theorem replay_closing (device : Device) (state : VirtualPadState) :
    device.replay (closing state) = device := by
  unfold closing
  split <;> rfl

theorem Course.mirrored {announced : Bool} {queue : List EventKind}
    (course : Course (.present entry announced queue) heard accepted) :
    Mirrored entry (heard.map (·.kind)) queue := by
  have inputs := course.accepted_eq
  generalize heard.map (·.kind) = told at inputs ⊢
  cases course with
  | @present start state announced delivered waiting rest quiet admitted mirrors =>
    have same : (start.replay delivered).replay (waiting ++ closing state) =
        start.replay (delivered ++ waiting) := by
      rw [Device.replay_append, replay_closing, Device.replay_append]
    have member {kind : EventKind} (told : kind ∈ told ++ (waiting ++ closing state))
        (isInput : kind.isInput = true) : kind ∈ delivered ++ waiting := by
      rw [← inputs]
      exact List.mem_filter.mpr ⟨told, isInput⟩
    refine ⟨?_, ?_, ?_, ?_, ?_, ?_⟩
    · rw [same]
      exact mirrors.axes_eq
    · rw [same]
      exact mirrors.buttons_eq
    · intro axis
      rw [← changesOf_inputs, inputs]
      exact admitted.last_eq_of_rest rest axis
    · intro change told
      simpa using admitted.index_lt.1 change (member told rfl)
    · intro index down told
      simpa using admitted.index_lt.2 index down (member told rfl)
    · intro button place down edge
      rw [← edgesOf_inputs, inputs] at edge
      exact admitted.alternate_of_rest rest edge

/-- In every state that a run reaches, the waiting events of a live pad lead from its record to the
state of the host's side. -/
theorem live_mirrored {calls : List Call}
    (live : (empty.run calls).backend.hub.registry.get? id = some entry) :
    Mirrored entry ((empty.run calls).heard id)
      (kindsOf (empty.run calls).backend.hub.inputEvents.events id) := by
  obtain ⟨standing, reaches⟩ := exists_reaches calls id
  rw [reaches.stands.get?_eq] at live
  rw [reaches.stands.queued_eq]
  cases standing with
  | absent | unplugged | gone => cases live
  | present here announced queue =>
    cases live
    exact reaches.course.mirrored

/-- A pad with one button that was pressed and waits to be announced. -/
def pressedOnce : List Call :=
  [.attach ((VirtualPad.named "Pad").buttons 1) (.buttons 1 (.named "Pad")), .press 0 0]

theorem live_mirrored_pressedOnce :
    ∃ entry, (empty.run pressedOnce).backend.hub.registry.get? 0 = some entry ∧
      kindsOf (empty.run pressedOnce).backend.hub.inputEvents.events 0 = [.button 0 true] ∧
      Mirrored entry ((empty.run pressedOnce).heard 0)
        (kindsOf (empty.run pressedOnce).backend.hub.inputEvents.events 0) :=
  ⟨_, rfl, rfl, live_mirrored rfl⟩

end GamepadInput.VirtualBackend
