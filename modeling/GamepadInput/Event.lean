import GamepadInput.Axis.Layout
import GamepadInput.Device

/-!
# Device events

A backend describes every change of a device as an event and queues it; the event takes effect on
the device record when it is dispatched.

The time at which an event was queued is left out.  It is read off a clock and passed on to the
listener of a button or an axis, and nothing that is done or answered depends on it.
-/

namespace GamepadInput

/-- What changed on a device. -/
inductive EventKind where
  /-- The device joined; it is announced before any input of it. -/
  | attached
  /-- The device left; nothing of it follows. -/
  | removed
  /-- A button went down or up. -/
  | button (index : Nat) (down : Bool)
  /-- An axis moved. -/
  | axis (change : Axis.Change)
  deriving DecidableEq, Repr

/-- A change of one device, waiting for dispatch.  Events carry no time here. -/
structure Event where
  device : DeviceId
  kind : EventKind
  deriving DecidableEq, Repr

namespace EventKind

/-- A button or an axis changed. -/
def isInput : EventKind → Bool
  | .button .. | .axis _ => true
  | .attached | .removed => false

end EventKind

namespace Event

def attached (device : DeviceId) : Event := ⟨device, .attached⟩

def removed (device : DeviceId) : Event := ⟨device, .removed⟩

end Event

namespace Device

/-- The record after a change.  An index the device does not have changes nothing. -/
def apply (device : Device) : EventKind → Device
  | .button index down => device.setButton index down
  | .axis change => device.setAxis change.axis change.value
  | .attached | .removed => device

/-- The record after changes in order. -/
def replay (device : Device) (kinds : List EventKind) : Device := kinds.foldl apply device

@[simp] theorem id_apply (device : Device) (kind : EventKind) :
    (device.apply kind).id = device.id := by
  cases kind <;> rfl

@[simp] theorem axisCount_apply (device : Device) (kind : EventKind) :
    (device.apply kind).axisCount = device.axisCount := by
  cases kind <;> simp [apply, axisCount, setAxis, setButton]

@[simp] theorem buttonCount_apply (device : Device) (kind : EventKind) :
    (device.apply kind).buttonCount = device.buttonCount := by
  cases kind <;> simp [apply, buttonCount, setAxis, setButton]

theorem replay_append (device : Device) (first second : List EventKind) :
    device.replay (first ++ second) = (device.replay first).replay second := by
  simp [replay]

end Device

end GamepadInput
