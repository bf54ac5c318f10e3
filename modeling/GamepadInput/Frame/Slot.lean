import GamepadInput.Notice

/-!
# Gamepad slots

A slot shows one gamepad for one frame: its buttons and its first two axes as of the events heard
since the frame began, beside the values the frame before ended with.
-/

namespace GamepadInput

/-- Number of axes that a slot follows. -/
abbrev trackedAxes : Nat := 2

/-- Buttons and axes of a gamepad within one frame. -/
structure PadFrame where
  buttons : Array Bool
  axes : Vector Binary32 trackedAxes
  deriving DecidableEq, Repr

namespace PadFrame

def atRest (buttonCount : Nat) : PadFrame := ⟨.replicate buttonCount false, .replicate _ 0⟩

/-- Every button up and every axis at zero. -/
def cleared (frame : PadFrame) : PadFrame := atRest frame.buttons.size

/-- Input heard of the pad; what the pad does not have or a slot does not follow is ignored. -/
def apply (frame : PadFrame) : EventKind → PadFrame
  | .button index down => { frame with buttons := frame.buttons.setIfInBounds index down }
  | .axis change => { frame with axes := frame.axes.setIfInBounds change.axis change.value }
  | .attached | .removed => frame

end PadFrame

/-- The device in a slot. -/
structure Occupant where
  device : DeviceId
  axisCount : Nat
  current : PadFrame
  previous : PadFrame
  deriving DecidableEq, Repr

namespace Occupant

/-- A device that has just been attached. -/
def ofDevice (device : Device) : Occupant :=
  let frame := PadFrame.atRest device.buttonCount
  { device := device.id, axisCount := device.axisCount, current := frame, previous := frame }

def buttonCount (occupant : Occupant) : Nat := occupant.current.buttons.size

/-- The frame ends: what was current becomes previous, and nothing has been heard yet. -/
def flush (occupant : Occupant) : Occupant :=
  { occupant with previous := occupant.current, current := occupant.current.cleared }

/-- A button now and in the frame before; `none` if the pad has no such button. -/
def button? (occupant : Occupant) (index : Nat) : Option (Bool × Bool) := do
  pure (← occupant.current.buttons[index]?, ← occupant.previous.buttons[index]?)

/-- An axis now and in the frame before; `none` if the slot does not follow it. -/
def axis? (occupant : Occupant) (index : Nat) : Option (Binary32 × Binary32) := do
  pure (← occupant.current.axes[index]?, ← occupant.previous.axes[index]?)

end Occupant

/-- A slot is empty or holds a device. -/
abbrev Slot := Option Occupant

namespace Slot

def device? (slot : Slot) : Option DeviceId := slot.map (·.device)

def buttonCount (slot : Slot) : Nat := slot.elim 0 (·.buttonCount)

def axisCount (slot : Slot) : Nat := slot.elim 0 (·.axisCount)

/-- The slot without a device; another device stays. -/
def disconnect (slot : Slot) (device : DeviceId) : Slot :=
  slot.filter fun occupant => occupant.device ≠ device

/-- The slot that a device maps to, after a notice of the device.  An attach takes the slot over;
anything else counts only for the device that holds it. -/
def hear (slot : Slot) (notice : Notice) : Slot :=
  match notice.kind with
  | .attached => some (.ofDevice notice.device)
  | .removed => slot.disconnect notice.device.id
  | kind =>
    slot.map fun occupant =>
      if occupant.device = notice.device.id then
        { occupant with current := occupant.current.apply kind }
      else occupant

end Slot

end GamepadInput
