import GamepadInput.Combo
import GamepadInput.Frame.Slot
import GamepadInput.Frame.Snapshot

/-!
# Frame state

A frame holds the keyboard, mouse and gamepad state that a host reads between two flushes, beside
that of the frame before.  Keys, mouse buttons and the cursor survive a flush; the wheel and the
gamepad slots start again, so gamepad state reflects only what was heard since the last flush.

Queries only read.  A key that is not tracked, an empty slot, and an index out of range read as
released or zero.
-/

namespace GamepadInput

structure Frame where
  current : Snapshot
  previous : Snapshot
  /-- Number of gamepad slots. -/
  capacity : Nat
  capacity_pos : 0 < capacity
  slots : Vector Slot capacity

namespace Frame

/-- Number of slots of a host that asks for none in particular. -/
def defaultCapacity : Nat := 4

/-- A frame at rest with the slots asked for, at least one. -/
def atRest (slots : Nat) : Frame where
  current := .atRest
  previous := .atRest
  capacity := max slots 1
  capacity_pos := by omega
  slots := .replicate _ none

instance : Inhabited Frame := ⟨atRest defaultCapacity⟩

/-- Records one host event. -/
def handle (frame : Frame) (event : HostEvent) : Frame :=
  { frame with current := frame.current.apply event }

/-- The frame ends. -/
def flush (frame : Frame) : Frame :=
  { frame with
    previous := frame.current
    current := { frame.current with scroll := (0, 0) }
    slots := frame.slots.map (·.map Occupant.flush) }

/-! ## Keyboard -/

def isKeyDown (frame : Frame) (key : Key) : Bool := frame.current.key key

/-- Down now and up at the last flush. -/
def wasKeyPressed (frame : Frame) (key : Key) : Bool :=
  frame.current.key key && !frame.previous.key key

/-- Up now and down at the last flush. -/
def wasKeyReleased (frame : Frame) (key : Key) : Bool :=
  !frame.current.key key && frame.previous.key key

def allKeysDown (frame : Frame) (keys : List Key) : Bool := keys.all frame.isKeyDown

def anyKeyDown (frame : Frame) (keys : List Key) : Bool := keys.any frame.isKeyDown

/-! ## Mouse -/

def isButtonDown (frame : Frame) (button : MouseButton) : Bool := frame.current.button button

def wasButtonPressed (frame : Frame) (button : MouseButton) : Bool :=
  frame.current.button button && !frame.previous.button button

def wasButtonReleased (frame : Frame) (button : MouseButton) : Bool :=
  !frame.current.button button && frame.previous.button button

def allButtonsDown (frame : Frame) (buttons : List MouseButton) : Bool :=
  buttons.all frame.isButtonDown

def anyButtonDown (frame : Frame) (buttons : List MouseButton) : Bool :=
  buttons.any frame.isButtonDown

def cursor (frame : Frame) : Int × Int := frame.current.cursor

/-- How far the cursor moved since the last flush; positions are signed words of 32 bits, and so
is the distance. -/
def cursorDelta (frame : Frame) : Except Overflow (Int × Int) := do
  let dx ← checkedSub 32 frame.current.cursor.1 frame.previous.cursor.1
  let dy ← checkedSub 32 frame.current.cursor.2 frame.previous.cursor.2
  pure (dx, dy)

def hasMouseMove (frame : Frame) : Except Overflow Bool :=
  return (← frame.cursorDelta) ≠ (0, 0)

/-- Sum of the wheel movements since the last flush. -/
def scroll (frame : Frame) : Binary32 × Binary32 := frame.current.scroll

def scrolled (frame : Frame) : Bool :=
  !(frame.current.scroll.1.equals 0 && frame.current.scroll.2.equals 0)

/-! ## Modifiers and combinations -/

/-- Every bit of `mask` is held. -/
def modifiersDown (frame : Frame) (mask : Modifiers) : Bool :=
  frame.current.modifiers.contains mask

/-- The held modifiers are exactly `mask`. -/
def modifiersEqual (frame : Frame) (mask : Modifiers) : Bool := frame.current.modifiers = mask

/-- The modifiers, if any are asked for, are held exactly and every key is down.  Asking for
nothing is never met. -/
def isDown (frame : Frame) (modifiers : Modifiers) (keys : List Key) : Bool :=
  if modifiers = .none && keys.isEmpty then false
  else (modifiers = .none || frame.modifiersEqual modifiers) && frame.allKeysDown keys

def isComboDown (frame : Frame) (combo : Combo) : Bool := frame.isDown combo.modifiers combo.keys

/-- The combination that `text` names is down; a text that names none never is. -/
def isTextDown (frame : Frame) (text : String) : Bool :=
  match Combo.parse text with
  | .ok combo => frame.isComboDown combo
  | .error _ => false

/-! ## Gamepads -/

/-- The slot that a device maps to. -/
def slotFor (frame : Frame) (device : DeviceId) : Fin frame.capacity :=
  ⟨device % frame.capacity, Nat.mod_lt _ frame.capacity_pos⟩

/-- The slot at an index; `none` past the last one. -/
def slot? (frame : Frame) (index : Nat) : Option Slot := frame.slots[index]?

/-- The device in the slot at an index. -/
def occupant? (frame : Frame) (index : Nat) : Option Occupant := (frame.slot? index).join

def isConnected (frame : Frame) (index : Nat) : Bool := (frame.occupant? index).isSome

/-- Number of slots that hold a device. -/
def connectedCount (frame : Frame) : Nat := frame.slots.toList.countP (·.isSome)

/-- Changes the slot that a device maps to. -/
def modifySlotOf (frame : Frame) (device : DeviceId) (f : Slot → Slot) : Frame :=
  let index := frame.slotFor device
  { frame with slots := frame.slots.set index (f frame.slots[index]) }

/-- Hears of a device. -/
def hear (frame : Frame) (notice : Notice) : Frame :=
  frame.modifySlotOf notice.device.id (·.hear notice)

def hearAll (frame : Frame) (notices : List Notice) : Frame := notices.foldl hear frame

/-- A frame calls nobody.  It reads neither the last value of an axis nor the name of a pad. -/
instance {τ : Type} : Listener τ Frame where
  attached frame device := (frame.hear ⟨device, .attached⟩, [])
  removed frame device := (frame.hear ⟨device, .removed⟩, [])
  buttonDown frame device button := (frame.hear ⟨device, .button button true⟩, [])
  buttonUp frame device button := (frame.hear ⟨device, .button button false⟩, [])
  axisMoved frame device axis value last := (frame.hear ⟨device, .axis ⟨axis, value, last⟩⟩, [])

theorem hear_eq {τ : Type} (frame : Frame) (notice : Notice) :
    Listener.hear (τ := τ) frame notice = (frame.hear notice, []) := by
  obtain ⟨device, kind⟩ := notice
  cases kind with
  | button index down => cases down <;> rfl
  | attached | removed | axis => rfl

/-- Empties the slot at an index.  Its device is not heard of again until it is attached anew. -/
def disconnect (frame : Frame) (index : Nat) : Frame :=
  { frame with slots := frame.slots.setIfInBounds index none }

/-- Empties the slot of a device, if the device holds it. -/
def disconnectDevice (frame : Frame) (device : DeviceId) : Frame :=
  frame.modifySlotOf device (·.disconnect device)

/-- Empties every slot. -/
def disconnectAll (frame : Frame) : Frame := { frame with slots := .replicate _ none }

/-- A gamepad button now and in the frame before. -/
def padButton? (frame : Frame) (index button : Nat) : Option (Bool × Bool) := do
  (← frame.occupant? index).button? button

/-- A gamepad axis now and in the frame before. -/
def padAxis? (frame : Frame) (index axis : Nat) : Option (Binary32 × Binary32) := do
  (← frame.occupant? index).axis? axis

def isPadButtonDown (frame : Frame) (index button : Nat) : Bool :=
  (frame.padButton? index button).any fun (now, _) => now

/-- The pad has the button and it is up. -/
def isPadButtonUp (frame : Frame) (index button : Nat) : Bool :=
  (frame.padButton? index button).any fun (now, _) => !now

def wasPadButtonPressed (frame : Frame) (index button : Nat) : Bool :=
  (frame.padButton? index button).any fun (now, before) => now && !before

def wasPadButtonReleased (frame : Frame) (index button : Nat) : Bool :=
  (frame.padButton? index button).any fun (now, before) => !now && before

/-- Value of an axis that the slot follows. -/
def padAxis (frame : Frame) (index axis : Nat) : Binary32 :=
  (frame.padAxis? index axis).elim 0 fun (now, _) => now

/-- Change of an axis that the slot follows. -/
def padAxisDelta (frame : Frame) (index axis : Nat) : Binary32 :=
  (frame.padAxis? index axis).elim 0 fun (now, before) => now.sub before

end Frame

end GamepadInput
