import GamepadInput.Event

/-!
# Standard gamepads

A standard gamepad sits in one of four slots and has a fixed make-up: two sticks and two triggers
on six axes, and fifteen buttons.  Each poll takes a sample of the slot.
-/

namespace GamepadInput.XInput

def slotCount : Nat := 4

def axisCount : Nat := 6

/-- Bits of the buttons, in the order of their numbers: direction pad up, down, left and right;
start and back; left and right stick; left and right shoulder; A, B, X and Y; guide. -/
def buttonMasks : List (BitVec 16) :=
  [0x0001, 0x0002, 0x0004, 0x0008, 0x0010, 0x0020, 0x0040, 0x0080, 0x0100, 0x0200,
   0x1000, 0x2000, 0x4000, 0x8000, 0x0400]

def buttonCount : Nat := buttonMasks.length

/-- Only the extended query shows the guide button. -/
def guideMask : BitVec 16 := 0x0400

/-- The state of a slot at one instant. -/
structure Sample where
  buttons : BitVec 16
  leftTrigger : Nat
  rightTrigger : Nat
  leftX : Int
  leftY : Int
  rightX : Int
  rightY : Int
  deriving DecidableEq, Repr

namespace Sample

def isDown (sample : Sample) (mask : BitVec 16) : Bool := sample.buttons &&& mask != 0

/-- Half the range of a trigger. -/
def triggerHalf : Binary64 := (Binary.ofInt 255).div (Binary.ofInt 2)

def stick (value : Int) : Except Overflow Binary32 := Axis.linear value (-32768) 32767

def trigger (value : Nat) : Binary32 := Axis.halfRange (Binary.ofInt value) triggerHalf

/-- Normalized values in the order of the axes. -/
def axes (sample : Sample) : Except Overflow (List Binary32) := do
  let leftX ← stick sample.leftX
  let leftY ← stick sample.leftY
  let rightX ← stick sample.rightX
  let rightY ← stick sample.rightY
  pure [leftX, leftY, rightX, rightY, trigger sample.leftTrigger, trigger sample.rightTrigger]

/-- The sample without the guide button. -/
def withoutGuide (sample : Sample) : Sample :=
  { sample with buttons := sample.buttons &&& ~~~guideMask }

end Sample

/-- A gamepad in its slot, as of its last sample. -/
structure Pad where
  slot : Nat
  buttons : BitVec 16
  axes : List Binary32
  /-- A sample has been taken. -/
  sampled : Bool
  deriving DecidableEq, Repr

namespace Pad

/-- A gamepad that has not been sampled: every button up and every axis at zero. -/
def atRest (slot : Nat) : Pad := ⟨slot, 0, List.replicate axisCount 0, false⟩

/-- Buttons whose state differs between two masks, numbered from `index`. -/
def buttonChanges (before after : BitVec 16) (index : Nat) : List (BitVec 16) → List EventKind
  | [] => []
  | mask :: rest =>
    let others := buttonChanges before after (index + 1) rest
    if (before ^^^ after) &&& mask = 0 then others
    else .button index (after &&& mask != 0) :: others

/-- Axes whose number differs between two lists of values, numbered from `index`. -/
def axisChanges (index : Nat) : (before after : List Binary32) → List EventKind
  | last :: before, value :: after =>
    let others := axisChanges (index + 1) before after
    if value.equals last then others else .axis ⟨index, value, last⟩ :: others
  | _, _ => []

/-- Takes a sample and reports what changed, buttons first. -/
def update (pad : Pad) (sample : Sample) : Except Overflow (Pad × List EventKind) := do
  let axes ← sample.axes
  pure ({ pad with buttons := sample.buttons, axes, sampled := true },
    buttonChanges pad.buttons sample.buttons 0 buttonMasks ++ axisChanges 0 pad.axes axes)

end Pad

/-- The device that stands for a slot; slots are counted from one in its name. -/
def device (slot : Nat) : Device :=
  .atRest ("XInput Controller " ++ toString (slot + 1)) 0x045E 0x028E axisCount buttonCount
    (.located "xinput" ("xinput:" ++ toString slot))

end GamepadInput.XInput
