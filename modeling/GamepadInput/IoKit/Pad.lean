import GamepadInput.Buttons

/-!
# HID elements of a device

A device lists its elements; each that takes input feeds an axis, a hat or a button.  Elements are
told apart by their cookies.  The axes keep a range that grows, since devices send samples outside
the one they declare.
-/

namespace GamepadInput.IoKit

/-- Identity of a device within one machine. -/
abbrev DeviceRef := Nat

/-- An element as the device describes it. -/
structure Element where
  type : Nat
  usage : Nat
  cookie : Nat
  min : Int
  max : Int
  deriving DecidableEq, Repr

/-- What an element feeds. -/
inductive Role where
  | axis
  | hat
  | button
  deriving DecidableEq, Repr

namespace Element

/-- Types of input that is not a button: miscellaneous, and axes. -/
def axisTypes : List Nat := [1, 3]

def buttonType : Nat := 2

def hatUsage : Nat := 0x39

/-- Role of an element; outputs, features and collections have none. -/
def role? (element : Element) : Option Role :=
  if axisTypes.contains element.type then
    some (if element.usage = hatUsage then .hat else .axis)
  else if element.type = buttonType then some .button
  else none

end Element

/-- One value that came in from an element. -/
structure Sample where
  device : DeviceRef
  cookie : Nat
  /-- Number of bytes of the value. -/
  length : Int
  raw : Int
  deriving DecidableEq, Repr

/-- Longest value taken for an axis; some controllers send longer data under the cookie of one. -/
def longestAxisValue : Int := 4

/-- The backend's side of a device. -/
structure Pad where
  ref : DeviceRef
  layout : Axis.Layout
  /-- Cookies of the buttons, in the order of their numbers. -/
  buttons : List Nat
  pressed : Buttons
  deriving DecidableEq, Repr

namespace Pad

/-- Axis slots of the elements that feed one. -/
def layoutOf (elements : List Element) : Axis.Layout :=
  elements.foldl
    (fun layout element =>
      match element.role? with
      | some .axis => layout.pushLinear element.cookie (.growing element.min element.max)
      | some .hat => layout.pushHat element.cookie element.min element.max
      | _ => layout)
    .empty

/-- Cookies of the elements that are buttons. -/
def buttonsOf (elements : List Element) : List Nat :=
  (elements.filter fun element => element.role? = some .button).map (·.cookie)

/-- A device at rest; `none` if no element takes input. -/
def ofElements? (ref : DeviceRef) (elements : List Element) : Option Pad :=
  let layout := layoutOf elements
  let buttons := buttonsOf elements
  if layout.size = 0 && buttons.isEmpty then none
  else some ⟨ref, layout, buttons, .atRest buttons.length⟩

/-- Takes a button value: any but zero is down. -/
def press (pad : Pad) (button : Nat) (down : Bool) : Pad × List EventKind :=
  let (pressed, kinds) := pad.pressed.press button down
  ({ pad with pressed }, kinds)

/-- Takes a sample and reports what changed.  A cookie of an axis is not looked up among the
buttons. -/
def update (pad : Pad) (sample : Sample) : Except Overflow (Pad × List EventKind) :=
  match pad.layout.find? sample.cookie with
  | some axis =>
    if longestAxisValue < sample.length then .ok (pad, [])
    else do
      let (layout, changes) ← pad.layout.feed axis sample.raw
      pure ({ pad with layout }, changes.map .axis)
  | none =>
    match pad.buttons.idxOf? sample.cookie with
    | some button => .ok (pad.press button (sample.raw != 0))
    | none => .ok (pad, [])

end Pad

end GamepadInput.IoKit
