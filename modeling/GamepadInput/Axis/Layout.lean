import GamepadInput.Axis.Range

/-!
# Axis slots of one device

A layout lists what feeds each axis slot of a device and the last value of every slot.  A raw
sample is fed to a slot and becomes the list of slots it changed.

What feeds a slot and what it holds stand in one entry of one array.  Kept in two arrays, one beside
the other, they would have to be shown to be of one length; here that is so by construction.
-/

namespace GamepadInput.Axis

/-- How a slot is fed. -/
inductive Source where
  | linear (range : Range)
  /-- First slot of a hat whose positions are `min` to `max`; it feeds the next slot too. -/
  | hat (min max : Int)
  /-- Second slot of a hat, never fed by itself. -/
  | hatSecond
  deriving DecidableEq, Repr

/-- One axis slot: the native control behind it and the last value reported. -/
structure Slot where
  /-- Native identity of the control. -/
  cookie : Nat
  source : Source
  value : Binary32
  deriving DecidableEq, Repr

/-- A slot whose value changed. -/
structure Change where
  axis : Nat
  value : Binary32
  last : Binary32
  deriving DecidableEq, Repr

/-- The axis slots of a device, in order. -/
structure Layout where
  slots : Array Slot
  deriving DecidableEq, Repr

namespace Layout

def empty : Layout := ⟨#[]⟩

/-- Number of slots; a hat counts twice. -/
def size (layout : Layout) : Nat := layout.slots.size

def values (layout : Layout) : Array Binary32 := layout.slots.map (·.value)

def pushLinear (layout : Layout) (cookie : Nat) (range : Range) : Layout :=
  ⟨layout.slots.push ⟨cookie, .linear range, 0⟩⟩

def pushHat (layout : Layout) (cookie : Nat) (min max : Int) : Layout :=
  ⟨(layout.slots.push ⟨cookie, .hat min max, 0⟩).push ⟨cookie, .hatSecond, 0⟩⟩

/-- First slot of the control `cookie`. -/
def find? (layout : Layout) (cookie : Nat) : Option Nat :=
  layout.slots.findIdx? fun slot => slot.cookie = cookie && slot.source != .hatSecond

/-- Stores `value` in a slot and reports the change, if the slot exists and holds another number. -/
def set (layout : Layout) (axis : Nat) (value : Binary32) : Layout × List Change :=
  match layout.slots[axis]? with
  | none => (layout, [])
  | some slot =>
    if slot.value.equals value then (layout, [])
    else (⟨layout.slots.setIfInBounds axis { slot with value }⟩, [⟨axis, value, slot.value⟩])

/-- Stores the range of a linear slot. -/
def setRange (layout : Layout) (axis : Nat) (range : Range) : Layout :=
  ⟨layout.slots.modify axis fun slot => { slot with source := .linear range }⟩

/-- Direction of a raw hat sample whose positions are `min` to `max`. -/
def hatSample (min max raw : Int) : Except Overflow Direction := do
  let position ← checkedSub 64 raw min
  let extent ← checkedSub 64 max min
  let positions ← checkedAdd 64 extent 1
  pure (hatDirection position positions)

/-- Feeds one raw sample into a slot.  The changes come in slot order. -/
def feed (layout : Layout) (axis : Nat) (raw : Int) : Except Overflow (Layout × List Change) :=
  match layout.slots[axis]? with
  | none => .ok (layout, [])
  | some slot =>
    match slot.source with
    | .linear range => do
      let (range, value) := range.observe raw
      pure ((layout.setRange axis range).set axis (← value))
    | .hat min max => do
      let (x, y) ← hatSample min max raw
      let (layout, first) := layout.set axis x
      let (layout, second) := layout.set (axis + 1) y
      pure (layout, first ++ second)
    | .hatSecond => .ok (layout, [])

/-- Sets a slot to a value that is already normalized, brought between minus one and one. -/
def setNormalized (layout : Layout) (axis : Nat) (value : Binary32) : Layout × Option Change :=
  let (layout, changes) := layout.set axis (unitClamp value)
  (layout, changes.head?)

@[simp] theorem size_pushLinear (layout : Layout) (cookie : Nat) (range : Range) :
    (layout.pushLinear cookie range).size = layout.size + 1 := by
  simp [size, pushLinear]

@[simp] theorem size_pushHat (layout : Layout) (cookie : Nat) (min max : Int) :
    (layout.pushHat cookie min max).size = layout.size + 2 := by
  simp [size, pushHat]

theorem size_set (layout : Layout) (axis : Nat) (value : Binary32) :
    (layout.set axis value).1.size = layout.size := by
  unfold set
  split
  · rfl
  · split <;> simp [size]

end Layout

end GamepadInput.Axis
