import GamepadInput.Binary
import GamepadInput.Text.Digits

/-!
# Controllers

A device is what a host sees of a connected controller: who made it, and the state of its axes and
buttons as of the events delivered so far.  The number of axes and buttons never changes.
-/

namespace GamepadInput

/-- Number of a device within one session; numbers are not used twice.  They are words of 32 bits,
which are enough for a registry that fewer than 4294967295 devices are inserted in
(`Registry.numbers_fit`). -/
abbrev DeviceId := Nat

/-- What the backend knows beyond the controls.  A detail it does not know is absent. -/
structure Metadata where
  /-- Subsystem that found the device. -/
  bus : Option String
  serialNumber : Option String
  usagePage : Option Nat
  usage : Option Nat
  /-- Node, interface or slot the device was opened at. -/
  path : Option String
  deriving DecidableEq, Repr

namespace Metadata

def unknown : Metadata := ⟨none, none, none, none, none⟩

/-- Only the subsystem and the path are known. -/
def located (bus path : String) : Metadata := { unknown with bus := some bus, path := some path }

/-- Usage pages and usages are words of this many values. -/
def usageCount : Nat := 0x10000

end Metadata

structure Device where
  id : DeviceId
  name : String
  /-- Vendor number, zero when unknown. -/
  vendor : Nat
  /-- Product number, zero when unknown. -/
  product : Nat
  axes : Array Binary32
  buttons : Array Bool
  metadata : Metadata
  deriving DecidableEq, Repr

namespace Device

/-- A device at rest, not numbered yet. -/
def atRest (name : String) (vendor product axisCount buttonCount : Nat) (metadata : Metadata) :
    Device :=
  { id := 0, name, vendor, product, metadata
    axes := .replicate axisCount 0
    buttons := .replicate buttonCount false }

def axisCount (device : Device) : Nat := device.axes.size

def buttonCount (device : Device) : Nat := device.buttons.size

/-- State of an axis; zero when there is no such axis. -/
def axis (device : Device) (index : Nat) : Binary32 := (device.axes[index]?).getD 0

/-- State of a button; up when there is no such button. -/
def button (device : Device) (index : Nat) : Bool := (device.buttons[index]?).getD false

/-- Name with the vendor and product numbers. -/
def description (device : Device) : String :=
  device.name ++ " (" ++ Text.hex 4 device.vendor ++ ":" ++ Text.hex 4 device.product ++ ")"

def setAxis (device : Device) (index : Nat) (value : Binary32) : Device :=
  { device with axes := device.axes.setIfInBounds index value }

def setButton (device : Device) (index : Nat) (down : Bool) : Device :=
  { device with buttons := device.buttons.setIfInBounds index down }

@[simp] theorem axisCount_setAxis (device : Device) (index : Nat) (value : Binary32) :
    (device.setAxis index value).axisCount = device.axisCount := by
  simp [setAxis, axisCount]

@[simp] theorem buttonCount_setButton (device : Device) (index : Nat) (down : Bool) :
    (device.setButton index down).buttonCount = device.buttonCount := by
  simp [setButton, buttonCount]

end Device

end GamepadInput
