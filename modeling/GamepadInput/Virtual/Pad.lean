import GamepadInput.Axis.Layout

/-!
# Virtual pads

The make-up of a controller that the host itself plays.
-/

namespace GamepadInput

/-- Name, numbers and controls of a virtual controller. -/
structure VirtualPad where
  name : String
  vendor : Nat
  product : Nat
  layout : Axis.Layout
  buttonCount : Nat
  deriving DecidableEq, Repr

namespace VirtualPad

/-- A pad without controls. -/
def named (name : String) : VirtualPad := ⟨name, 0, 0, .empty, 0⟩

def ids (pad : VirtualPad) (vendor product : Nat) : VirtualPad := { pad with vendor, product }

def buttons (pad : VirtualPad) (count : Nat) : VirtualPad := { pad with buttonCount := count }

/-- Adds an axis with a fixed range. -/
def axis (pad : VirtualPad) (min max : Int) : VirtualPad :=
  { pad with layout := pad.layout.pushLinear pad.layout.size (.declared min max) }

/-- Adds an axis whose range grows with its samples. -/
def calibratingAxis (pad : VirtualPad) (min max : Int) : VirtualPad :=
  { pad with layout := pad.layout.pushLinear pad.layout.size (.growing min max) }

/-- Adds a hat with positions `min` to `max`; it takes two axes. -/
def hat (pad : VirtualPad) (min max : Int) : VirtualPad :=
  { pad with layout := pad.layout.pushHat pad.layout.size min max }

/-- The pads that can be put together. -/
inductive Made : VirtualPad → Prop where
  | named (name : String) : Made (named name)
  | ids {pad : VirtualPad} (vendor product : Nat) : Made pad → Made (pad.ids vendor product)
  | buttons {pad : VirtualPad} (count : Nat) : Made pad → Made (pad.buttons count)
  | axis {pad : VirtualPad} (min max : Int) : Made pad → Made (pad.axis min max)
  | calibratingAxis {pad : VirtualPad} (min max : Int) :
      Made pad → Made (pad.calibratingAxis min max)
  | hat {pad : VirtualPad} (min max : Int) : Made pad → Made (pad.hat min max)

/-- A pad starts with every axis at zero. -/
theorem Made.values_layout {pad : VirtualPad} (made : pad.Made) :
    pad.layout.values = .replicate pad.layout.size 0 := by
  induction made with
  | named name => simp [VirtualPad.named, Axis.Layout.empty, Axis.Layout.values, Axis.Layout.size]
  | ids vendor product _ ih => exact ih
  | buttons count _ ih => exact ih
  | axis min max _ ih | calibratingAxis min max _ ih =>
    simp only [Axis.Layout.values, Axis.Layout.size] at ih
    simp [VirtualPad.axis, VirtualPad.calibratingAxis, Axis.Layout.pushLinear, Axis.Layout.values,
      Axis.Layout.size, ih, Array.replicate_succ]
  | hat min max _ ih =>
    simp only [Axis.Layout.values, Axis.Layout.size] at ih
    simp [VirtualPad.hat, Axis.Layout.pushHat, Axis.Layout.values, Axis.Layout.size, ih,
      Array.replicate_succ]

end VirtualPad

end GamepadInput
