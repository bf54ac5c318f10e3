import GamepadInput.Evdev.Decoder
import GamepadInput.Text.Blank
import GamepadInput.Text.Utf8

/-!
# What an evdev node is

A node answers queries about itself.  It is a game controller if it has keys and absolute axes,
both axes of a stick, and a button that only joysticks and gamepads have.
-/

namespace GamepadInput.Evdev

/-- How a node answers queries; an answer is absent where the query fails. -/
structure Answers where
  kinds? : Option (CodeSet kindBits)
  keys? : Option (CodeSet keyBits)
  axes? : Option (CodeSet axisBits)
  /-- Ranges of the axis codes for which the query succeeds. -/
  ranges : List CodeRange
  name? : Option (List UInt8)
  /-- Vendor and product number. -/
  ids? : Option (Nat × Nat)
  deriving DecidableEq, Repr

namespace Answers

/-- A file that answers no query. -/
def none : Answers := ⟨.none, .none, .none, [], .none, .none⟩

end Answers

/-- First button of a joystick, button A of a gamepad, and the second button of a plain device: a
game controller has one of them. -/
def controllerButtons : List Nat := [0x120, 0x130, 0x101]

def axisX : Nat := 0x00

def axisY : Nat := 0x01

def isController (kinds : CodeSet kindBits) (keys : CodeSet keyBits) (axes : CodeSet axisBits) :
    Bool :=
  kinds.has keyKind && kinds.has axisKind && axes.has axisX && axes.has axisY &&
    controllerButtons.any keys.has

/-- Room for a name, in bytes. -/
def nameRoom : Nat := 128

/-- Text of a name: up to the first zero byte, without white space at its ends; `none` if nothing
is left. -/
def nameText? (bytes : List UInt8) : Option String :=
  let text := Text.trimBlank (Text.Utf8.decode ((bytes.take nameRoom).takeWhile (· != 0)))
  if text.isEmpty then none else some text

/-- Answered ranges of the axes that a node has, by ascending code. -/
def rangesOf (axes : CodeSet axisBits) (ranges : List CodeRange) : List CodeRange :=
  ((List.range axisBits).filter axes.has).filterMap fun code => ranges.find? (·.code = code)

/-- A controller as its node describes it. -/
structure Profile where
  name? : Option String
  vendor : Nat
  product : Nat
  decoder : Decoder
  deriving DecidableEq, Repr

namespace Profile

/-- Reads the answers of a node; `none` if it is no game controller or has no axis with a range. -/
def ofAnswers? (answers : Answers) : Option Profile := do
  let kinds ← answers.kinds?
  let keys ← answers.keys?
  let axes ← answers.axes?
  guard (isController kinds keys axes)
  let decoder := Decoder.ofControls keys (rangesOf axes answers.ranges)
  guard (decoder.axisCount != 0)
  let (vendor, product) := answers.ids?.getD (0, 0)
  pure ⟨answers.name?.bind nameText?, vendor, product, decoder⟩

/-- The device to be shown for the controller at a path, which stands in for a missing name. -/
def device (profile : Profile) (path : String) : Device :=
  .atRest (profile.name?.getD path) profile.vendor profile.product profile.decoder.axisCount
    profile.decoder.buttonCount (.located "evdev" path)

end Profile

end GamepadInput.Evdev
