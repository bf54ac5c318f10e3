import GamepadInput.Binary.Decimal
import GamepadInput.Input
import GamepadInput.Metadata

/-!
# Showing gamepads as text

A listing shows each device with its metadata.  A monitor shows the devices there at the start and
then, for each frame, one line for every slot in which something changed.
-/

namespace GamepadInput.Monitor

/-- A device on one line. -/
def deviceLine (device : Device) : String :=
  "#" ++ toString device.id ++ " " ++ device.description ++
    " axes=" ++ toString device.axisCount ++ " buttons=" ++ toString device.buttonCount

/-- Every device with its metadata; the metadata of a device is one text of several lines. -/
def listing (devices : List Device) : List String :=
  ("Discovered " ++ toString devices.length ++ " device(s)") ::
    devices.flatMap fun device =>
      ["== " ++ deviceLine device ++ " ==", device.metadata.toJson.pretty 0]

/-- The devices there at the start. -/
def startup (devices : List Device) : List String :=
  (toString devices.length ++ " gamepad(s) at startup") ::
    devices.map fun device => "  " ++ deviceLine device

/-- An axis that moved less than this within a frame is not shown. -/
def axisThreshold : Binary32 := (Binary.ofInt 1).div (Binary.ofInt 100)

/-- Decimal places of a shown axis. -/
def axisPlaces : Nat := 3

/-- What a button did in a frame. -/
def buttonChange (frame : Frame) (slot button : Nat) : List String :=
  if frame.wasPadButtonPressed slot button then ["+" ++ toString button]
  else if frame.wasPadButtonReleased slot button then ["-" ++ toString button]
  else []

/-- Where an axis went in a frame. -/
def axisChange (frame : Frame) (slot axis : Nat) : List String :=
  if axisThreshold.lt (frame.padAxisDelta slot axis).abs then
    ["A" ++ toString axis ++ "=" ++ (frame.padAxis slot axis).toFixed axisPlaces]
  else []

/-- What changed in a slot: buttons, then axes, each by number. -/
def changes (frame : Frame) (slot : Nat) : List String :=
  let buttons := (frame.occupant? slot).elim 0 (·.buttonCount)
  (List.range buttons).flatMap (buttonChange frame slot) ++
    (List.range trackedAxes).flatMap (axisChange frame slot)

/-- One line for every slot in which something changed. -/
def lines (frame : Frame) : List String :=
  (List.range frame.capacity).filterMap fun slot =>
    match changes frame slot with
    | [] => none
    | shown => some ("slot " ++ toString slot ++ ": " ++ " ".intercalate shown)

variable {β τ : Type} [Backend β]

/-- Ends a frame and shows the new one. -/
def tick (input : Input β τ) : Except Overflow (Input β τ × List String) := do
  let (input, _) ← input.flush
  pure (input, lines input.frame)

end GamepadInput.Monitor
