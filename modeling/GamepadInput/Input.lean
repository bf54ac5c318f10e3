import GamepadInput.Config
import GamepadInput.Frame
import GamepadInput.Gamepads

/-!
# Frame-based input

A backend whose devices are shown in the slots of a frame.  A host passes its keyboard and mouse
events in, reads the frame, and flushes once for every frame it draws: the flush ends the frame and
then delivers what the gamepads did, so that it shows in the new one.  The frame hears it behind the
callbacks of the host; the calls that deliver return the callbacks that were called.
-/

namespace GamepadInput

structure Input (β τ : Type) where
  pads : Gamepads β τ
  frame : Frame

namespace Input

variable {β τ : Type} [Backend β]

def ofBackend (backend : β) (slots : Nat) : Input β τ := ⟨.ofBackend backend, .atRest slots⟩

/-- An input with these settings, if they are usable. -/
def ofConfig (backend : β) (config : Config) : Except ConfigError (Input β τ) :=
  config.checked.map fun config => ofBackend backend config.slots

/-- Starts the backend.  Devices already there take a slot at once. -/
def start (input : Input β τ) : Except StartError (Input β τ × Called τ) := do
  let (pads, frame, called) ← input.pads.startWith input.frame
  pure (⟨pads, frame⟩, called)

def handle (input : Input β τ) (event : HostEvent) : Input β τ :=
  { input with frame := input.frame.handle event }

/-- Ends the frame, then delivers device changes and input into the new one. -/
def flush (input : Input β τ) : Except Overflow (Input β τ × Called τ) := do
  let (pads, frame, changes) ← input.pads.detectWith input.frame.flush
  let (pads, frame, inputs) ← pads.processWith frame
  pure (⟨pads, frame⟩, changes ++ inputs)

/-- Lets go of every device and empties every slot. -/
def shutdown (input : Input β τ) : Input β τ :=
  ⟨input.pads.shutdown, input.frame.disconnectAll⟩

end Input

end GamepadInput
