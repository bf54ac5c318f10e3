import GamepadInput.Notice

/-!
# Backends

A backend finds controllers and reports what happens to them.  Everything it reports goes to the
listeners as notices, from one of two calls: `detect` picks up devices that came or went, `process`
delivers the input that has arrived.
-/

namespace GamepadInput

/-- Why a backend did not start. -/
inductive StartError where
  /-- The system refused, for this reason. -/
  | refused (reason : String)
  | overflow (cause : Overflow)
  deriving DecidableEq, Repr

/-- Text for a reason that the system gave. -/
def StartError.refusal (reason : String) : String := "backend initialization failed: " ++ reason

class Backend (β : Type) where
  /-- Prepares the system.  Starting a backend that has started changes nothing. -/
  start : β → Except StartError β
  /-- Lets go of every device without a notice. -/
  shutdown : β → β
  /-- The live devices, in order. -/
  devices : β → List Device
  /-- Picks up devices that came or went. -/
  detect : β → Except Overflow (β × List Notice)
  /-- Delivers the input that has arrived. -/
  process : β → Except Overflow (β × List Notice)

end GamepadInput
