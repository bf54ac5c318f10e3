import GamepadInput.Proofs.Registry.Isolation
import GamepadInput.Virtual.Backend

/-!
# Runs of the virtual backend

A run is a list of calls.  It is told by the backend it ends in, the notices its listener received,
and the input that its calls reported to have queued.  A sample whose normalization overflows is
not taken: what was delivered and what waits is as if it had not been fed.
-/

namespace GamepadInput.VirtualBackend

inductive Call where
  | attach (pad : VirtualPad) (made : pad.Made)
  | press (id : DeviceId) (button : Nat)
  | release (id : DeviceId) (button : Nat)
  | moveAxis (id : DeviceId) (axis : Nat) (raw : Int)
  | setAxis (id : DeviceId) (axis : Nat) (value : Binary32)
  | detach (id : DeviceId)
  | unplug (id : DeviceId)
  | detect
  | process
  | shutdown

/-- What calls did. -/
structure Effect where
  backend : VirtualBackend
  /-- The calls that the listener received. -/
  notices : List Notice
  /-- The input reported as queued, under the device that it was reported for. -/
  accepted : List Event
  /-- The numbers given to attached pads. -/
  assigned : List DeviceId

namespace Effect

/-- What the listener received of a device. -/
def heard (effect : Effect) (id : DeviceId) : List EventKind :=
  (heardOf effect.notices id).map (·.kind)

/-- The buttons and axes among it. -/
def heardInput (effect : Effect) (id : DeviceId) : List EventKind :=
  (effect.heard id).filter (·.isInput)

/-- Input of a device that was reported as queued. -/
def acceptedInput (effect : Effect) (id : DeviceId) : List EventKind := kindsOf effect.accepted id

end Effect

/-- The last `count` events of the input queue, under the device `id`. -/
def newest (backend : VirtualBackend) (id : DeviceId) (count : Nat) : List Event :=
  let events := backend.hub.inputEvents.events
  (events.drop (events.length - count)).map fun event => ⟨id, event.kind⟩

/-- An input call that reported to have queued `count` events of a device. -/
def reporting (id : DeviceId) (backend : VirtualBackend) (count : Nat) : Effect :=
  ⟨backend, [], backend.newest id count, []⟩

/-- One call. -/
def perform (backend : VirtualBackend) : Call → Effect
  | .attach pad _ => ⟨(backend.attach pad).1, [], [], [(backend.attach pad).2]⟩
  | .press id button =>
    let (after, queued) := backend.press id button
    reporting id after queued.toNat
  | .release id button =>
    let (after, queued) := backend.release id button
    reporting id after queued.toNat
  | .moveAxis id axis raw =>
    match backend.moveAxis id axis raw with
    | .ok (after, count) => reporting id after count
    | .error _ => ⟨backend, [], [], []⟩
  | .setAxis id axis value =>
    let (after, queued) := backend.setAxis id axis value
    reporting id after queued.toNat
  | .detach id => ⟨(backend.detach id).1, [], [], []⟩
  | .unplug id => ⟨(backend.unplug id).1, [], [], []⟩
  | .detect => ⟨backend.detect.1, backend.detect.2, [], []⟩
  | .process => ⟨backend.process.1, backend.process.2, [], []⟩
  | .shutdown => ⟨backend.shutdown, [], [], []⟩

/-- Calls in order. -/
def run (backend : VirtualBackend) : List Call → Effect
  | [] => ⟨backend, [], [], []⟩
  | call :: rest =>
    let first := backend.perform call
    let others := first.backend.run rest
    ⟨others.backend, first.notices ++ others.notices, first.accepted ++ others.accepted,
      first.assigned ++ others.assigned⟩

end GamepadInput.VirtualBackend
