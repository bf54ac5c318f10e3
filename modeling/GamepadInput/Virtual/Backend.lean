import GamepadInput.Backend
import GamepadInput.Buttons
import GamepadInput.Hub
import GamepadInput.Virtual.Pad

/-!
# Virtual backend

Controllers played by the host: it attaches pads and feeds them samples and button edges, which are
normalized and queued as those of real hardware are.

A pad leaves in one of two ways.  `detach` ends its input: what is queued is still delivered, then
the removal.  `unplug` takes it away at once: its queued input is dropped and the removal goes out
with the next detection.
-/

namespace GamepadInput

/-- The host's side of an attached pad. -/
structure VirtualPadState where
  layout : Axis.Layout
  buttons : Buttons
  /-- The pad was detached and takes no more input. -/
  ended : Bool
  deriving DecidableEq, Repr

structure VirtualBackend where
  hub : Hub VirtualPadState
  deriving DecidableEq, Repr

namespace VirtualBackend

def empty : VirtualBackend := ⟨.empty⟩

/-- Number of events that wait to be delivered. -/
def pending (backend : VirtualBackend) : Nat := backend.hub.pending

/-- Plugs a pad in.  Its path tells how many pads were there before it. -/
def attach (backend : VirtualBackend) (pad : VirtualPad) : VirtualBackend × DeviceId :=
  let path := "virtual:" ++ toString backend.hub.registry.size
  let device := Device.atRest pad.name pad.vendor pad.product pad.layout.size pad.buttonCount
    (.located "virtual" path)
  let state := ⟨pad.layout, .atRest pad.buttonCount, false⟩
  let (hub, id) := backend.hub.attach device state
  (⟨hub⟩, id)

/-- State of a live pad that still takes input. -/
def accepting? (backend : VirtualBackend) (id : DeviceId) : Option VirtualPadState :=
  ((backend.hub.registry.get? id).map (·.data)).filter (!·.ended)

/-- Stores the new state of a pad and queues what it reports. -/
def report (backend : VirtualBackend) (id : DeviceId) (state : VirtualPadState)
    (kinds : List EventKind) : VirtualBackend :=
  let hub := backend.hub.queueInput id kinds
  ⟨{ hub with registry := hub.registry.setData id state }⟩

/-- Presses or releases a button; tells whether that queued an event. -/
def setButton (backend : VirtualBackend) (id : DeviceId) (button : Nat) (down : Bool) :
    VirtualBackend × Bool :=
  match backend.accepting? id with
  | none => (backend, false)
  | some state =>
    let (buttons, kinds) := state.buttons.press button down
    (backend.report id { state with buttons } kinds, !kinds.isEmpty)

def press (backend : VirtualBackend) (id : DeviceId) (button : Nat) : VirtualBackend × Bool :=
  backend.setButton id button true

def release (backend : VirtualBackend) (id : DeviceId) (button : Nat) : VirtualBackend × Bool :=
  backend.setButton id button false

/-- Feeds a raw sample to an axis, the first of the two for a hat; tells how many events that
queued. -/
def moveAxis (backend : VirtualBackend) (id : DeviceId) (axis : Nat) (raw : Int) :
    Except Overflow (VirtualBackend × Nat) :=
  match backend.accepting? id with
  | none => .ok (backend, 0)
  | some state => do
    let (layout, changes) ← state.layout.feed axis raw
    pure (backend.report id { state with layout } (changes.map .axis), changes.length)

/-- Sets an axis to a normalized value; tells whether that queued an event. -/
def setAxis (backend : VirtualBackend) (id : DeviceId) (axis : Nat) (value : Binary32) :
    VirtualBackend × Bool :=
  match backend.accepting? id with
  | none => (backend, false)
  | some state =>
    let (layout, change) := state.layout.setNormalized axis value
    (backend.report id { state with layout } (change.toList.map .axis), change.isSome)

/-- Ends the input of a pad; tells whether it had not ended before. -/
def detach (backend : VirtualBackend) (id : DeviceId) : VirtualBackend × Bool :=
  match backend.accepting? id with
  | none => (backend, false)
  | some state => (backend.report id { state with ended := true } [.removed], true)

/-- Takes a pad away; tells whether it was there. -/
def unplug (backend : VirtualBackend) (id : DeviceId) : VirtualBackend × Bool :=
  match backend.hub.unplug? id with
  | some hub => (⟨hub⟩, true)
  | none => (backend, false)

/-- Delivers the waiting attaches and removals. -/
def detect (backend : VirtualBackend) : VirtualBackend × List Notice :=
  let (hub, dispatches) := backend.hub.dispatchDevices
  (⟨hub⟩, Dispatch.notices dispatches)

/-- Delivers the waiting input, each device being announced before its input. -/
def process (backend : VirtualBackend) : VirtualBackend × List Notice :=
  let (hub, dispatches) := backend.hub.dispatchAnnounced
  (⟨hub⟩, Dispatch.notices dispatches)

def shutdown (backend : VirtualBackend) : VirtualBackend := ⟨backend.hub.clear⟩

instance : Backend VirtualBackend where
  start := .ok
  shutdown := shutdown
  devices backend := backend.hub.registry.devices
  detect backend := .ok backend.detect
  process backend := .ok backend.process

end VirtualBackend

end GamepadInput
