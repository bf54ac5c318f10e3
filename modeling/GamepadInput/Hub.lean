import GamepadInput.Registry

/-!
# Registry with its queues

Backends whose events arise on the consumer's thread keep two queues beside the registry: lifecycle
events wait in one until devices are detected, input in the other until it is processed.
-/

namespace GamepadInput

structure Hub (α : Type) where
  registry : Registry α
  /-- Attaches, and removals of unplugged devices. -/
  deviceEvents : EventQueue
  /-- Input, and removals of devices that ended their input. -/
  inputEvents : EventQueue
  deriving DecidableEq, Repr

namespace Hub

variable {α : Type}

def empty : Hub α := ⟨.empty, .empty, .empty⟩

/-- Number of waiting events. -/
def pending (hub : Hub α) : Nat := hub.deviceEvents.size + hub.inputEvents.size

/-- Adds a device and queues its attach. -/
def attach (hub : Hub α) (device : Device) (data : α) : Hub α × DeviceId :=
  let (registry, id) := hub.registry.insert device data
  ({ hub with registry, deviceEvents := hub.deviceEvents.push (.attached id) }, id)

/-- Queues input of a device. -/
def queueInput (hub : Hub α) (id : DeviceId) (kinds : List EventKind) : Hub α :=
  { hub with inputEvents := hub.inputEvents.pushAll (kinds.map (⟨id, ·⟩)) }

/-- A live device is gone: its waiting input is dropped.  If its attach still waits, attach and
removal cancel out and the device leaves without a trace; otherwise its removal is queued.
`none` if the device is not live. -/
def unplug? (hub : Hub α) (id : DeviceId) : Option (Hub α) :=
  (hub.registry.retire? id).map fun registry =>
    let inputEvents := hub.inputEvents.purge id
    let deviceEvents := hub.deviceEvents.purge id
    if hub.deviceEvents.count id = 0 then
      ⟨registry, deviceEvents.push (.removed id), inputEvents⟩
    else ⟨(registry.release id).1, deviceEvents, inputEvents⟩

/-- The hub after a device is gone; nothing changes if it is not live. -/
def unplug (hub : Hub α) (id : DeviceId) : Hub α := (hub.unplug? id).getD hub

/-- Dispatches events taken from the queues. -/
def dispatchAll (hub : Hub α) (events : List Event) : Hub α × List (Dispatch α) :=
  let (registry, dispatches) := hub.registry.dispatchAll events
  ({ hub with registry }, dispatches)

/-- Dispatches every waiting lifecycle event. -/
def dispatchDevices (hub : Hub α) : Hub α × List (Dispatch α) :=
  let (events, deviceEvents) := hub.deviceEvents.take
  { hub with deviceEvents }.dispatchAll events

/-- Dispatches every waiting input event. -/
def dispatchInput (hub : Hub α) : Hub α × List (Dispatch α) :=
  let (events, inputEvents) := hub.inputEvents.take
  { hub with inputEvents }.dispatchAll events

/-- Announces devices that wait to be announced and have input waiting, then dispatches the
input. -/
def dispatchAnnounced (hub : Hub α) : Hub α × List (Dispatch α) :=
  let (batch, inputEvents) := hub.inputEvents.take
  let (attaches, deviceEvents) := hub.deviceEvents.takeAttaches batch
  { hub with deviceEvents, inputEvents }.dispatchAll (attaches ++ batch)

/-- Forgets every device and every waiting event. -/
def clear (hub : Hub α) : Hub α := ⟨hub.registry.drain.1, .empty, .empty⟩

end Hub

end GamepadInput
