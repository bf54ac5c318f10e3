import GamepadInput.Backend
import GamepadInput.Hub
import GamepadInput.IoKit.Pad

/-!
# macOS backend

A manager matches joysticks, gamepads and multi-axis controllers and calls back when one is
matched, removed or sends a value.  Callbacks come only while the backend pumps the manager's run
loop, which starting, detecting and processing do first; they queue events, which are dispatched
after the pump.

A device can be matched and send input in the pump of one processing.  It is then announced ahead
of that input.
-/

namespace GamepadInput.IoKit

/-- What a device tells of itself.  A property of another type than expected is absent. -/
structure Description where
  product? : Option String
  vendorId? : Option Int
  productId? : Option Int
  serial? : Option String
  location? : Option Int
  usagePage? : Option Int
  usage? : Option Int
  elements : List Element
  deriving DecidableEq, Repr

namespace Description

/-- Usages of the generic desktop page that the manager matches: joystick, gamepad and multi-axis
controller. -/
def matchedUsages : List Int := [4, 5, 8]

def genericDesktopPage : Int := 1

/-- The manager matches the device. -/
def isMatched (description : Description) : Bool :=
  description.usagePage? = some genericDesktopPage &&
    description.usage?.any matchedUsages.contains

/-- The low 16 bits of a number property. -/
def word (value : Int) : Nat := (value % 0x10000).toNat

/-- Path of a device: its location as a word of 64 bits, with eight digits or more. -/
def path (description : Description) : String :=
  "iokit:" ++ Text.hex 8 ((description.location?.getD 0) % 0x10000000000000000).toNat

def metadata (description : Description) : Metadata :=
  { Metadata.located "iokit" description.path with
    serialNumber := description.serial?
    usagePage := description.usagePage?.map word
    usage := description.usage?.map word }

/-- The device to be shown for a pad. -/
def device (description : Description) (pad : Pad) : Device :=
  .atRest (description.product?.getD "Unknown") (word (description.vendorId?.getD 0))
    (word (description.productId?.getD 0)) pad.layout.size pad.buttons.length description.metadata

end Description

/-- One call of the manager. -/
inductive Callback where
  | matched (ref : DeviceRef) (description : Description)
  | removed (ref : DeviceRef)
  /-- A value came in; it may have lost its element. -/
  | value (sample : Option Sample)
  deriving DecidableEq, Repr

/-- Most passes made in one pump, lest a device flood it. -/
def pumpLimit : Nat := 64

structure Backend where
  hub : Hub Pad
  /-- The manager is open. -/
  isOpen : Bool
  deriving DecidableEq, Repr

namespace Backend

def closed : Backend := ⟨.empty, false⟩

/-- Live entry of a device. -/
def attached? (hub : Hub Pad) (ref : DeviceRef) : Option (Entry Pad) :=
  hub.registry.live.find? (·.data.ref = ref)

/-- Attaches a matched device, unless it is attached already or has no use. -/
def onMatched (hub : Hub Pad) (ref : DeviceRef) (description : Description) : Hub Pad :=
  match attached? hub ref, Pad.ofElements? ref description.elements with
  | none, some pad => (hub.attach (description.device pad) pad).1
  | _, _ => hub

def onRemoved (hub : Hub Pad) (ref : DeviceRef) : Hub Pad :=
  (attached? hub ref).elim hub fun entry => hub.unplug entry.id

/-- Queues what a sample changed. -/
def onSample (hub : Hub Pad) (sample : Sample) : Except Overflow (Hub Pad) :=
  match attached? hub sample.device with
  | none => .ok hub
  | some entry => do
    let (pad, kinds) ← entry.data.update sample
    let hub := hub.queueInput entry.id kinds
    pure { hub with registry := hub.registry.setData entry.id pad }

def receive (hub : Hub Pad) : Callback → Except Overflow (Hub Pad)
  | .matched ref description => .ok (onMatched hub ref description)
  | .removed ref => .ok (onRemoved hub ref)
  | .value none => .ok hub
  | .value (some sample) => onSample hub sample

/-- Handles callbacks in order. -/
def receiveAll (hub : Hub Pad) (callbacks : List Callback) : Except Overflow (Hub Pad) :=
  callbacks.foldlM receive hub

/-- Pumps the run loop, pass by pass.  `passes` are the callbacks of the passes that find a source
to handle. -/
def pump (backend : Backend) (passes : List (List Callback)) : Except Overflow Backend :=
  if backend.isOpen then do
    let hub ← receiveAll backend.hub (passes.take pumpLimit).flatten
    pure { backend with hub }
  else .ok backend

/-- Opens the manager, unless it is open.  `manager` holds the passes that it makes once it is open;
it is absent if no manager can be made. -/
def start (backend : Backend) (manager : Option (List (List Callback))) :
    Except StartError Backend :=
  if backend.isOpen then .ok backend
  else
    match manager with
    | none => .error (.refused "IOHIDManagerCreate returned null")
    | some passes => ({ backend with isOpen := true }.pump passes).mapError .overflow

def shutdown (backend : Backend) : Backend := ⟨backend.hub.clear, false⟩

def detect (backend : Backend) (passes : List (List Callback)) :
    Except Overflow (Backend × List Notice) := do
  let backend ← backend.pump passes
  let (hub, dispatches) := backend.hub.dispatchDevices
  pure ({ backend with hub }, Dispatch.notices dispatches)

def process (backend : Backend) (passes : List (List Callback)) :
    Except Overflow (Backend × List Notice) := do
  let backend ← backend.pump passes
  let (hub, dispatches) := backend.hub.dispatchAnnounced
  pure ({ backend with hub }, Dispatch.notices dispatches)

end Backend

end GamepadInput.IoKit
