import GamepadInput.Hid.Discovery
import GamepadInput.Hid.Pad
import GamepadInput.Hub
import GamepadInput.XInput.Pad

/-!
# Windows backend

HID interfaces are enumerated when a hotplug notification came in, on the first detection, and on
every one if the system gives no notifications.  Standard gamepads are looked for in every
detection.  Each processing polls every device once; a device whose read fails is removed.

Everything that the system is asked during a call is an argument of the call.
-/

namespace GamepadInput.Windows

/-- The backend's side of a device. -/
inductive Pad where
  | hid (pad : Hid.Pad)
  | xinput (pad : XInput.Pad)
  deriving DecidableEq, Repr

namespace Pad

/-- Path of a HID device. -/
def hidPath? : Pad → Option String
  | .hid pad => some pad.path
  | .xinput _ => none

/-- Slot of a standard gamepad. -/
def slot? : Pad → Option Nat
  | .hid _ => none
  | .xinput pad => some pad.slot

end Pad

/-- How standard gamepads are sampled. -/
inductive SampleQuery where
  | plain
  /-- Shows the guide button too. -/
  | extended
  deriving DecidableEq, Repr

/-- What a started backend holds of the system. -/
structure Session where
  /-- Standard gamepads are shown, and sampled so. -/
  standard : Option SampleQuery
  /-- The system gives notifications. -/
  notified : Bool
  /-- HID interfaces are enumerated by the next detection, notification or not. -/
  rescan : Bool
  deriving DecidableEq, Repr

structure Backend where
  standardGamepads : Bool
  /-- Most reports read of one device in one processing. -/
  maxReports : Nat
  hub : Hub Pad
  /-- Absent while the backend is not started. -/
  session : Option Session
  deriving DecidableEq, Repr

/-- What the system answers when a backend starts. -/
structure Startup where
  /-- Reason for which HID is not available. -/
  hidError : Option String
  query : SampleQuery
  /-- A notification window could be made. -/
  notifications : Bool
  deriving DecidableEq, Repr

/-- A listed interface, and what opening it would give. -/
structure Offer where
  info : Hid.Info
  /-- The report descriptor, if it can be opened and read. -/
  description : Option Hid.Description
  /-- How reports are fetched, if the interface can be opened for reading. -/
  mode : Option Hid.ReadMode

namespace Offer

/-- Opens a listed interface. -/
def open? (offer : Offer) : Option Hid.Pad := do
  let parser ← Hid.Parser.ofDescription? offer.info.vendor offer.info.product (← offer.description)
  pure { path := offer.info.path, mode := ← offer.mode, parser }

end Offer

/-- What the system answers during a detection. -/
structure Sighting where
  /-- A notification of a change came in since the last detection. -/
  changed : Bool
  /-- The interfaces present; `none` if they cannot be enumerated. -/
  listing : Option (List Offer)
  /-- A standard gamepad is connected to a slot. -/
  connected : Nat → Bool

/-- What the system answers during a processing. -/
structure Readings where
  /-- What the open HID device of a path has. -/
  link : String → Hid.Link
  /-- The sample of a slot; `none` if nothing is connected. -/
  sample : SampleQuery → Nat → Option XInput.Sample

namespace Backend

def ofSettings (standardGamepads : Bool) (maxReports : Nat) : Backend :=
  ⟨standardGamepads, maxReports, .empty, none⟩

def start (backend : Backend) (startup : Startup) : Except String Backend :=
  if backend.session.isSome then .ok backend
  else
    match startup.hidError with
    | some reason => .error ("hidapi: " ++ reason)
    | none =>
      let standard := if backend.standardGamepads then some startup.query else none
      .ok { backend with session := some ⟨standard, startup.notifications, true⟩ }

def shutdown (backend : Backend) : Backend :=
  { backend with hub := backend.hub.clear, session := none }

/-! ## Detection -/

/-- Live HID devices whose path is not in a listing. -/
def gone (hub : Hub Pad) (offers : List Offer) : List DeviceId :=
  (hub.registry.live.filter fun entry =>
    entry.data.hidPath?.any fun path => offers.all fun offer => offer.info.path ≠ path).map (·.id)

/-- A live HID device is open at a path. -/
def isOpen (hub : Hub Pad) (path : String) : Bool :=
  hub.registry.live.any fun entry => entry.data.hidPath? = some path

/-- Opens a listed interface and attaches it, unless it is refused, open or cannot be opened. -/
def attachOffer (standardGamepads : Bool) (hub : Hub Pad) (offer : Offer) : Hub Pad :=
  let info := offer.info
  if !info.accepted standardGamepads || isOpen hub info.path then hub
  else
    match offer.open? with
    | none => hub
    | some pad =>
      let device := Device.atRest info.name info.vendor info.product pad.parser.axisCount
        pad.parser.buttonCount info.metadata
      (hub.attach device (.hid pad)).1

/-- Compares the open HID devices with a listing: those no longer listed are gone, and new ones are
opened. -/
def scanHid (standardGamepads : Bool) (hub : Hub Pad) (offers : List Offer) : Hub Pad :=
  offers.foldl (attachOffer standardGamepads) ((gone hub offers).foldl Hub.unplug hub)

/-- The live device in a slot. -/
def inSlot? (hub : Hub Pad) (slot : Nat) : Option DeviceId :=
  (hub.registry.live.find? fun entry => entry.data.slot? = some slot).map (·.id)

/-- Compares one slot with the device in it. -/
def scanSlot (connected : Nat → Bool) (hub : Hub Pad) (slot : Nat) : Hub Pad :=
  match connected slot, inSlot? hub slot with
  | true, none => (hub.attach (XInput.device slot) (.xinput (.atRest slot))).1
  | false, some id => hub.unplug id
  | _, _ => hub

def scanSlots (connected : Nat → Bool) (hub : Hub Pad) : Hub Pad :=
  (List.range XInput.slotCount).foldl (scanSlot connected) hub

/-- Detection enumerates HID interfaces. -/
def scansHid (session : Session) (sighting : Sighting) : Bool :=
  session.rescan || !session.notified || sighting.changed

def detect (backend : Backend) (sighting : Sighting) : Backend × List Notice :=
  match backend.session with
  | none => (backend, [])
  | some session =>
    let hub :=
      if scansHid session sighting then
        sighting.listing.elim backend.hub (scanHid backend.standardGamepads backend.hub)
      else backend.hub
    let hub := if session.standard.isSome then scanSlots sighting.connected hub else hub
    let (hub, dispatches) := hub.dispatchDevices
    ({ backend with hub, session := some { session with rescan := false } },
      Dispatch.notices dispatches)

/-! ## Processing -/

/-- What polling one device did. -/
structure Poll where
  pad : Pad
  kinds : List EventKind
  failed : Bool
  /-- Path of the HID device read, and the number of reads taken from it. -/
  taken : Option (String × Nat)
  deriving DecidableEq, Repr

/-- Polls one device. -/
def pollPad (maxReports : Nat) (standard : Option SampleQuery) (readings : Readings) :
    Pad → Except Overflow Poll
  | .hid pad => do
    let poll ← pad.poll maxReports (readings.link pad.path)
    pure ⟨.hid poll.pad, poll.kinds, poll.failed, some (pad.path, poll.taken)⟩
  | .xinput pad =>
    match standard.bind fun query => readings.sample query pad.slot with
    | none => .ok ⟨.xinput pad, [], true, none⟩
    | some sample => do
      let (pad, kinds) ← pad.update sample
      pure ⟨.xinput pad, kinds, false, none⟩

/-- Polls every live device in order and queues its input.  Returns the devices that failed, and
the reads taken. -/
def pollAll (maxReports : Nat) (standard : Option SampleQuery) (readings : Readings) :
    Hub Pad → List (Entry Pad) → Except Overflow (Hub Pad × List DeviceId × List (String × Nat))
  | hub, [] => .ok (hub, [], [])
  | hub, entry :: rest => do
    let poll ← pollPad maxReports standard readings entry.data
    let hub := hub.queueInput entry.id poll.kinds
    let hub := { hub with registry := hub.registry.setData entry.id poll.pad }
    let (hub, failed, taken) ← pollAll maxReports standard readings hub rest
    pure (hub, (if poll.failed then [entry.id] else []) ++ failed, poll.taken.toList ++ taken)

/-- What a processing did. -/
structure Processed where
  backend : Backend
  notices : List Notice
  /-- For each HID device polled, its path and how many reads were taken from it. -/
  taken : List (String × Nat)
  deriving DecidableEq, Repr

def process (backend : Backend) (readings : Readings) : Except Overflow Processed :=
  match backend.session with
  | none => .ok ⟨backend, [], []⟩
  | some session => do
    let (hub, failed, taken) ←
      pollAll backend.maxReports session.standard readings backend.hub backend.hub.registry.live
    let (hub, input) := (failed.foldl Hub.unplug hub).dispatchInput
    let (hub, changes) := hub.dispatchDevices
    pure ⟨{ backend with hub }, Dispatch.notices input ++ Dispatch.notices changes, taken⟩

end Backend

end GamepadInput.Windows
