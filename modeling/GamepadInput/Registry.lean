import GamepadInput.EventQueue
import GamepadInput.Notice

/-!
# Device registry

A registry numbers the devices of one backend and keeps with each what the backend needs to talk to
it.  A device that has been unplugged but whose removal is still waiting is *retired*: it no longer
counts as live, but events queued for it still find it until the removal is dispatched.

Numbers are counted without a limit.  A running registry counts in words of 32 bits, and to insert a
device after the last of them is an error; fewer than 4294967295 inserts do not come to it
(`Registry.numbers_fit`).
-/

namespace GamepadInput

/-- A device and its backend's own data. -/
structure Entry (α : Type) where
  device : Device
  data : α
  deriving DecidableEq, Repr

namespace Entry

variable {α : Type}

def id (entry : Entry α) : DeviceId := entry.device.id

@[simp] theorem id_mk (device : Device) (data : α) :
    (⟨device, data⟩ : Entry α).id = device.id := rfl

end Entry

structure Registry (α : Type) where
  /-- Connected devices, in the order of their numbers. -/
  live : List (Entry α)
  /-- Devices gone from the live list whose removal has not been dispatched. -/
  retired : List (Entry α)
  /-- Number of the next device. -/
  nextId : DeviceId
  deriving DecidableEq, Repr

/-- What one dispatched event did. -/
structure Dispatch (α : Type) where
  registry : Registry α
  /-- The call that listeners received. -/
  notice : Option Notice
  /-- The entry that left the registry. -/
  released : Option (Entry α)
  deriving DecidableEq, Repr

namespace Registry

variable {α : Type}

def empty : Registry α := ⟨[], [], 0⟩

/-- Number of live devices. -/
def size (registry : Registry α) : Nat := registry.live.length

def isEmpty (registry : Registry α) : Bool := registry.live.isEmpty

/-- Live devices, in order. -/
def devices (registry : Registry α) : List Device := registry.live.map (·.device)

/-- Live device at a place in the list. -/
def deviceAt? (registry : Registry α) (index : Nat) : Option Device := registry.devices[index]?

/-- Live entry of a device. -/
def get? (registry : Registry α) (id : DeviceId) : Option (Entry α) :=
  registry.live.find? (·.id = id)

/-- Retired entry of a device. -/
def retired? (registry : Registry α) (id : DeviceId) : Option (Entry α) :=
  registry.retired.find? (·.id = id)

/-- Entry of a device, live or retired. -/
def find? (registry : Registry α) (id : DeviceId) : Option (Entry α) :=
  (registry.get? id).or (registry.retired? id)

/-- Numbers a device and adds it to the live list.  The next number must still fit 32 bits. -/
def insert (registry : Registry α) (device : Device) (data : α) : Registry α × DeviceId :=
  ({ registry with
      live := registry.live ++ [⟨{ device with id := registry.nextId }, data⟩]
      nextId := registry.nextId + 1 },
   registry.nextId)

/-- The entries, with those of one device changed. -/
def update (entries : List (Entry α)) (id : DeviceId) (f : Entry α → Entry α) :
    List (Entry α) :=
  entries.map fun entry => if entry.id = id then f entry else entry

/-- Changes the data of a live device. -/
def setData (registry : Registry α) (id : DeviceId) (data : α) : Registry α :=
  { registry with live := update registry.live id fun entry => { entry with data } }

/-- Changes the data of every live device. -/
def mapData (registry : Registry α) (f : α → α) : Registry α :=
  { registry with live := registry.live.map fun entry => { entry with data := f entry.data } }

/-- Stores the record of a device, live or retired. -/
def setDevice (registry : Registry α) (device : Device) : Registry α :=
  let change (entry : Entry α) : Entry α := { entry with device }
  { registry with
    live := update registry.live device.id change
    retired := update registry.retired device.id change }

/-- Moves a live device to the retired list; `none` if it is not live. -/
def retire? (registry : Registry α) (id : DeviceId) : Option (Registry α) :=
  (registry.get? id).map fun entry =>
    { registry with
      live := registry.live.eraseP (·.id = id)
      retired := registry.retired ++ [entry] }

/-- Takes a device out, live or retired. -/
def release (registry : Registry α) (id : DeviceId) : Registry α × Option (Entry α) :=
  match registry.get? id with
  | some entry => ({ registry with live := registry.live.eraseP (·.id = id) }, some entry)
  | none =>
    ({ registry with retired := registry.retired.eraseP (·.id = id) }, registry.retired? id)

/-- Takes every device out, the live ones first.  Numbers go on counting. -/
def drain (registry : Registry α) : Registry α × List (Entry α) :=
  ({ registry with live := [], retired := [] }, registry.live ++ registry.retired)

/-- Applies an event to its device and tells the listeners.  The record changes before they are
told, and a removed device is released after.  An event of an unknown device is dropped. -/
def dispatch (registry : Registry α) (event : Event) : Dispatch α :=
  match registry.find? event.device with
  | none => ⟨registry, none, none⟩
  | some entry =>
    let device := entry.device.apply event.kind
    match event.kind with
    | .removed =>
      let (registry, released) := registry.release event.device
      ⟨registry, some ⟨device, .removed⟩, released⟩
    | kind => ⟨registry.setDevice device, some ⟨device, kind⟩, none⟩

/-- Dispatches events in order; the notices and the released entries are in that order too. -/
def dispatchAll (registry : Registry α) : List Event → Registry α × List (Dispatch α)
  | [] => (registry, [])
  | event :: rest =>
    let first := registry.dispatch event
    let (registry, others) := first.registry.dispatchAll rest
    (registry, first :: others)

end Registry

namespace Dispatch

variable {α : Type}

/-- The calls that listeners received. -/
def notices (dispatches : List (Dispatch α)) : List Notice := dispatches.filterMap (·.notice)

/-- The entries that left the registry. -/
def releasedEntries (dispatches : List (Dispatch α)) : List (Entry α) :=
  dispatches.filterMap (·.released)

@[simp] theorem notices_nil : notices ([] : List (Dispatch α)) = [] := rfl

@[simp] theorem notices_cons (first : Dispatch α) (rest : List (Dispatch α)) :
    notices (first :: rest) = first.notice.toList ++ notices rest := by
  cases heard : first.notice <;> simp [notices, heard]

end Dispatch

end GamepadInput
