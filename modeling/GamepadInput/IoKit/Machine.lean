import GamepadInput.IoKit.Backend

/-!
# A simulated Mac

Devices are plugged in and numbered from zero.  While a manager is open, what a matched device does
waits in the run loop as one callback each, and a pass handles one of them.

`Bench` is a backend that runs on such a machine.
-/

namespace GamepadInput.IoKit

/-- A device that was plugged in. -/
structure Attachment where
  description : Description
  present : Bool
  deriving DecidableEq, Repr

structure Machine where
  /-- Every device ever plugged in; a device's number is its place. -/
  devices : List Attachment
  /-- No manager can be made. -/
  createFails : Bool
  /-- Callbacks that wait in the run loop. -/
  waiting : List Callback
  deriving DecidableEq, Repr

namespace Machine

def empty (createFails : Bool) : Machine := ⟨[], createFails, []⟩

def description? (machine : Machine) (ref : DeviceRef) : Option Description :=
  (machine.devices[ref]?).map (·.description)

/-- Callbacks that wait once a manager opens: every device present is matched. -/
def announcements (machine : Machine) : List Callback :=
  machine.devices.zipIdx.filterMap fun (attachment, ref) =>
    if attachment.present && attachment.description.isMatched then
      some (.matched ref attachment.description)
    else none

/-- The passes that a pump makes. -/
def passes (machine : Machine) : List (List Callback) := machine.waiting.map ([·])

/-- The machine after a pump. -/
def pumped (machine : Machine) : Machine :=
  { machine with waiting := machine.waiting.drop pumpLimit }

end Machine

/-- A backend on a simulated machine. -/
structure Bench where
  backend : Backend
  machine : Machine
  deriving DecidableEq, Repr

namespace Bench

def empty (createFails : Bool) : Bench := ⟨.closed, .empty createFails⟩

/-- Adds callbacks of a device to the run loop, if a manager is open and matches it. -/
def queue (bench : Bench) (ref : DeviceRef) (callbacks : List Callback) : Bench :=
  if bench.backend.isOpen && (bench.machine.description? ref).any (·.isMatched) then
    { bench with machine :=
        { bench.machine with waiting := bench.machine.waiting ++ callbacks } }
  else bench

/-- A matched device is announced again, whether it is still there or not. -/
def rematch (bench : Bench) (ref : DeviceRef) : Bench :=
  match bench.machine.description? ref with
  | some description => bench.queue ref [.matched ref description]
  | none => bench

/-- Plugs a device in. -/
def plug (bench : Bench) (description : Description) : Bench × DeviceRef :=
  let devices := bench.machine.devices
  let machine := { bench.machine with devices := devices ++ [⟨description, true⟩] }
  (Bench.rematch { bench with machine } devices.length, devices.length)

/-- Pulls a device out. -/
def pull (bench : Bench) (ref : DeviceRef) : Bench :=
  let devices := bench.machine.devices.modify ref fun attachment =>
    { attachment with present := false }
  Bench.queue { bench with machine := { bench.machine with devices } } ref [.removed ref]

instance : GamepadInput.Backend Bench where
  start bench :=
    if bench.backend.isOpen then .ok bench
    else do
      let machine := { bench.machine with waiting := bench.machine.announcements }
      let manager := if machine.createFails then none else some machine.passes
      let backend ← bench.backend.start manager
      pure ⟨backend, machine.pumped⟩
  shutdown bench := ⟨bench.backend.shutdown, { bench.machine with waiting := [] }⟩
  devices bench := bench.backend.hub.registry.devices
  detect bench := do
    let (backend, notices) ← bench.backend.detect bench.machine.passes
    pure (⟨backend, bench.machine.pumped⟩, notices)
  process bench := do
    let (backend, notices) ← bench.backend.process bench.machine.passes
    pure (⟨backend, bench.machine.pumped⟩, notices)

end Bench

end GamepadInput.IoKit
