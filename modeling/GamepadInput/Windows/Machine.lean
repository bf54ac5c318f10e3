import GamepadInput.Backend
import GamepadInput.Bytes
import GamepadInput.Windows.Backend

/-!
# A simulated Windows machine

A machine has HID interfaces and four slots for standard gamepads, and faults that can be switched
on.  Its HID parser finds controls at fixed bits of a report: bits are counted from the byte after
the id, the least significant bit of a byte first, and bits past the report are zero.

`Bench` is a backend that runs on such a machine.
-/

namespace GamepadInput.Windows

/-- Faults of a machine. -/
structure Faults where
  /-- HID is not available to a backend that starts. -/
  hidFails : Bool
  /-- HID interfaces cannot be enumerated. -/
  refreshFails : Bool
  /-- There is no library for standard gamepads, or it lacks the extended query. -/
  noLibrary : Bool
  noExtendedQuery : Bool
  /-- Code with which a window class cannot be registered; zero if it can. -/
  classError : Nat
  windowFails : Bool
  notificationFails : Bool
  deriving DecidableEq, Repr

namespace Faults

def none : Faults := ⟨false, false, false, false, 0, false, false⟩

/-- The class is registered already, which is no fault. -/
def classExists : Nat := 1410

/-- A window for notifications can be made. -/
def allowNotifications (faults : Faults) : Bool :=
  (faults.classError = 0 || faults.classError = classExists) && !faults.windowFails &&
    !faults.notificationFails

end Faults

/-- A button control and where its first usage is in a report. -/
structure ButtonBits where
  cap : Hid.ButtonCap
  bit : Nat
  deriving DecidableEq, Repr

/-- On which collections a value control answers. -/
inductive AnswersOn where
  | any
  | topOnly
  | ownOnly
  | never
  deriving DecidableEq, Repr

/-- A value control, where its first usage is in a report, and where it answers. -/
structure ValueBits where
  cap : Hid.ValueCap
  bit : Nat
  answers : AnswersOn
  deriving DecidableEq, Repr

/-- How an interface answers for a list of capabilities. -/
inductive CapsStatus where
  | normal
  | error
  /-- Asks for no room at all. -/
  | empty
  /-- Always asks for one more than there is room for. -/
  | growing
  deriving DecidableEq, Repr

/-- Ways in which an interface can be opened. -/
inductive Access where
  | readWrite
  | readOnly
  | refused
  deriving DecidableEq, Repr

/-- A HID interface. -/
structure Interface where
  info : Hid.Info
  openFails : Bool
  /-- Reads without blocking are refused. -/
  blockingOnly : Bool
  access : Access
  preparsedFails : Bool
  capsFail : Bool
  usagesFail : Bool
  reportLength : Nat
  buttons : List ButtonBits
  values : List ValueBits
  buttonsStatus : CapsStatus
  valuesStatus : CapsStatus
  /-- Reads that wait. -/
  reads : List Hid.Read
  deriving DecidableEq, Repr

/-- Answer to a request for capabilities with room for `room` entries. -/
def CapsStatus.answer {α : Type} (status : CapsStatus) (caps : List α) (room : Nat) :
    Hid.CapsAnswer α :=
  match status with
  | .normal => if room < caps.length then .tooSmall caps.length else .list caps
  | .error => .failed
  | .empty => .tooSmall 0
  | .growing => .tooSmall (room + 1)

/-- `count` bits of a report from bit `start` on. -/
def reportBits (report : Hid.Report) (start count : Nat) : Nat :=
  Bytes.toNat ((report.tail.drop (start / 8)).take (count / 8 + 2)) >>> (start % 8) %
    (1 <<< count)

/-- Id of a report. -/
def reportId (report : Hid.Report) : Nat := report.head?.elim 0 (·.toNat)

/-- Most usages that one question can be answered with. -/
def usageLimit : Nat := 128

/-- Most bits of a value. -/
def valueLimit : Nat := 32

namespace ButtonBits

/-- Usages of a control whose bits are set in the data of a report. -/
def set (control : ButtonBits) (data : Array UInt8) : List Nat :=
  control.cap.span.usages.filter fun usage =>
    let bit := control.bit + (usage - control.cap.span.first)
    (data.getD (bit / 8) 0).toNat.testBit (bit % 8)

/-- The control is asked for: its page, the id of the report, and the collection. -/
def matchesQuestion (control : ButtonBits) (page link : Nat) (report : Hid.Report) : Bool :=
  control.cap.span.page = page && control.cap.reportId = reportId report &&
    (link = 0 || link = control.cap.link)

end ButtonBits

namespace ValueBits

def answersOn (control : ValueBits) (link : Nat) : Bool :=
  match control.answers with
  | .any => link = 0 || link = control.cap.link
  | .topOnly => link = 0
  | .ownOnly => link = control.cap.link
  | .never => false

def matchesQuestion (control : ValueBits) (page link usage : Nat) (report : Hid.Report) : Bool :=
  control.cap.span.page = page && control.cap.reportId = reportId report &&
    control.cap.span.has usage && control.answersOn link

/-- Value of a usage of the control in a report. -/
def value (control : ValueBits) (usage : Nat) (report : Hid.Report) : Nat :=
  let size := control.cap.bitSize
  reportBits report (control.bit + (usage - control.cap.span.first) * size) (min size valueLimit)

end ValueBits

namespace Interface

/-- How the machine's HID parser answers for this interface. -/
def queries (interface : Interface) : Hid.Queries where
  usages page link report :=
    if interface.usagesFail then none
    else
      let data := report.tail.toArray
      let found := (interface.buttons.filter (·.matchesQuestion page link report)).flatMap
        (·.set data)
      if usageLimit < found.length then none else some found
  value page link usage report :=
    (interface.values.find? (·.matchesQuestion page link usage report)).map (·.value usage report)

/-- The report descriptor, if the interface can be opened for it and tells it. -/
def description? (interface : Interface) : Option Hid.Description :=
  if interface.access = .refused || interface.preparsedFails || interface.capsFail then none
  else
    some
      { reportLength := interface.reportLength
        buttonCaps := interface.buttonsStatus.answer (interface.buttons.map (·.cap))
        valueCaps := interface.valuesStatus.answer (interface.values.map (·.cap)) }

/-- How its reports are fetched, if it can be opened for reading. -/
def mode? (interface : Interface) : Option Hid.ReadMode :=
  if interface.openFails then none
  else some (if interface.blockingOnly then .polled else .buffered)

end Interface

/-- A message to a window: its number and its first parameter. -/
abbrev Message := Nat × Nat

namespace Message

def arrival : Message := (0x219, 0x8000)

def removal : Message := (0x219, 0x8004)

/-- The message tells that a device came or went. -/
def isChange (message : Message) : Bool := message = arrival || message = removal

end Message

structure Machine where
  faults : Faults
  /-- Interfaces present, in the order in which they are listed. -/
  interfaces : List Interface
  /-- Standard gamepads connected, by slot. -/
  gamepads : List (Option XInput.Sample)
  /-- Messages that wait for the notification window. -/
  messages : List Message
  deriving DecidableEq, Repr

namespace Machine

def empty : Machine := ⟨.none, [], List.replicate XInput.slotCount none, []⟩

/-- The first interface present at a path.  It answers for the path, also to one that opened an
earlier interface there. -/
def at? (machine : Machine) (path : String) : Option Interface :=
  machine.interfaces.find? (·.info.path = path)

/-- Changes the first interface at a path. -/
def modifyAt (machine : Machine) (path : String) (f : Interface → Interface) : Machine :=
  match machine.interfaces.findIdx? (·.info.path = path) with
  | some index => { machine with interfaces := machine.interfaces.modify index f }
  | none => machine

/-- Adds an interface, at the end of the list. -/
def add (machine : Machine) (interface : Interface) : Machine :=
  { machine with interfaces := machine.interfaces ++ [interface] }

/-- Every interface at a path vanishes, and with it what it had waiting. -/
def remove (machine : Machine) (path : String) : Machine :=
  { machine with interfaces := machine.interfaces.filter (·.info.path ≠ path) }

/-- Reads that the interface at a path will find. -/
def supply (machine : Machine) (path : String) (reads : List Hid.Read) : Machine :=
  machine.modifyAt path fun interface => { interface with reads := interface.reads ++ reads }

/-- Connects a gamepad to a slot, or disconnects it. -/
def setGamepad (machine : Machine) (slot : Nat) (sample : Option XInput.Sample) : Machine :=
  { machine with gamepads := machine.gamepads.set slot sample }

def startup (machine : Machine) : Startup where
  hidError := if machine.faults.hidFails then some "simulated failure" else none
  query :=
    if machine.faults.noLibrary || machine.faults.noExtendedQuery then .plain else .extended
  notifications := machine.faults.allowNotifications

/-- What opening a listed interface gives: whatever is first at its path. -/
def offer (machine : Machine) (interface : Interface) : Offer :=
  let opened := machine.at? interface.info.path
  { info := interface.info
    description := opened.bind (·.description?)
    mode := opened.bind (·.mode?) }

def sighting (machine : Machine) : Sighting where
  changed := machine.messages.any (·.isChange)
  listing :=
    if machine.faults.refreshFails then none
    else some (machine.interfaces.map machine.offer)
  connected slot := (machine.gamepads[slot]?).join.isSome

def readings (machine : Machine) : Readings where
  link path :=
    match machine.at? path with
    | some interface => ⟨interface.reads, interface.queries⟩
    | none => ⟨[none], ⟨fun _ _ _ => none, fun _ _ _ _ => none⟩⟩
  sample query slot :=
    (machine.gamepads[slot]?).join.map fun sample =>
      if query = .plain then sample.withoutGuide else sample

/-- The machine after reads were taken. -/
def consume (machine : Machine) (taken : List (String × Nat)) : Machine :=
  taken.foldl
    (fun machine (path, count) =>
      machine.modifyAt path fun interface => { interface with reads := interface.reads.drop count })
    machine

end Machine

/-- A backend on a simulated machine. -/
structure Bench where
  backend : Backend
  machine : Machine
  deriving DecidableEq, Repr

namespace Bench

def ofSettings (standardGamepads : Bool) (maxReports : Nat) : Bench :=
  ⟨.ofSettings standardGamepads maxReports, .empty⟩

/-- The backend has a notification window. -/
def listens (bench : Bench) : Bool := bench.backend.session.any (·.notified)

/-- Changes the machine. -/
def onMachine (bench : Bench) (f : Machine → Machine) : Bench :=
  { bench with machine := f bench.machine }

/-- Posts a message to the notification window, if there is one. -/
def post (bench : Bench) (message : Message) : Bench :=
  if bench.listens then
    bench.onMachine fun machine => { machine with messages := machine.messages ++ [message] }
  else bench

instance : GamepadInput.Backend Bench where
  start bench :=
    match bench.backend.start bench.machine.startup with
    | .ok backend => .ok { bench with backend }
    | .error reason => .error (.refused reason)
  shutdown bench :=
    ⟨bench.backend.shutdown, { bench.machine with messages := [] }⟩
  devices bench := bench.backend.hub.registry.devices
  detect bench :=
    let (backend, notices) := bench.backend.detect bench.machine.sighting
    .ok (⟨backend, { bench.machine with messages := [] }⟩, notices)
  process bench := do
    let processed ← bench.backend.process bench.machine.readings
    pure (⟨processed.backend, bench.machine.consume processed.taken⟩, processed.notices)

end Bench

end GamepadInput.Windows
