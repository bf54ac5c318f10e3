import GamepadInput.Backend
import GamepadInput.Evdev.Profile
import GamepadInput.Evdev.Reader
import GamepadInput.Path
import GamepadInput.Registry

/-!
# Linux backend

Detection scans a directory for event nodes, opens those that are game controllers, and announces
them at once.  Each open node has a reader; what the readers queue is delivered by processing.

A node is looked at if it was modified since the last scan.  Two kinds of node are looked at in
every scan until they open or disappear: those that could not be opened, and those that changed
while a reader held their path.
-/

namespace GamepadInput.Evdev

/-- Time of the system's clock. -/
abbrev Time := Nat

/-- Identity of an open node. -/
abbrev NodeRef := Nat

/-- The backend's side of a device. -/
structure Node where
  path : String
  ref : NodeRef
  reader : Reader
  deriving DecidableEq, Repr

/-- What opening a node gives. -/
structure Opening where
  ref : NodeRef
  answers : Answers
  /-- A reader can be started. -/
  readerStarts : Bool
  deriving DecidableEq, Repr

/-- A directory entry as a scan finds it. -/
structure Listed where
  name : String
  /-- Time of modification, if the entry tells it. -/
  modified? : Option Time
  /-- Absent if the entry cannot be opened. -/
  opening? : Option Opening
  deriving DecidableEq, Repr

/-- What the system answers during a detection. -/
structure Sighting where
  now : Time
  /-- Absent if the directory cannot be listed. -/
  listing? : Option (List Listed)
  deriving DecidableEq, Repr

/-- What the name of an event node begins with. -/
def nodeStem : List Char := "event".toList

/-- The name is that of an event node: the stem and a number. -/
def isEventNode (name : String) : Bool :=
  let number := name.toList.drop nodeStem.length
  nodeStem.isPrefixOf name.toList && !number.isEmpty && number.all (·.isDigit)

structure Backend where
  directory : String
  registry : Registry Node
  /-- What readers queued. -/
  queue : EventQueue
  lastScan : Option Time
  /-- Paths looked at in the next scan whether they were modified or not. -/
  retry : List String
  initialized : Bool
  deriving DecidableEq, Repr

namespace Backend

def ofDirectory (directory : String) : Backend := ⟨directory, .empty, .empty, none, [], false⟩

def start (backend : Backend) : Backend := { backend with initialized := true }

/-! ## Detection -/

/-- A reader that has not finished holds a path. -/
def isHeld (registry : Registry Node) (path : String) : Bool :=
  registry.live.any fun entry => entry.data.path = path && !entry.data.reader.isFinished

/-- An entry was modified no earlier than the last scan.  Before the first scan everything was; an
entry that does not tell its time was not. -/
def changedSince (lastScan : Option Time) (listed : Listed) : Bool :=
  listed.modified?.any fun modified => lastScan.all (· ≤ modified)

/-- A scan looks at an event node if it was modified or is to be looked at again. -/
def isDue (directory : String) (lastScan : Option Time) (retry : List String) (listed : Listed) :
    Bool :=
  isEventNode listed.name &&
    (retry.contains (Path.child directory listed.name) || changedSince lastScan listed)

/-- State of a scan under way. -/
structure Scan where
  registry : Registry Node
  /-- Paths to look at in the next scan. -/
  retry : List String
  notices : List Notice
  deriving DecidableEq, Repr

namespace Scan

def again (scan : Scan) (path : String) : Scan := { scan with retry := scan.retry ++ [path] }

/-- Looks at an open node.  A controller is numbered and its reader started; it is tried again in
the next scan if that fails, and its number is used up all the same.  Gives the device whose reader
was started. -/
def openNode (scan : Scan) (path : String) (opening : Opening) : Scan × Option DeviceId :=
  match Profile.ofAnswers? opening.answers with
  | none => (scan, none)
  | some profile =>
    let node : Node := ⟨path, opening.ref, .ofDecoder profile.decoder⟩
    let (registry, id) := scan.registry.insert (profile.device path) node
    if opening.readerStarts then ({ scan with registry }, some id)
    else (Scan.again { scan with registry := (registry.release id).1 } path, none)

/-- Looks at one entry, if it is due.  Gives the device whose reader was started. -/
def look (directory : String) (lastScan : Option Time) (retry : List String) (scan : Scan)
    (listed : Listed) : Scan × Option DeviceId :=
  let path := Path.child directory listed.name
  if !isDue directory lastScan retry listed then (scan, none)
  else if isHeld scan.registry path then (scan.again path, none)
  else
    match listed.opening? with
    | none => (scan.again path, none)
    | some opening => scan.openNode path opening

/-- Announces a device. -/
def announce (scan : Scan) (id : DeviceId) : Scan :=
  let dispatch := scan.registry.dispatch (.attached id)
  { scan with
    registry := dispatch.registry, notices := scan.notices ++ dispatch.notice.toList }

/-- Looks at one entry, and announces the device that it opened. -/
def examine (directory : String) (lastScan : Option Time) (retry : List String) (scan : Scan)
    (listed : Listed) : Scan :=
  let (scan, opened?) := scan.look directory lastScan retry listed
  opened?.elim scan scan.announce

end Scan

/-- Looks at every entry of the directory.  A scan that cannot list it keeps what is to be looked
at again. -/
def scan (backend : Backend) (sighting : Sighting) : Backend × List Notice :=
  match sighting.listing? with
  | none => ({ backend with lastScan := some sighting.now }, [])
  | some listing =>
    let scan := listing.foldl (Scan.examine backend.directory backend.lastScan backend.retry)
      ⟨backend.registry, [], []⟩
    ({ backend with
        registry := scan.registry, retry := scan.retry, lastScan := some sighting.now },
      scan.notices)

def detect (backend : Backend) (sighting : Sighting) : Backend × List Notice :=
  if backend.initialized then backend.scan sighting else (backend, [])

/-! ## Readers -/

/-- The reader of a device has gone on and queued some events. -/
def advance (backend : Backend) (entry : Entry Node) (reader : Reader) (kinds : List EventKind) :
    Backend :=
  { backend with
    registry := backend.registry.setData entry.id { entry.data with reader }
    queue := backend.queue.pushAll (kinds.map (⟨entry.id, ·⟩)) }

/-! ## Processing -/

/-- Delivers what the readers queued.  A device leaves with its removal, which is the last event
of its reader. -/
def process (backend : Backend) : Backend × List Notice :=
  if backend.initialized then
    let (events, queue) := backend.queue.take
    let (registry, dispatches) := backend.registry.dispatchAll events
    ({ backend with registry, queue }, Dispatch.notices dispatches)
  else (backend, [])

/-! ## Shutdown -/

/-- Takes every device out.  Their readers may queue events until each is stopped. -/
def drain (backend : Backend) : Backend × List (Entry Node) :=
  let (registry, entries) := backend.registry.drain
  ({ backend with registry }, entries)

/-- Forgets what was queued and every scan. -/
def reset (backend : Backend) : Backend :=
  { backend with queue := .empty, lastScan := none, retry := [], initialized := false }

/-- Lets go of every device without a notice. -/
def shutdown (backend : Backend) : Backend := backend.drain.1.reset

end Backend

end GamepadInput.Evdev
