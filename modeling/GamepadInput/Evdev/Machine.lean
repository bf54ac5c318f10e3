import GamepadInput.Evdev.Backend
import GamepadInput.Evdev.Stream

/-!
# A simulated directory of event nodes

Nodes come and go under names, produce samples, and end.  What a node produced before it was opened
is kept for whoever opens it next.

`Bench` is a backend that runs on such a directory.  Its readers run when it is left to settle, and
not during a call.
-/

namespace GamepadInput.Evdev

/-- A node that was made. -/
structure InputNode where
  name : String
  /-- The directory has an entry for it. -/
  listed : Bool
  /-- The entry tells a time of modification. -/
  dated : Bool
  /-- Modified no earlier than any scan; otherwise earlier than every scan. -/
  fresh : Bool
  opens : Bool
  answers : Answers
  readerStarts : Bool
  /-- Reads succeed. -/
  readable : Bool
  /-- The node is a directory. -/
  isDirectory : Bool
  /-- Bytes that wait to be read. -/
  waiting : List UInt8
  /-- Nothing comes after what waits. -/
  ended : Bool
  deriving DecidableEq, Repr

structure Machine where
  /-- Names from the root to the directory, if there is one. -/
  directory? : Option (List String)
  /-- Every node ever made; a node is known by its place. -/
  nodes : List InputNode
  now : Time
  deriving DecidableEq, Repr

namespace Machine

/-- Time of modification of nodes that are not fresh, before every scan. -/
def longAgo : Time := 0

def firstTime : Time := 1

/-- A machine with an empty directory at a path, or with none. -/
def empty (directory? : Option String) : Machine := ⟨directory?.map Path.names, [], firstTime⟩

/-- Changes every node that the directory lists under a name. -/
def modifyListed (machine : Machine) (name : String) (f : InputNode → InputNode) : Machine :=
  { machine with nodes := machine.nodes.map fun node =>
      if node.listed && node.name = name then f node else node }

/-- The most recent node of a name, listed or not. -/
def latest? (machine : Machine) (name : String) : Option NodeRef :=
  ((machine.nodes.zipIdx.filter (·.1.name = name)).map (·.2)).getLast?

/-- Changes the most recent node of a name. -/
def modifyLatest (machine : Machine) (name : String) (f : InputNode → InputNode) : Machine :=
  match machine.latest? name with
  | some ref => { machine with nodes := machine.nodes.modify ref f }
  | none => machine

/-- Removes the entry of a name. -/
def unlink (machine : Machine) (name : String) : Machine :=
  machine.modifyListed name fun node => { node with listed := false }

/-- Makes a node in place of what was there under its name. -/
def add (machine : Machine) (node : InputNode) : Machine :=
  let machine := machine.unlink node.name
  { machine with nodes := machine.nodes ++ [node] }

def touch (machine : Machine) (name : String) (fresh : Bool) : Machine :=
  machine.modifyLatest name fun node => { node with fresh }

/-- A node produces bytes to be read. -/
def produce (machine : Machine) (name : String) (bytes : List UInt8) : Machine :=
  machine.modifyLatest name fun node => { node with waiting := node.waiting ++ bytes }

/-- A node produces samples. -/
def emit (machine : Machine) (name : String) (samples : List Sample) : Machine :=
  machine.produce name (samples.flatMap (·.toRecord))

/-- What a reader of a node finds. -/
def available (machine : Machine) (ref : NodeRef) : List Reading :=
  match machine.nodes[ref]? with
  | some node =>
    if node.readable then readings node.waiting ++ if node.ended then [.ended] else []
    else [.ended]
  | none => []

/-- The machine after readings of a node were taken. -/
def consume (machine : Machine) (ref : NodeRef) (count : Nat) : Machine :=
  { machine with nodes := machine.nodes.modify ref fun node =>
      { node with waiting := node.waiting.drop (count * Sample.recordSize) } }

/-- A node ends. -/
def finish (machine : Machine) (name : String) : Machine :=
  machine.modifyLatest name fun node => { node with ended := true }

/-- A node that ended can be opened again, and has nothing waiting. -/
def renew (machine : Machine) (name : String) : Machine :=
  machine.modifyLatest name fun node => { node with ended := false, waiting := [] }

/-! ## The directory -/

/-- There is a directory at the end of some names from the root: the directory of the nodes, one on
the way to it, or a node that is one. -/
def hasDirectory (machine : Machine) (names : List String) : Bool :=
  machine.directory?.any fun home =>
    names.isPrefixOf home || machine.nodes.any fun node =>
      node.listed && node.isDirectory && names = home ++ [node.name]

/-- Follows names from a directory, through directories only. -/
def follow? (machine : Machine) : (place names : List String) → Option (List String)
  | place, [] => some place
  | place, name :: rest =>
    let next := if name = Path.parent then place.dropLast else place ++ [name]
    if machine.hasDirectory next then machine.follow? next rest else none

/-- The path leads to the directory of the nodes. -/
def isDirectory (machine : Machine) (path : String) : Bool :=
  Path.isAbsolute path && machine.directory?.any fun home =>
    machine.follow? [] (Path.names path) = some home

/-- A node as a scan finds it. -/
def listed (machine : Machine) (node : InputNode) (ref : NodeRef) : Listed where
  name := node.name
  modified? := if node.dated then some (if node.fresh then machine.now else longAgo) else none
  opening? := if node.opens then some ⟨ref, node.answers, node.readerStarts⟩ else none

/-- What a detection that scans a directory is answered. -/
def sighting (machine : Machine) (directory : String) : Sighting where
  now := machine.now
  listing? :=
    if machine.isDirectory directory then
      some ((machine.nodes.zipIdx.filter (·.1.listed)).map fun (node, ref) =>
        machine.listed node ref)
    else none

end Machine

/-- A backend on a simulated directory. -/
structure Bench where
  backend : Backend
  machine : Machine
  deriving DecidableEq, Repr

namespace Bench

def ofDirectory (directory : String) (machine : Machine) : Bench :=
  ⟨.ofDirectory directory, machine⟩

/-- Changes the machine. -/
def onMachine (bench : Bench) (f : Machine → Machine) : Bench :=
  { bench with machine := f bench.machine }

/-- Lets the reader of one device read everything there is. -/
def settleOne (bench : Bench) (entry : Entry Node) : Bench :=
  let ref := entry.data.ref
  let run := entry.data.reader.run (bench.machine.available ref)
  ⟨bench.backend.advance entry run.reader run.kinds, bench.machine.consume ref run.taken⟩

/-- Lets every reader read everything there is. -/
def settle (bench : Bench) : Bench := bench.backend.registry.live.foldl settleOne bench

/-- The most recent node of a name ends.  Its reader reads what is left and finishes; without a
reader, what it produced is lost. -/
def hangUp (bench : Bench) (name : String) : Bench :=
  (bench.onMachine (·.finish name)).settle.onMachine (·.renew name)

instance : GamepadInput.Backend Bench where
  start bench := .ok { bench with backend := bench.backend.start }
  shutdown bench := { bench with backend := bench.backend.shutdown }
  devices bench := bench.backend.registry.devices
  detect bench :=
    let (backend, notices) := bench.backend.detect (bench.machine.sighting bench.backend.directory)
    .ok (⟨backend, { bench.machine with now := bench.machine.now + 1 }⟩, notices)
  process bench :=
    let (backend, notices) := bench.backend.process
    .ok ({ bench with backend }, notices)

end Bench

end GamepadInput.Evdev
