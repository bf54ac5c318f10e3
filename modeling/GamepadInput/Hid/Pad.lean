import GamepadInput.Hid.Parser

/-!
# Polling a HID device

A device is read without blocking, report by report, up to a limit for each poll.  One that refuses
such reads is asked for its current report instead.  A read that fails means that the device is
gone.
-/

namespace GamepadInput.Hid

/-- How reports are fetched. -/
inductive ReadMode where
  /-- Reads from the buffer of the driver. -/
  | buffered
  /-- One request for each poll. -/
  | polled
  deriving DecidableEq, Repr

/-- What one read finds: bytes, or a failure. -/
abbrev Read := Option Report

/-- What the system has for an open device: reads in order, then none with any bytes. -/
structure Link where
  waiting : List Read
  queries : Queries

/-- An open device. -/
structure Pad where
  path : String
  mode : ReadMode
  parser : Parser
  deriving DecidableEq, Repr

/-- What a poll did. -/
structure Poll where
  pad : Pad
  kinds : List EventKind
  /-- A read failed. -/
  failed : Bool
  /-- Number of reads that found something. -/
  taken : Nat
  deriving DecidableEq, Repr

namespace Pad

/-- Least size of the buffer for a read. -/
def leastBuffer : Nat := 64

/-- Bytes that a read can take. -/
def bufferLength (pad : Pad) : Nat := max pad.parser.bufferLength leastBuffer

/-- Reads up to `limit` reports; a read without bytes is the last. -/
def drain (pad : Pad) (queries : Queries) : (limit : Nat) → List Read → Except Overflow Poll
  | 0, _ => .ok ⟨pad, [], false, 0⟩
  | _, [] => .ok ⟨pad, [], false, 0⟩
  | _, none :: _ => .ok ⟨pad, [], true, 1⟩
  | limit + 1, some data :: rest =>
    let data := data.take pad.bufferLength
    if data.isEmpty then .ok ⟨pad, [], false, 1⟩
    else do
      let (parser, kinds) ← pad.parser.readBuffered queries data
      let poll ← { pad with parser }.drain queries limit rest
      pure { poll with kinds := kinds ++ poll.kinds, taken := poll.taken + 1 }

/-- Asks for the current report. -/
def request (pad : Pad) (queries : Queries) : List Read → Except Overflow Poll
  | [] => .ok ⟨pad, [], false, 0⟩
  | none :: _ => .ok ⟨pad, [], true, 1⟩
  | some data :: _ => do
    let (parser, kinds) ← pad.parser.read queries (data.take pad.bufferLength)
    pure ⟨{ pad with parser }, kinds, false, 1⟩

/-- Reads what the device has, at most `limit` reports. -/
def poll (pad : Pad) (limit : Nat) (link : Link) : Except Overflow Poll :=
  match pad.mode with
  | .buffered => pad.drain link.queries limit link.waiting
  | .polled => pad.request link.queries link.waiting

end Pad

end GamepadInput.Hid
