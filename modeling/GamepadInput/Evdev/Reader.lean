import GamepadInput.Evdev.Decoder

/-!
# Readers

Each open node has a reader that runs beside the consumer.  It decodes one sample at a time and
queues what the sample reports, event by event.  When its node ends it queues the removal of the
device, after everything read before, and finishes.
-/

namespace GamepadInput.Evdev

/-- What one read of a node finds. -/
inductive Reading where
  | sample (sample : Sample)
  /-- The node is gone, or gave less than a whole sample. -/
  | ended
  deriving DecidableEq, Repr

structure Reader where
  decoder : Decoder
  /-- Events decoded and not queued yet. -/
  unsent : List EventKind
  /-- Nothing more is read. -/
  ended : Bool
  deriving DecidableEq, Repr

namespace Reader

def ofDecoder (decoder : Decoder) : Reader := ⟨decoder, [], false⟩

/-- Everything is read and queued. -/
def isFinished (reader : Reader) : Bool := reader.ended && reader.unsent.isEmpty

/-- The reader waits for input. -/
def isWaiting (reader : Reader) : Bool := !reader.ended && reader.unsent.isEmpty

/-- Takes what a read found.  A sample that cannot be decoded stops the reader without a removal. -/
def take (reader : Reader) : Reading → Reader
  | .sample sample =>
    match reader.decoder.decode sample with
    | .ok (decoder, kinds) => { reader with decoder, unsent := kinds }
    | .error _ => { reader with ended := true }
  | .ended => { reader with unsent := [.removed], ended := true }

/-- Hands out the next event to be queued. -/
def send? (reader : Reader) : Option (EventKind × Reader) :=
  match reader.unsent with
  | [] => none
  | kind :: unsent => some (kind, { reader with unsent })

/-- What a reader did that was left to itself. -/
structure Run where
  reader : Reader
  /-- The events queued. -/
  kinds : List EventKind
  /-- Number of readings taken. -/
  taken : Nat
  deriving DecidableEq, Repr

/-- Reads and queues until nothing is left to read or the reader has finished. -/
def run (reader : Reader) : List Reading → Run
  | [] => ⟨{ reader with unsent := [] }, reader.unsent, 0⟩
  | reading :: rest =>
    if reader.ended then ⟨{ reader with unsent := [] }, reader.unsent, 0⟩
    else
      let next := { reader with unsent := [] }.take reading |>.run rest
      ⟨next.reader, reader.unsent ++ next.kinds, next.taken + 1⟩

end Reader

end GamepadInput.Evdev
