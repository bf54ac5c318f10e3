import GamepadInput.Evdev.Backend

/-!
# Readers beside the consumer

A session is a sequence of steps, each of the consumer or of one reader, in any order.  A reader
takes one sample in a step and queues one event in a step.  A call of the consumer takes many steps,
and readers may take theirs between any two of them: a detection looks at one entry in a step and
announces what it opened there in another, when the reader runs already; processing takes the whole
queue at once and then delivers it event by event; a shutdown takes the devices out, stops their
readers one after the other, and empties the queue when none is left.
-/

namespace GamepadInput.Evdev

/-- What the consumer is in the middle of. -/
inductive Consumer where
  | idle
  /-- Going through the directory since `now`.  The paths in `retry` are to be looked at again, and
  the device `opened?` is announced next. -/
  | detecting (now : Time) (retry : List String) (opened? : Option DeviceId)
  /-- Delivering what was taken from the queue. -/
  | processing (batch : List Event)
  /-- Stopping the readers of devices that were taken out. -/
  | stopping (entries : List (Entry Node))
  deriving DecidableEq, Repr

structure Session where
  backend : Backend
  consumer : Consumer
  deriving DecidableEq, Repr

inductive Step where
  | start
  /-- A detection begins; `listable` tells whether the directory can be listed. -/
  | beginDetect (now : Time) (listable : Bool)
  | examine (listed : Listed)
  | announce
  | endDetect
  | beginProcess
  | deliver
  | endProcess
  | beginShutdown
  /-- The next reader is stopped and has ended. -/
  | stop
  | endShutdown
  /-- The reader of a device takes what a read found. -/
  | read (id : DeviceId) (reading : Reading)
  /-- The reader of a device queues its next event. -/
  | send (id : DeviceId)
  deriving DecidableEq, Repr

/-- What steps did. -/
structure Effect where
  session : Session
  /-- The calls that listeners received. -/
  notices : List Notice
  /-- The events that readers queued. -/
  queued : List Event
  /-- The devices whose readers were started. -/
  started : List DeviceId
  deriving DecidableEq, Repr

namespace Effect

/-- Steps that only brought the session somewhere. -/
def silent (session : Session) : Effect := ⟨session, [], [], []⟩

end Effect

namespace Session

def ofBackend (backend : Backend) : Session := ⟨backend, .idle⟩

/-- The first step of a call of the consumer, which is not in the middle of another. -/
def call? (session : Session) (f : Backend → Session) : Option Effect :=
  match session.consumer with
  | .idle => some (.silent (f session.backend))
  | .detecting .. | .processing _ | .stopping _ => none

/-- A call does nothing before the backend is started. -/
def startedCall? (session : Session) (f : Backend → Session) : Option Effect :=
  session.call? fun backend => if backend.initialized then f backend else session

/-! ## Steps of a detection -/

def beginDetect? (session : Session) (now : Time) (listable : Bool) : Option Effect :=
  session.startedCall? fun backend =>
    if listable then ⟨backend, .detecting now [] none⟩
    else ⟨{ backend with lastScan := some now }, .idle⟩

def examine? (session : Session) (listed : Listed) : Option Effect :=
  let backend := session.backend
  match session.consumer with
  | .detecting now retry none =>
    let (scan, opened?) := Backend.Scan.look backend.directory backend.lastScan backend.retry
      ⟨backend.registry, retry, []⟩ listed
    some ⟨⟨{ backend with registry := scan.registry }, .detecting now scan.retry opened?⟩,
      scan.notices, [], opened?.toList⟩
  | .detecting _ _ (some _) | .idle | .processing _ | .stopping _ => none

def announce? (session : Session) : Option Effect :=
  let backend := session.backend
  match session.consumer with
  | .detecting now retry (some id) =>
    let scan := Backend.Scan.announce ⟨backend.registry, retry, []⟩ id
    some ⟨⟨{ backend with registry := scan.registry }, .detecting now scan.retry none⟩,
      scan.notices, [], []⟩
  | .detecting _ _ none | .idle | .processing _ | .stopping _ => none

def endDetect? (session : Session) : Option Effect :=
  match session.consumer with
  | .detecting now retry none =>
    some (.silent ⟨{ session.backend with retry, lastScan := some now }, .idle⟩)
  | .detecting _ _ (some _) | .idle | .processing _ | .stopping _ => none

/-! ## Steps of processing -/

def beginProcess? (session : Session) : Option Effect :=
  session.startedCall? fun backend =>
    let (events, queue) := backend.queue.take
    ⟨{ backend with queue }, .processing events⟩

def deliver? (session : Session) : Option Effect :=
  match session.consumer with
  | .processing (event :: rest) =>
    let dispatch := session.backend.registry.dispatch event
    some ⟨⟨{ session.backend with registry := dispatch.registry }, .processing rest⟩,
      dispatch.notice.toList, [], []⟩
  | .processing [] | .idle | .detecting .. | .stopping _ => none

def endProcess? (session : Session) : Option Effect :=
  match session.consumer with
  | .processing [] => some (.silent ⟨session.backend, .idle⟩)
  | .processing (_ :: _) | .idle | .detecting .. | .stopping _ => none

/-! ## Steps of a shutdown -/

def beginShutdown? (session : Session) : Option Effect :=
  session.call? fun backend =>
    let (backend, entries) := backend.drain
    ⟨backend, .stopping entries⟩

def stop? (session : Session) : Option Effect :=
  match session.consumer with
  | .stopping (_ :: rest) => some (.silent ⟨session.backend, .stopping rest⟩)
  | .stopping [] | .idle | .detecting .. | .processing _ => none

def endShutdown? (session : Session) : Option Effect :=
  match session.consumer with
  | .stopping [] => some (.silent ⟨session.backend.reset, .idle⟩)
  | .stopping (_ :: _) | .idle | .detecting .. | .processing _ => none

/-! ## Steps of a reader -/

/-- The reader of a device that a shutdown has taken out goes on and queues some events. -/
def advanceStopping (session : Session) (entries : List (Entry Node)) (id : DeviceId)
    (reader : Reader) (kinds : List EventKind) : Session :=
  ⟨{ session.backend with queue := session.backend.queue.pushAll (kinds.map (⟨id, ·⟩)) },
    .stopping (Registry.update entries id fun entry =>
      { entry with data := { entry.data with reader } })⟩

/-- A step of the reader of a device: what becomes of the reader, and what it queues. -/
def readerStep? (session : Session) (id : DeviceId)
    (f : Reader → Option (Reader × List EventKind)) : Option Effect :=
  match session.backend.registry.get? id with
  | some entry => do
    let (reader, kinds) ← f entry.data.reader
    pure ⟨{ session with backend := session.backend.advance entry reader kinds }, [],
      kinds.map (⟨id, ·⟩), []⟩
  | none =>
    match session.consumer with
    | .stopping entries => do
      let entry ← entries.find? (·.id = id)
      let (reader, kinds) ← f entry.data.reader
      pure ⟨session.advanceStopping entries id reader kinds, [], kinds.map (⟨id, ·⟩), []⟩
    | .idle | .detecting .. | .processing _ => none

def read? (session : Session) (id : DeviceId) (reading : Reading) : Option Effect :=
  session.readerStep? id fun reader =>
    if reader.isWaiting then some (reader.take reading, []) else none

def send? (session : Session) (id : DeviceId) : Option Effect :=
  session.readerStep? id fun reader => reader.send?.map fun (kind, reader) => (reader, [kind])

/-! ## Sequences of steps -/

/-- One step; `none` if it cannot be taken now. -/
def step? (session : Session) : Step → Option Effect
  | .start => session.call? fun backend => ⟨backend.start, .idle⟩
  | .beginDetect now listable => session.beginDetect? now listable
  | .examine listed => session.examine? listed
  | .announce => session.announce?
  | .endDetect => session.endDetect?
  | .beginProcess => session.beginProcess?
  | .deliver => session.deliver?
  | .endProcess => session.endProcess?
  | .beginShutdown => session.beginShutdown?
  | .stop => session.stop?
  | .endShutdown => session.endShutdown?
  | .read id reading => session.read? id reading
  | .send id => session.send? id

/-- Takes steps in order; `none` if one of them cannot be taken. -/
def run? (session : Session) : List Step → Option Effect
  | [] => some (.silent session)
  | step :: rest => do
    let first ← session.step? step
    let others ← first.session.run? rest
    pure ⟨others.session, first.notices ++ others.notices, first.queued ++ others.queued,
      first.started ++ others.started⟩

end Session

end GamepadInput.Evdev
