import GamepadInput.Evdev.Session
import GamepadInput.Proofs.Registry.Alone

/-!
# Where a device of a session stands

A session holds of one device nothing yet, a registered entry with its events on their way, an entry
that a shutdown has taken out while its reader still runs, or nothing any more.
-/

namespace GamepadInput.Evdev

namespace Consumer

/-- Events taken from the queue and not delivered yet. -/
def batch : Consumer → List Event
  | processing batch => batch
  | idle | detecting .. | stopping _ => []

/-- Device that is announced next. -/
def opened? : Consumer → Option DeviceId
  | detecting _ _ opened? => opened?
  | idle | processing _ | stopping _ => none

/-- Devices taken out whose readers still run. -/
def entries : Consumer → List (Entry Node)
  | stopping entries => entries
  | idle | detecting .. | processing _ => []

def isStopping : Consumer → Bool
  | stopping _ => true
  | idle | detecting .. | processing _ => false

end Consumer

/-- What a session holds of one device. -/
inductive Stage where
  /-- Not numbered yet. -/
  | absent
  /-- Registered, with its events that were taken for delivery and those in the queue. -/
  | live (entry : Entry Node) (announced : Bool) (batch queue : List EventKind)
  /-- Taken out, with its reader running. -/
  | stopping (entry : Entry Node)
  /-- Gone for good, or numbered in vain. -/
  | gone

namespace Stage

def isAbsent : Stage → Bool
  | absent => true
  | live .. | stopping _ | gone => false

def live? : Stage → Option (Entry Node)
  | live entry .. => some entry
  | absent | stopping _ | gone => none

def stopping? : Stage → Option (Entry Node)
  | stopping entry => some entry
  | absent | live .. | gone => none

/-- Its reader was started, and it is announced next. -/
def isOpened : Stage → Bool
  | live _ announced .. => !announced
  | absent | stopping _ | gone => false

/-- Events that are on their way: those taken for delivery and those in the queue.  Events of a
device that is gone reach nobody. -/
def pending? : Stage → Option (List EventKind × List EventKind)
  | absent => some ([], [])
  | live _ _ batch queue => some (batch, queue)
  | stopping _ | gone => none

end Stage

namespace Session

/-- A device stands somewhere in a session. -/
structure Holds (session : Session) (id : DeviceId) (stage : Stage) : Prop where
  registry : session.backend.registry.only id =
    ⟨stage.live?.toList, [], session.backend.registry.nextId⟩
  entries : session.consumer.entries.filter (·.id = id) = stage.stopping?.toList
  pending : ∀ pending ∈ stage.pending?,
    (kindsOf session.consumer.batch id, kindsOf session.backend.queue.events id) = pending
  opened : session.consumer.opened? = some id ↔ stage.isOpened = true
  absent_iff : stage.isAbsent = true ↔ session.backend.registry.nextId ≤ id
  settled : session.consumer.isStopping = true → stage.live? = none

end Session

section Trivialities

variable {consumer : Consumer} {stage : Stage} {id : DeviceId}

theorem unless_stopping {p : Prop} (going : consumer.isStopping = false) :
    consumer.isStopping = true → p := by
  simp [going]

theorem unopened_iff (unopened : consumer.opened? = none) (announced : stage.isOpened = false) :
    consumer.opened? = some id ↔ stage.isOpened = true := by
  simp [unopened, announced]

theorem unless_pending {p : List EventKind × List EventKind → Prop} (lost : stage.pending? = none) :
    ∀ pending ∈ stage.pending?, p pending := by
  simp [lost]

end Trivialities

namespace Session.Holds

variable {session next : Session} {id : DeviceId} {stage : Stage} {entry : Entry Node}

theorem live_id (holds : session.Holds id stage) (live : stage.live? = some entry) :
    entry.id = id := by
  have filtered : session.backend.registry.live.filter (·.id = id) = [entry] := by
    have same := congrArg Registry.live holds.registry
    rw [live] at same
    exact same
  have member : entry ∈ session.backend.registry.live.filter (·.id = id) := by
    rw [filtered]
    exact List.mem_singleton_self entry
  simpa using (List.mem_filter.mp member).2

theorem get?_eq (holds : session.Holds id stage) :
    session.backend.registry.get? id = stage.live? := by
  rw [← Registry.get?_only, holds.registry]
  cases live : stage.live? with
  | none => rfl
  | some entry => simp [Registry.get?, holds.live_id live]

/-- A step that assigns no numbers and takes a device to its next stage. -/
theorem stepped (holds : session.Holds id stage) {after : Stage}
    (only : next.backend.registry.only id =
      ⟨after.live?.toList, [], session.backend.registry.nextId⟩)
    (entries : next.consumer.entries.filter (·.id = id) = after.stopping?.toList)
    (pending : ∀ pending ∈ after.pending?,
      (kindsOf next.consumer.batch id, kindsOf next.backend.queue.events id) = pending)
    (opened : next.consumer.opened? = some id ↔ after.isOpened = true)
    (assigned : after.isAbsent = stage.isAbsent)
    (settled : next.consumer.isStopping = true → after.live? = none) : next.Holds id after := by
  have count : next.backend.registry.nextId = session.backend.registry.nextId := by
    have counts := congrArg Registry.nextId only
    exact counts
  exact ⟨by rw [only, count], entries, pending, opened, by rw [assigned, holds.absent_iff, count],
    settled⟩

/-- A step that changes nothing of the device. -/
theorem same (holds : session.Holds id stage)
    (only : next.backend.registry.only id = session.backend.registry.only id)
    (queue : kindsOf next.backend.queue.events id = kindsOf session.backend.queue.events id)
    (batch : kindsOf next.consumer.batch id = kindsOf session.consumer.batch id)
    (entries : next.consumer.entries.filter (·.id = id) =
      session.consumer.entries.filter (·.id = id))
    (opened : next.consumer.opened? = some id ↔ session.consumer.opened? = some id)
    (stopping : next.consumer.isStopping = true → session.consumer.isStopping = true) :
    next.Holds id stage :=
  holds.stepped (only.trans holds.registry) (entries.trans holds.entries)
    (by rw [batch, queue]; exact holds.pending) (opened.trans holds.opened) rfl
    fun stops => holds.settled (stopping stops)

end Session.Holds

end GamepadInput.Evdev
