import GamepadInput.Event

/-!
# Event queues

Events wait in order until a batch is taken.  Taking moves every waiting event out at once, so what
is queued while a batch is dispatched waits for the next one.
-/

namespace GamepadInput

/-- Waiting events, the oldest first. -/
structure EventQueue where
  events : List Event
  deriving DecidableEq, Repr

namespace EventQueue

def empty : EventQueue := ⟨[]⟩

def size (queue : EventQueue) : Nat := queue.events.length

def isEmpty (queue : EventQueue) : Bool := queue.events.isEmpty

def push (queue : EventQueue) (event : Event) : EventQueue := ⟨queue.events ++ [event]⟩

def pushAll (queue : EventQueue) (events : List Event) : EventQueue := ⟨queue.events ++ events⟩

/-- The waiting events; the queue left behind is empty. -/
def take (queue : EventQueue) : List Event × EventQueue := (queue.events, empty)

/-- The queue without the events of a device. -/
def purge (queue : EventQueue) (device : DeviceId) : EventQueue :=
  ⟨queue.events.filter fun event => event.device ≠ device⟩

/-- Number of waiting events of a device. -/
def count (queue : EventQueue) (device : DeviceId) : Nat :=
  queue.events.countP fun event => event.device = device

/-- An attach whose device has an event in `batch`. -/
def announces (batch : List Event) (event : Event) : Bool :=
  event.kind = .attached && batch.any fun other => other.device = event.device

/-- Moves out the attaches of the devices in `batch`, so that they can go ahead of it. -/
def takeAttaches (queue : EventQueue) (batch : List Event) : List Event × EventQueue :=
  let (attaches, rest) := queue.events.partition (announces batch)
  (attaches, ⟨rest⟩)

@[simp] theorem events_push (queue : EventQueue) (event : Event) :
    (queue.push event).events = queue.events ++ [event] := rfl

@[simp] theorem events_pushAll (queue : EventQueue) (events : List Event) :
    (queue.pushAll events).events = queue.events ++ events := rfl

theorem size_purge (queue : EventQueue) (device : DeviceId) :
    (queue.purge device).size + queue.count device = queue.size := by
  have split := List.length_eq_countP_add_countP (fun event : Event => event.device = device)
    (l := queue.events)
  simp only [size, purge, count, ← List.countP_eq_length_filter, ne_eq, decide_not]
  simp only [decide_eq_true_eq, decide_not] at split
  omega

theorem takeAttaches_eq (queue : EventQueue) (batch : List Event) :
    queue.takeAttaches batch =
      (queue.events.filter (announces batch), ⟨queue.events.filter (!announces batch ·)⟩) := by
  simp [takeAttaches, List.partition_eq_filter_filter, Function.comp_def]

end EventQueue

end GamepadInput
