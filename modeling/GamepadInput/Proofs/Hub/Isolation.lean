import GamepadInput.Hub
import GamepadInput.Proofs.Registry.Isolation

/-!
# One device of a hub

The restriction of a registry to one device extends to the two queues beside it.  Dispatching
commutes with it too, also where attaches are taken ahead of input: an attach goes ahead of the
input of its own device and of no other (`announces_only`).
-/

namespace GamepadInput

namespace EventQueue

/-- The waiting events of one device. -/
def only (queue : EventQueue) (id : DeviceId) : EventQueue :=
  ⟨queue.events.filter (·.device = id)⟩

theorem only_push_self (queue : EventQueue) (id : DeviceId) (kind : EventKind) :
    (queue.push ⟨id, kind⟩).only id = (queue.only id).push ⟨id, kind⟩ := by
  simp [only, push]

theorem only_push_other (queue : EventQueue) {id other : DeviceId} (kind : EventKind)
    (differ : other ≠ id) : (queue.push ⟨other, kind⟩).only id = queue.only id := by
  simp [only, push, differ]

theorem only_purge_self (queue : EventQueue) (id : DeviceId) :
    (queue.purge id).only id = (queue.only id).purge id := by
  simp [only, purge]

theorem only_purge_other (queue : EventQueue) {id other : DeviceId} (differ : other ≠ id) :
    (queue.purge other).only id = queue.only id := by
  simp only [only, purge, List.filter_filter]
  congr 1
  apply List.filter_congr
  intro event _
  by_cases mine : event.device = id
  · simp [mine, Ne.symm differ]
  · simp [mine]

@[simp] theorem count_only (queue : EventQueue) (id : DeviceId) :
    (queue.only id).count id = queue.count id := by
  simp [only, count, List.countP_filter]

theorem announces_only (batch : List Event) {event : Event} {id : DeviceId}
    (mine : event.device = id) :
    announces (batch.filter (·.device = id)) event = announces batch event := by
  simp only [announces, mine, List.any_filter]
  congr 2
  funext other
  simp

/-- Attaches of a device that are taken ahead of a batch are taken ahead of its own input. -/
theorem only_takeAttaches (queue : EventQueue) (batch : List Event) (id : DeviceId) :
    ((queue.takeAttaches batch).1.filter (·.device = id), (queue.takeAttaches batch).2.only id) =
      (queue.only id).takeAttaches (batch.filter (·.device = id)) := by
  have taken (keep : Bool → Bool) :
      (queue.events.filter fun event => keep (announces batch event)).filter (·.device = id) =
        (queue.events.filter (·.device = id)).filter
          fun event => keep (announces (batch.filter (·.device = id)) event) := by
    simp only [List.filter_filter]
    apply List.filter_congr
    intro event _
    by_cases mine : event.device = id
    · simp only [announces_only batch mine, Bool.and_comm]
    · simp [mine]
  have ahead := taken fun announced => announced
  have behind := taken fun announced => !announced
  simp only [takeAttaches_eq, only, ahead, behind]

end EventQueue

namespace Hub

variable {α : Type}

/-- The part of a hub that concerns one device. -/
def only (hub : Hub α) (id : DeviceId) : Hub α :=
  ⟨hub.registry.only id, hub.deviceEvents.only id, hub.inputEvents.only id⟩

variable (hub : Hub α) (id : DeviceId)

/-! ## Operations on one device -/

section Operations

variable {id} {other : DeviceId}

theorem only_attach_other (device : Device) (data : α) (differ : hub.registry.nextId ≠ id) :
    (hub.attach device data).1.only id =
      { hub.only id with
        registry := { hub.registry.only id with nextId := hub.registry.nextId + 1 } } := by
  have queue := hub.deviceEvents.only_push_other .attached differ
  simp only [attach, only, Registry.only_insert_other hub.registry device data differ]
  simpa only [Registry.insert, Event.attached, mk.injEq, true_and, and_true] using queue

theorem only_queueInput_self (id : DeviceId) (kinds : List EventKind) :
    (hub.queueInput id kinds).only id = (hub.only id).queueInput id kinds := by
  simp [queueInput, only, EventQueue.only, EventQueue.pushAll, List.filter_map, Function.comp_def]

theorem only_queueInput_other (kinds : List EventKind) (differ : other ≠ id) :
    (hub.queueInput other kinds).only id = hub.only id := by
  simp [queueInput, only, EventQueue.only, EventQueue.pushAll, List.filter_map, Function.comp_def,
    differ]

theorem only_unplug?_self (id : DeviceId) :
    (hub.unplug? id).map (·.only id) = (hub.only id).unplug? id := by
  have retire := hub.registry.only_retire?_self id
  simp only [unplug?, only, ← retire, Option.map_map, EventQueue.count_only]
  apply Option.map_congr
  intro registry _
  have release := registry.only_release_self id
  simp only [Prod.ext_iff] at release
  simp only [Function.comp_apply]
  split <;>
    simp only [← release.1, EventQueue.only_purge_self, Event.removed, EventQueue.only_push_self]

theorem only_unplug?_other {after : Hub α} (unplugged : hub.unplug? other = some after)
    (differ : other ≠ id) : after.only id = hub.only id := by
  obtain ⟨registry, retired, rfl⟩ := Option.map_eq_some_iff.mp unplugged
  have kept := hub.registry.only_retire?_other retired differ
  split
  · have queue := (hub.deviceEvents.purge other).only_push_other .removed differ
    simp only [only, kept, Event.removed, queue, EventQueue.only_purge_other _ differ]
  · simp only [only, registry.only_release_other differ, kept,
      EventQueue.only_purge_other _ differ]

end Operations

/-! ## Unplugging -/

theorem nextId_unplug : (hub.unplug id).registry.nextId = hub.registry.nextId := by
  cases retired : hub.registry.retire? id with
  | none => simp [unplug, unplug?, retired]
  | some after =>
    simp only [unplug, unplug?, retired, Option.map_some, Option.getD_some]
    split <;> simp [hub.registry.nextId_retire? retired]

theorem live_unplug : (hub.unplug id).registry.live.Sublist hub.registry.live := by
  cases retired : hub.registry.retire? id with
  | none => simp [unplug, unplug?, retired]
  | some after =>
    have fewer := hub.registry.live_retire? retired
    simp only [unplug, unplug?, retired, Option.map_some, Option.getD_some]
    split
    · exact fewer
    · exact (after.live_release id).trans fewer

/-! ## Dispatching -/

theorem only_dispatchDevices :
    hub.dispatchDevices.1.only id = (hub.only id).dispatchDevices.1 ∧
      heardOf (Dispatch.notices hub.dispatchDevices.2) id =
        Dispatch.notices (hub.only id).dispatchDevices.2 := by
  obtain ⟨state, heard⟩ := hub.registry.only_dispatchAll hub.deviceEvents.events id
  rw [← filter_device] at state heard
  exact ⟨by simp only [dispatchDevices, dispatchAll, EventQueue.take, only, state]; rfl, heard⟩

theorem only_dispatchInput :
    hub.dispatchInput.1.only id = (hub.only id).dispatchInput.1 ∧
      heardOf (Dispatch.notices hub.dispatchInput.2) id =
        Dispatch.notices (hub.only id).dispatchInput.2 := by
  obtain ⟨state, heard⟩ := hub.registry.only_dispatchAll hub.inputEvents.events id
  rw [← filter_device] at state heard
  exact ⟨by simp only [dispatchInput, dispatchAll, EventQueue.take, only, state]; rfl, heard⟩

theorem only_dispatchAnnounced :
    hub.dispatchAnnounced.1.only id = (hub.only id).dispatchAnnounced.1 ∧
      heardOf (Dispatch.notices hub.dispatchAnnounced.2) id =
        Dispatch.notices (hub.only id).dispatchAnnounced.2 := by
  have attaches := hub.deviceEvents.only_takeAttaches hub.inputEvents.events id
  obtain ⟨state, heard⟩ := hub.registry.only_dispatchAll
    ((hub.deviceEvents.takeAttaches hub.inputEvents.events).1 ++ hub.inputEvents.events) id
  simp only [Prod.ext_iff] at attaches
  rw [← filter_device, List.filter_append, attaches.1] at state heard
  constructor
  · simp only [dispatchAnnounced, dispatchAll, EventQueue.take, only, state, attaches.2]
    rfl
  · exact heard

theorem only_clear : hub.clear.only id = (hub.only id).clear := by
  simp [clear, only, Registry.drain, Registry.only, EventQueue.only, EventQueue.empty]

end Hub

end GamepadInput
