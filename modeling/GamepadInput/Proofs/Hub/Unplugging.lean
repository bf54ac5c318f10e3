import GamepadInput.Proofs.Hub.Isolation
import GamepadInput.Proofs.Registry.Alone
import GamepadInput.Proofs.Registry.Effect

/-!
# Unplugging a device

Where no number is given twice, unplugging takes one entry out of the live list and its waiting
input out of the queue.  If its attach still waits, the entry leaves for good and so does the attach;
otherwise the entry is retired, its removal goes to the end of the lifecycle queue, and events find
the entry until the removal is dispatched.  Nothing else changes (`unplug_effect`).
-/

namespace GamepadInput

variable {α : Type}

namespace Registry

/-! ## A retired device -/

/-- A retired device follows its events as long as none removes it. -/
theorem dispatchAll_retired (nextId : DeviceId) {entry : Entry α} {id : DeviceId}
    (kinds : List EventKind) (mine : entry.id = id) (stays : .removed ∉ kinds) :
    ((⟨[], [entry], nextId⟩ : Registry α).dispatchAll (kinds.map (⟨id, ·⟩))).1 =
      ⟨[], [{ entry with device := entry.device.replay kinds }], nextId⟩ := by
  induction kinds generalizing entry with
  | nil => rfl
  | cons kind rest ih =>
    rw [List.mem_cons, not_or] at stays
    have sameId : entry.device.id = id := mine
    have one : ((⟨[], [entry], nextId⟩ : Registry α).dispatch ⟨id, kind⟩).registry =
        ⟨[], [{ entry with device := entry.device.apply kind }], nextId⟩ := by
      cases kind with
      | removed => exact absurd rfl stays.1
      | attached | button index down | axis change =>
        simp [dispatch, find?, get?, retired?, mine, setDevice, update, sameId]
    have mine' : ({ entry with device := entry.device.apply kind } : Entry α).id = id := by
      simpa [Entry.id] using mine
    simp only [List.map_cons, dispatchAll, one, ih mine' stays.2, Device.replay_cons]

/-- Events find the retired entry, with what they store in it, until the removal is dispatched.
That hands the entry back, and nothing finds it any more. -/
structure AwaitsRemoval (registry : Registry α) (entry : Entry α) : Prop where
  resolves : ∀ events, .removed entry.id ∉ events → ∃ device : Device,
    device.id = entry.id ∧
    (registry.dispatchAll events).1.get? entry.id = none ∧
    (registry.dispatchAll events).1.retired? entry.id = some { entry with device }
  released : ∀ events, .removed entry.id ∉ events →
    ((registry.dispatchAll events).1.dispatch (.removed entry.id)).released =
      (registry.dispatchAll events).1.retired? entry.id ∧
    ((registry.dispatchAll events).1.dispatch (.removed entry.id)).registry.find? entry.id = none

theorem awaitsRemoval_of_only {registry : Registry α} {entry : Entry α}
    (only_eq : registry.only entry.id = ⟨[], [entry], registry.nextId⟩) :
    registry.AwaitsRemoval entry := by
  have state (events : List Event) (stays : .removed entry.id ∉ events) :
      (registry.dispatchAll events).1.only entry.id =
        ⟨[], [{ entry with device := entry.device.replay (kindsOf events entry.id) }],
          registry.nextId⟩ := by
    have goes : .removed ∉ kindsOf events entry.id := by
      intro member
      obtain ⟨event, among, removal⟩ := List.mem_map.mp member
      obtain ⟨among, mine⟩ := List.mem_filter.mp among
      have same : event = .removed entry.id := by
        cases event
        simp_all [Event.removed]
      exact stays (same ▸ among)
    rw [(registry.only_dispatchAll events entry.id).1, only_eq,
      dispatchAll_retired registry.nextId _ rfl goes]
  constructor
  · intro events stays
    refine ⟨entry.device.replay (kindsOf events entry.id), by simp [Entry.id], ?_⟩
    rw [← get?_only, ← retired?_only, state events stays]
    simp [get?, retired?, Entry.id]
  · intro events stays
    have there := state events stays
    generalize (registry.dispatchAll events).1 = after at there
    have live : after.get? entry.id = none := by
      rw [← get?_only, there]
      rfl
    have found : after.retired? entry.id =
        some { entry with device := entry.device.replay (kindsOf events entry.id) } := by
      rw [← retired?_only, there]
      simp [retired?, Entry.id]
    constructor
    · simp [dispatch, find?, release, live, found, Event.removed]
    · have removed := (only_dispatch_self after (.removed entry.id)).1
      rw [← find?_only]
      rw [show (Event.removed entry.id).device = entry.id from rfl, there] at removed
      rw [removed]
      simp [dispatch, find?, get?, retired?, release, Event.removed, Entry.id]

end Registry

namespace Hub

/-! ## The effect -/

/-- The entry leaves without a trace. -/
structure Vanishes (entry : Entry α) (hub after : Hub α) : Prop where
  device_own : kindsOf after.deviceEvents.events entry.id = []
  retired_eq : after.registry.retired = hub.registry.retired
  unknown : after.registry.find? entry.id = none

/-- The entry is retired, and its removal waits behind everything else. -/
structure Retires (entry : Entry α) (hub after : Hub α) : Prop where
  device_eq : after.deviceEvents = hub.deviceEvents.push (.removed entry.id)
  device_own : kindsOf after.deviceEvents.events entry.id = [.removed]
  retired_eq : after.registry.retired = hub.registry.retired ++ [entry]
  awaits : after.registry.AwaitsRemoval entry

/-- What unplugging a live device does. -/
structure Unplugs (entry : Entry α) (hub after : Hub α) : Prop where
  /-- The entry leaves the live list, and the others stay as they are. -/
  live_eq : ∃ before behind, hub.registry.live = before ++ entry :: behind ∧
    after.registry.live = before ++ behind
  nextId_eq : after.registry.nextId = hub.registry.nextId
  not_live : after.registry.get? entry.id = none
  input_own : kindsOf after.inputEvents.events entry.id = []
  input_others : after.inputEvents.events.filter (·.device ≠ entry.id) =
    hub.inputEvents.events.filter (·.device ≠ entry.id)
  device_others : after.deviceEvents.events.filter (·.device ≠ entry.id) =
    hub.deviceEvents.events.filter (·.device ≠ entry.id)
  /-- Unplugging it again does nothing. -/
  again : after.unplug? entry.id = none ∧ after.unplug entry.id = after
  /-- The attach of the device waited, or not. -/
  outcome : if .attached entry.id ∈ hub.deviceEvents.events then Vanishes entry hub after
    else Retires entry hub after

theorem kindsOf_purge (queue : EventQueue) (id : DeviceId) :
    kindsOf (queue.purge id).events id = [] := by
  simp [kindsOf, EventQueue.purge]

theorem others_purge (queue : EventQueue) (id : DeviceId) :
    (queue.purge id).events.filter (·.device ≠ id) = queue.events.filter (·.device ≠ id) := by
  simp [EventQueue.purge]

theorem purge_of_kindsOf_nil {queue : EventQueue} {id : DeviceId}
    (nothing : kindsOf queue.events id = []) : queue.purge id = queue := by
  have others : ∀ event ∈ queue.events, event.device ≠ id := by
    simpa [kindsOf] using nothing
  have all : queue.events.filter (·.device ≠ id) = queue.events :=
    List.filter_eq_self.mpr fun event member => decide_eq_true (others event member)
  rw [EventQueue.purge, all]

theorem count_eq_length (queue : EventQueue) (id : DeviceId) :
    queue.count id = (kindsOf queue.events id).length := by
  simp [EventQueue.count, kindsOf, List.countP_eq_length_filter]

theorem attached_mem_iff {events : List Event} {id : DeviceId}
    (waits : kindsOf events id = [] ∨ kindsOf events id = [.attached]) :
    .attached id ∈ events ↔ kindsOf events id = [.attached] := by
  have member : .attached id ∈ events ↔ .attached ∈ kindsOf events id := by
    simp only [kindsOf, List.mem_map, List.mem_filter, decide_eq_true_eq]
    constructor
    · intro there
      exact ⟨_, ⟨there, rfl⟩, rfl⟩
    · rintro ⟨⟨device, kind⟩, ⟨there, rfl⟩, rfl⟩
      exact there
  rw [member]
  rcases waits with nothing | attach
  · simp [nothing]
  · simp [attach]

/-- A device that is not live cannot be unplugged. -/
theorem unplug?_unlive {hub : Hub α} {id : DeviceId} (unlive : hub.registry.get? id = none) :
    hub.unplug? id = none ∧ hub.unplug id = hub := by
  have refused : hub.unplug? id = none := by
    simp [unplug?, Registry.retire?, unlive]
  exact ⟨refused, by rw [unplug, refused, Option.getD_none]⟩

/-- A live entry is retired in its place among the others. -/
theorem retire?_single {registry : Registry α} {entry : Entry α}
    (distinct : ((registry.live ++ registry.retired).map Entry.id).Nodup)
    (live : entry ∈ registry.live) :
    ∃ before behind, registry.live = before ++ entry :: behind ∧
      (∀ other ∈ before ++ behind, other.id ≠ entry.id) ∧
      (∀ other ∈ registry.retired, other.id ≠ entry.id) ∧
      registry.retire? entry.id =
        some ⟨before ++ behind, registry.retired ++ [entry], registry.nextId⟩ := by
  obtain ⟨before, behind, split⟩ := List.append_of_mem live
  rw [split, List.append_assoc, List.cons_append] at distinct
  have others := Registry.others_of_distinct distinct
  have near : ∀ other ∈ before ++ behind, other.id ≠ entry.id := fun other member =>
    others other (by grind)
  have far : ∀ other ∈ registry.retired, other.id ≠ entry.id := fun other member =>
    others other (by grind)
  have found : registry.get? entry.id = some entry := by
    rw [Registry.get?, split, Registry.find?_single near]
  have left : registry.live.eraseP (·.id = entry.id) = before ++ behind := by
    rw [split, Registry.eraseP_single near, List.append_nil]
  exact ⟨before, behind, split, near, far, by simp [Registry.retire?, found, left]⟩

section Branches

variable {hub : Hub α} {entry : Entry α} {before behind : List (Entry α)}
  (split : hub.registry.live = before ++ entry :: behind)
  (near : ∀ other ∈ before ++ behind, other.id ≠ entry.id)
  (far : ∀ other ∈ hub.registry.retired, other.id ≠ entry.id)

include split near far

/-- The attach still waits: it is taken back, and the entry with it. -/
theorem unplugs_unannounced (waiting : .attached entry.id ∈ hub.deviceEvents.events) :
    Unplugs entry hub
      ⟨⟨before ++ behind, hub.registry.retired, hub.registry.nextId⟩,
        hub.deviceEvents.purge entry.id, hub.inputEvents.purge entry.id⟩ where
  live_eq := ⟨before, behind, split, rfl⟩
  nextId_eq := rfl
  not_live := Registry.find?_absent near
  input_own := kindsOf_purge _ _
  input_others := others_purge _ _
  device_others := others_purge _ _
  again := unplug?_unlive (Registry.find?_absent near)
  outcome := by
    rw [if_pos waiting]
    refine ⟨kindsOf_purge _ _, rfl, ?_⟩
    simp only [Registry.find?, Registry.get?, Registry.retired?, Registry.find?_absent near,
      Registry.find?_absent far, Option.or_none]

/-- Nothing of the device waits in the lifecycle queue: its removal is queued. -/
theorem unplugs_announced (nothing : kindsOf hub.deviceEvents.events entry.id = []) :
    Unplugs entry hub
      ⟨⟨before ++ behind, hub.registry.retired ++ [entry], hub.registry.nextId⟩,
        hub.deviceEvents.push (.removed entry.id), hub.inputEvents.purge entry.id⟩ where
  live_eq := ⟨before, behind, split, rfl⟩
  nextId_eq := rfl
  not_live := Registry.find?_absent near
  input_own := kindsOf_purge _ _
  input_others := others_purge _ _
  device_others := by simp [Event.removed]
  again := unplug?_unlive (Registry.find?_absent near)
  outcome := by
    rw [if_neg (by simp [attached_mem_iff (.inl nothing), nothing])]
    refine ⟨rfl, ?_, rfl, Registry.awaitsRemoval_of_only ?_⟩
    · rw [EventQueue.events_push, kindsOf_append, nothing]
      simp [kindsOf, Event.removed]
    · have gone : (before ++ behind).filter (·.id = entry.id) = [] :=
        List.filter_eq_nil_iff.mpr fun other member => by simpa using near other member
      have alone : hub.registry.retired.filter (·.id = entry.id) = [] :=
        List.filter_eq_nil_iff.mpr fun other member => by simpa using far other member
      simp only [Registry.only, gone, List.filter_append, alone]
      simp

end Branches

/-- Where no number is given twice, unplugging a device that is not live does nothing.  One that is
live, and of which at most its attach waits in the lifecycle queue, leaves the live list with its
input, and either leaves for good with its attach or is retired with its removal at the end of the
queue. -/
theorem unplug_effect (hub : Hub α)
    (distinct : ((hub.registry.live ++ hub.registry.retired).map Entry.id).Nodup) (id : DeviceId) :
    ((∀ entry ∈ hub.registry.live, entry.id ≠ id) →
      hub.unplug? id = none ∧ hub.unplug id = hub) ∧
    ∀ entry ∈ hub.registry.live, entry.id = id →
      (kindsOf hub.deviceEvents.events id = [] ∨
        kindsOf hub.deviceEvents.events id = [.attached]) →
      ∃ after, hub.unplug? id = some after ∧ hub.unplug id = after ∧ Unplugs entry hub after := by
  constructor
  · intro absent
    exact unplug?_unlive (Registry.find?_absent absent)
  · rintro entry live rfl waits
    obtain ⟨before, behind, split, near, far, retired⟩ := retire?_single distinct live
    have done {after : Hub α} (unplugged : hub.unplug? entry.id = some after)
        (unplugs : Unplugs entry hub after) :
        ∃ after, hub.unplug? entry.id = some after ∧ hub.unplug entry.id = after ∧
          Unplugs entry hub after :=
      ⟨after, unplugged, by rw [unplug, unplugged, Option.getD_some], unplugs⟩
    rcases waits with nothing | attach
    · refine done ?_ (unplugs_announced split near far nothing)
      simp only [unplug?, retired, Option.map_some, count_eq_length, nothing, List.length_nil,
        if_true, purge_of_kindsOf_nil nothing]
    · have waiting := (attached_mem_iff (.inr attach)).mpr attach
      refine done ?_ (unplugs_unannounced split near far waiting)
      have released : ((⟨before ++ behind, hub.registry.retired ++ [entry],
          hub.registry.nextId⟩ : Registry α).release entry.id).1 =
            ⟨before ++ behind, hub.registry.retired, hub.registry.nextId⟩ := by
        have last : (hub.registry.retired ++ [entry]).eraseP (·.id = entry.id) =
            hub.registry.retired := by
          rw [Registry.eraseP_single (by simpa using far), List.append_nil, List.append_nil]
        simp only [Registry.release, Registry.get?, Registry.find?_absent near, last]
      simp only [unplug?, retired, Option.map_some, count_eq_length, attach, List.length_singleton,
        Nat.one_ne_zero, if_false, released]

/-- Of two live devices one was announced and one was not; a third is retired. -/
theorem unplug_effect_crowded :
    let pad (id : DeviceId) : Device := { Device.atRest "Pad" 0 0 1 1 .unknown with id }
    let hub : Hub Unit :=
      ⟨⟨[⟨pad 0, ()⟩, ⟨pad 1, ()⟩], [⟨pad 2, ()⟩], 3⟩, ⟨[.removed 2, .attached 1]⟩,
        ⟨[⟨1, .button 0 true⟩, ⟨0, .button 0 true⟩, ⟨1, .button 0 false⟩]⟩⟩
    ((hub.registry.live ++ hub.registry.retired).map Entry.id).Nodup ∧
      hub.unplug? 2 = none ∧
      (Unplugs ⟨pad 0, ()⟩ hub (hub.unplug 0) ∧
        (hub.unplug 0).deviceEvents = ⟨[.removed 2, .attached 1, .removed 0]⟩ ∧
        (hub.unplug 0).inputEvents = ⟨[⟨1, .button 0 true⟩, ⟨1, .button 0 false⟩]⟩) ∧
      Unplugs ⟨pad 1, ()⟩ hub (hub.unplug 1) ∧
        (hub.unplug 1).deviceEvents = ⟨[.removed 2]⟩ ∧
        (hub.unplug 1).inputEvents = ⟨[⟨0, .button 0 true⟩]⟩ := by
  intro pad hub
  have distinct : ((hub.registry.live ++ hub.registry.retired).map Entry.id).Nodup := by decide
  obtain ⟨first, -, rfl, loud⟩ :=
    (unplug_effect hub distinct 0).2 ⟨pad 0, ()⟩ (by decide) rfl (.inl (by decide))
  obtain ⟨second, -, rfl, quiet⟩ :=
    (unplug_effect hub distinct 1).2 ⟨pad 1, ()⟩ (by decide) rfl (.inr (by decide))
  exact ⟨distinct, ((unplug_effect hub distinct 2).1 (by decide)).1, ⟨loud, by decide, by decide⟩,
    quiet, by decide, by decide⟩

end Hub

end GamepadInput
