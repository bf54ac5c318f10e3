import GamepadInput.Proofs.Hub.Live
import GamepadInput.Proofs.Hub.Turns
import GamepadInput.Proofs.Registry.Accounts

/-!
# The order of the live devices

A new device joins the live list at its end and nothing changes places, so the live list ascends by
number (`Hub.Ranked`).  Its members then tell the whole list, and each operation of a hub is an
equation between live lists.
-/

namespace GamepadInput

variable {α : Type}

theorem Registry.ids_dispatchAll (registry : Registry α) (events : List Event) :
    ((registry.dispatchAll events).1.live.map Entry.id).Sublist
      (registry.live.map Entry.id) := by
  induction events generalizing registry with
  | nil => exact .refl _
  | cons event rest ih =>
    have first := registry.perform_live (.dispatch event)
    simp only [perform, List.append_nil] at first
    exact (ih (registry.dispatch event).registry).trans first

/-- A device never goes back to not having come. -/
theorem Turns.isAbsent {standing after : Standing α} {kinds : List EventKind}
    (turns : Turns standing after kinds) (absent : after.isAbsent = true) :
    standing.isAbsent = true := by
  induction turns with
  | nil => exact absent
  | @cons standing next after kinds others turn rest ih =>
    have following := ih absent
    cases turn with
    | join => rfl
    | report => cases following
    | @unplug _ announced => cases announced <;> cases following
    | detect => cases standing <;> first | rfl | cases following
    | process =>
      cases standing with
      | absent => rfl
      | unplugged | gone => cases following
      | present entry announced waiting =>
        simp only [Standing.processed] at following
        split at following <;> cases following

namespace Hub

variable {hub after : Hub α} {id : DeviceId} {entry : Entry α}

/-- Numbers are not taken back. -/
theorem Carries.nextId_le {notices : List Notice} (carries : hub.Carries notices after)
    (told : ∀ id, ∃ standing heard, hub.Stands id standing ∧ Story standing heard) :
    hub.registry.nextId ≤ after.registry.nextId := by
  obtain ⟨standing, heard, stands, story⟩ := told after.registry.nextId
  obtain ⟨next, turns, arrives⟩ := carries _ standing heard stands story
  have absent := arrives.absent_iff.mpr (Nat.le_refl _)
  exact stands.absent_iff.mp (turns.isAbsent absent)

theorem Stood.lt_nextId (stood : hub.Stood) (live : entry ∈ hub.registry.live) :
    entry.id < hub.registry.nextId := by
  obtain ⟨standing, stands⟩ := stood entry.id
  have here := stands.live?_eq live rfl
  by_contra early
  have absent := stands.absent_iff.mpr (Nat.le_of_not_lt early)
  cases standing with
  | absent | unplugged | gone => cases here
  | present => cases absent

/-- The live devices are in the order of their numbers. -/
def Ranked (hub : Hub α) : Prop := (hub.registry.live.map Entry.id).Pairwise (· < ·)

namespace Ranked

theorem empty : (Hub.empty : Hub α).Ranked := .nil

theorem clear (hub : Hub α) : hub.clear.Ranked := .nil

/-- Devices may leave, and what is kept of them may change. -/
theorem of_sublist (ranked : hub.Ranked)
    (fewer : (after.registry.live.map Entry.id).Sublist (hub.registry.live.map Entry.id)) :
    after.Ranked :=
  List.Pairwise.sublist fewer ranked

theorem attach (ranked : hub.Ranked) (stood : hub.Stood) (device : Device) (data : α) :
    (hub.attach device data).1.Ranked := by
  simp only [Ranked, Hub.attach, Registry.insert, List.map_append, List.map_cons, List.map_nil,
    Entry.id_mk, List.pairwise_append, List.pairwise_singleton, List.mem_singleton, true_and]
  refine ⟨ranked, ?_⟩
  rintro _ member _ rfl
  obtain ⟨entry, live, rfl⟩ := List.mem_map.mp member
  exact stood.lt_nextId live

theorem report (ranked : hub.Ranked) (id : DeviceId) (kinds : List EventKind) (data : α) :
    (hub.report id kinds data).Ranked := by
  have ids : (hub.report id kinds data).registry.live.map Entry.id =
      hub.registry.live.map Entry.id :=
    Registry.ids_update fun _ mine => mine
  exact ranked.of_sublist (ids ▸ .refl _)

theorem unplug (ranked : hub.Ranked) (id : DeviceId) : (hub.unplug id).Ranked :=
  ranked.of_sublist ((hub.live_unplug id).map _)

theorem unplugAll (ranked : hub.Ranked) (ids : List DeviceId) :
    (ids.foldl Hub.unplug hub).Ranked :=
  List.foldlRecOn ids Hub.unplug ranked fun _ ranked id _ => ranked.unplug id

theorem dispatchDevices (ranked : hub.Ranked) : hub.dispatchDevices.1.Ranked :=
  ranked.of_sublist (hub.registry.ids_dispatchAll _)

theorem dispatchInput (ranked : hub.Ranked) : hub.dispatchInput.1.Ranked :=
  ranked.of_sublist (hub.registry.ids_dispatchAll _)

/-! ## The live list -/

/-- The live devices that are left are those that pass a test, in their order. -/
theorem live_eq_filter (ranked : hub.Ranked) (ends : after.Ranked) {stays : Entry α → Bool}
    (same : ∀ entry, entry ∈ after.registry.live ↔
      entry ∈ hub.registry.live ∧ stays entry = true) :
    after.registry.live = hub.registry.live.filter stays := by
  refine Entry.eq_of_ascending ends (List.Pairwise.sublist (List.filter_sublist.map _) ranked) ?_
  intro entry
  rw [same, List.mem_filter]

theorem live_unplug_eq (ranked : hub.Ranked) (stood : hub.Stood) (id : DeviceId) :
    (hub.unplug id).registry.live = hub.registry.live.filter (·.id ≠ id) :=
  ranked.live_eq_filter (ranked.unplug id) fun entry => by
    simp [stood.mem_live_unplug]

theorem live_unplugAll_eq (ranked : hub.Ranked) (stood : hub.Stood) (ids : List DeviceId) :
    (ids.foldl Hub.unplug hub).registry.live = hub.registry.live.filter (·.id ∉ ids) :=
  ranked.live_eq_filter (ranked.unplugAll ids) fun entry => by
    simp [stood.mem_live_unplugAll]

/-- Telling the changes leaves the live list as it is. -/
theorem live_dispatchDevices_eq (ranked : hub.Ranked) (stood : hub.Stood) :
    hub.dispatchDevices.1.registry.live = hub.registry.live :=
  Entry.eq_of_ascending ranked.dispatchDevices ranked fun _ => stood.mem_live_dispatchDevices

end Ranked

end Hub

end GamepadInput
