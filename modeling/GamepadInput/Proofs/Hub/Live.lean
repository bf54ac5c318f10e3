import GamepadInput.Proofs.Hub.Standing
import Mathlib.Data.List.Nodup

/-!
# The live devices of a hub

A device is in the live list just if it stands there, and once (`nodup_live`).  What the backend
keeps with the live devices grows by attaching only; every other operation drops some of it or
changes it in place (`Hub.mem_live_attach`, `Hub.Stood.mem_live_unplug`).
-/

namespace GamepadInput

variable {α : Type}

namespace Registry

/-- What the backend keeps with the live devices, in order. -/
def kept (registry : Registry α) : List α := registry.live.map (·.data)

variable (registry : Registry α)

theorem kept_release (id : DeviceId) : (registry.release id).1.kept.Sublist registry.kept := by
  unfold release
  split
  · exact List.Sublist.map _ List.eraseP_sublist
  · exact List.Sublist.refl _

theorem kept_retire? {id : DeviceId} {after : Registry α}
    (retired : registry.retire? id = some after) : after.kept.Sublist registry.kept := by
  obtain ⟨entry, -, rfl⟩ := Option.map_eq_some_iff.mp retired
  exact List.Sublist.map _ List.eraseP_sublist

theorem kept_setDevice (device : Device) : (registry.setDevice device).kept = registry.kept := by
  simp only [kept, setDevice, update, List.map_map]
  apply List.map_congr_left
  intro entry _
  simp only [Function.comp_apply]
  split <;> rfl

theorem kept_dispatch (event : Event) :
    (registry.dispatch event).registry.kept.Sublist registry.kept := by
  cases found : registry.find? event.device with
  | none => simp [dispatch, found]
  | some entry =>
    cases kind : event.kind with
    | removed => simpa [dispatch, found, kind] using kept_release registry event.device
    | attached | button | axis => simp [dispatch, found, kind, kept_setDevice]

theorem kept_dispatchAll (events : List Event) :
    (registry.dispatchAll events).1.kept.Sublist registry.kept := by
  induction events generalizing registry with
  | nil => exact List.Sublist.refl _
  | cons event rest ih =>
    exact (ih (registry.dispatch event).registry).trans (registry.kept_dispatch event)

end Registry

namespace Hub

variable (hub : Hub α)

theorem kept_attach (device : Device) (data : α) :
    (hub.attach device data).1.registry.kept = hub.registry.kept ++ [data] := by
  simp [attach, Registry.insert, Registry.kept]

theorem kept_unplug (id : DeviceId) :
    (hub.unplug id).registry.kept.Sublist hub.registry.kept := by
  cases unplugged : hub.unplug? id with
  | none =>
    rw [unplug, unplugged]
    exact List.Sublist.refl _
  | some after =>
    rw [unplug, unplugged, Option.getD_some]
    obtain ⟨registry, retired, rfl⟩ := Option.map_eq_some_iff.mp unplugged
    have erased := hub.registry.kept_retire? retired
    dsimp only
    split
    · exact erased
    · exact (registry.kept_release id).trans erased

theorem kept_dispatchDevices :
    hub.dispatchDevices.1.registry.kept.Sublist hub.registry.kept :=
  hub.registry.kept_dispatchAll _

theorem kept_dispatchInput : hub.dispatchInput.1.registry.kept.Sublist hub.registry.kept :=
  hub.registry.kept_dispatchAll _

theorem kept_dispatchAnnounced :
    hub.dispatchAnnounced.1.registry.kept.Sublist hub.registry.kept :=
  hub.registry.kept_dispatchAll _

theorem mem_kept_report {id : DeviceId} {kinds : List EventKind} {data other : α}
    (member : other ∈ (hub.report id kinds data).registry.kept) :
    other ∈ hub.registry.kept ∨ other = data := by
  simp only [report, queueInput, Registry.kept, Registry.setData, Registry.update,
    List.map_map] at member
  obtain ⟨entry, live, rfl⟩ := List.mem_map.mp member
  simp only [Function.comp_apply]
  split
  · exact .inr rfl
  · exact .inl (List.mem_map_of_mem live)

/-- What does not tell the new data from the old one of the device stays as it is. -/
theorem kept_report_map {β : Type} (f : α → β) (id : DeviceId) (kinds : List EventKind) (data : α)
    (same : ∀ entry ∈ hub.registry.live, entry.id = id → f data = f entry.data) :
    (hub.report id kinds data).registry.kept.map f = hub.registry.kept.map f := by
  simp only [report, queueInput, Registry.kept, Registry.setData, Registry.update, List.map_map]
  apply List.map_congr_left
  intro entry live
  simp only [Function.comp_apply]
  split
  · rename_i mine
    exact same entry live mine
  · rfl

namespace Stands

variable {hub} {id : DeviceId} {standing : Standing α}

theorem filter_live (stands : hub.Stands id standing) :
    hub.registry.live.filter (·.id = id) = standing.live?.toList := by
  have only := congrArg (fun hub => hub.registry.live) stands.only
  simp only [Hub.only, Registry.only] at only
  rw [only]
  cases standing <;> rfl

theorem live?_eq (stands : hub.Stands id standing) {entry : Entry α}
    (live : entry ∈ hub.registry.live) (mine : entry.id = id) : standing.live? = some entry := by
  have member : entry ∈ hub.registry.live.filter (·.id = id) :=
    List.mem_filter.mpr ⟨live, by simpa using mine⟩
  rw [stands.filter_live] at member
  exact Option.mem_toList.mp member

theorem mem_live {entry : Entry α} {announced : Bool} {waiting : List EventKind}
    (stands : hub.Stands id (.present entry announced waiting)) : entry ∈ hub.registry.live := by
  have own : entry ∈ hub.registry.live.filter (·.id = id) := by
    rw [stands.filter_live]
    exact List.mem_singleton_self entry
  exact (List.mem_filter.mp own).1

theorem mem_live_iff (stands : hub.Stands id standing) :
    id ∈ hub.registry.devices.map (·.id) ↔ standing.live?.isSome = true := by
  rw [← stands.get?_eq, Registry.get?, List.find?_isSome]
  simp only [Registry.devices, List.map_map, List.mem_map, Function.comp_apply, decide_eq_true_eq]
  rfl

end Stands

/-- No number is given to two live devices. -/
theorem nodup_live (stands : ∀ id, ∃ standing, hub.Stands id standing) :
    (hub.registry.devices.map (·.id)).Nodup := by
  rw [List.nodup_iff_count_le_one]
  intro id
  obtain ⟨standing, here⟩ := stands id
  have count : (hub.registry.devices.map (·.id)).count id =
      (hub.registry.live.filter (·.id = id)).length := by
    simp only [Registry.devices, List.count, List.countP_eq_length_filter, List.map_map,
      List.filter_map, List.length_map]
    rfl
  rw [count, here.filter_live]
  cases standing.live? <;> simp

/-- Every device stands somewhere. -/
def Stood : Prop := ∀ id, ∃ standing, hub.Stands id standing

theorem mem_live_attach {device : Device} {data : α} {entry : Entry α} :
    entry ∈ (hub.attach device data).1.registry.live ↔
      entry ∈ hub.registry.live ∨
        entry = ⟨{ device with id := hub.registry.nextId }, data⟩ := by
  simp [attach, Registry.insert]

namespace Stands

variable {hub}

theorem mem_live_iff_live? {entry : Entry α} {standing : Standing α}
    (stands : hub.Stands entry.id standing) :
    entry ∈ hub.registry.live ↔ standing.live? = some entry := by
  refine ⟨fun live => stands.live?_eq live rfl, fun live => ?_⟩
  cases standing with
  | present here announced waiting =>
    cases live
    exact stands.mem_live
  | absent | unplugged | gone => cases live

end Stands

namespace Stood

variable {hub} {id : DeviceId} {entry other : Entry α}

theorem empty : (Hub.empty : Hub α).Stood := fun id => ⟨.absent, .empty id⟩

/-- Live entries of one number are one. -/
theorem eq_of_id (stood : hub.Stood) (here : entry ∈ hub.registry.live)
    (there : other ∈ hub.registry.live) (same : entry.id = other.id) : entry = other := by
  obtain ⟨standing, stands⟩ := stood entry.id
  exact Option.some.inj ((stands.live?_eq here rfl).symm.trans (stands.live?_eq there same.symm))

theorem attach (stood : hub.Stood) (device : Device) (data : α) :
    (hub.attach device data).1.Stood := by
  intro id
  obtain ⟨standing, stands⟩ := stood id
  by_cases next : hub.registry.nextId = id
  · exact ⟨_, stands.attach_self next device data⟩
  · exact ⟨_, stands.attach_other next device data⟩

/-- A device that was unplugged stands, and is not live. -/
theorem unplug_self (stood : hub.Stood) (id : DeviceId) :
    ∃ standing, (hub.unplug id).Stands id standing ∧ standing.live? = none := by
  obtain ⟨standing, stands⟩ := stood id
  cases standing with
  | absent | unplugged | gone =>
    exact ⟨_, by simpa [Hub.unplug, stands.unplug?_none rfl] using stands, rfl⟩
  | present entry announced waiting =>
    obtain ⟨after, unplugged, -, arrives⟩ := stands.unplug?_present
    refine ⟨_, by simpa [Hub.unplug, unplugged] using arrives, ?_⟩
    cases announced <;> rfl

theorem unplug (stood : hub.Stood) (id : DeviceId) : (hub.unplug id).Stood := by
  intro other
  by_cases here : id = other
  · subst here
    obtain ⟨standing, stands, -⟩ := stood.unplug_self id
    exact ⟨standing, stands⟩
  · obtain ⟨standing, stands⟩ := stood other
    exact ⟨standing, stands.unplug_other here⟩

theorem mem_live_unplug (stood : hub.Stood) :
    entry ∈ (hub.unplug id).registry.live ↔ entry ∈ hub.registry.live ∧ entry.id ≠ id := by
  by_cases here : entry.id = id
  · subst here
    obtain ⟨standing, stands, dead⟩ := stood.unplug_self entry.id
    simp [stands.mem_live_iff_live?, dead]
  · obtain ⟨standing, stands⟩ := stood entry.id
    rw [(stands.unplug_other (Ne.symm here)).mem_live_iff_live?, stands.mem_live_iff_live?]
    simp [here]

theorem mem_live_unplugAll (stood : hub.Stood) {ids : List DeviceId} :
    entry ∈ (ids.foldl Hub.unplug hub).registry.live ↔
      entry ∈ hub.registry.live ∧ entry.id ∉ ids := by
  induction ids generalizing hub with
  | nil => simp
  | cons id rest ih =>
    rw [List.foldl_cons, ih (stood.unplug id), stood.mem_live_unplug, List.mem_cons, not_or,
      and_assoc]

theorem dispatchDevices (stood : hub.Stood) : hub.dispatchDevices.1.Stood := by
  intro id
  obtain ⟨standing, stands⟩ := stood id
  exact ⟨_, stands.dispatchDevices.1⟩

/-- The attaches that a detection tells are those of the live devices not announced before. -/
theorem mem_attached_iff (stood : hub.Stood) {device : Device} :
    ⟨device, .attached⟩ ∈ Dispatch.notices hub.dispatchDevices.2 ↔
      ∃ data waiting, hub.Stands device.id (.present ⟨device, data⟩ false waiting) := by
  obtain ⟨standing, stands⟩ := stood device.id
  have heard : (⟨device, .attached⟩ : Notice) ∈ Dispatch.notices hub.dispatchDevices.2 ↔
      ⟨device, .attached⟩ ∈ standing.announcement := by
    rw [← stands.dispatchDevices.2, heardOf, List.mem_filter]
    simp
  have told : (⟨device, .attached⟩ : Notice) ∈ standing.announcement ↔
      ∃ data waiting, standing = .present ⟨device, data⟩ false waiting := by
    cases standing with
    | absent | gone => simp [Standing.announcement]
    | unplugged entry => simp [Standing.announcement, Device.hears]
    | present entry announced waiting =>
      obtain ⟨record, data⟩ := entry
      cases announced <;>
        simp [Standing.announcement, Standing.heralds, Device.hears, Device.apply, eq_comm]
  rw [heard, told]
  constructor
  · rintro ⟨data, waiting, rfl⟩
    exact ⟨data, waiting, stands⟩
  · rintro ⟨data, waiting, here⟩
    exact ⟨data, waiting, stands.unique here⟩

/-- Telling the changes leaves the live devices as they are. -/
theorem mem_live_dispatchDevices (stood : hub.Stood) :
    entry ∈ hub.dispatchDevices.1.registry.live ↔ entry ∈ hub.registry.live := by
  obtain ⟨standing, stands⟩ := stood entry.id
  rw [stands.dispatchDevices.1.mem_live_iff_live?, stands.mem_live_iff_live?]
  cases standing <;> rfl

end Stood

end Hub

end GamepadInput
