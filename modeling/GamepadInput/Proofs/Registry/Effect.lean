import GamepadInput.Proofs.Frame.Holding
import GamepadInput.Proofs.Registry.Isolation
import Mathlib.Data.List.Nodup

/-!
# The effect of one event

Where no number is given twice, an event concerns at most one entry of a registry.  That entry is
replaced in its place by one with the event applied to its record, or leaves if the event is the
removal, and the listeners are told once, with the record as it is then.  Everything else stays as
it is, and an event of a device that is not there does nothing (`dispatch_effect`).
-/

namespace GamepadInput

/-- The record after a change: the control at the index of the change is set if the device has it,
and nothing else differs. -/
structure Device.Takes (before : Device) (kind : EventKind) (after : Device) : Prop where
  /-- Only the arrays of axes and buttons may differ. -/
  same : after = { before with axes := after.axes, buttons := after.buttons }
  axisCount_eq : after.axisCount = before.axisCount
  buttonCount_eq : after.buttonCount = before.buttonCount
  axes_eq : ∀ index : Nat, after.axes[index]? =
    before.axes[index]?.map fun value => (kind.move? index).getD value
  buttons_eq : ∀ index : Nat, after.buttons[index]? =
    before.buttons[index]?.map fun down => (kind.edge? index).getD down

theorem Device.takes_apply (device : Device) (kind : EventKind) :
    device.Takes kind (device.apply kind) where
  same := by cases kind <;> rfl
  axisCount_eq := device.axisCount_apply kind
  buttonCount_eq := device.buttonCount_apply kind
  axes_eq := by
    intro index
    cases kind with
    | attached | removed | button => simp [apply, setButton, EventKind.move?]
    | axis change =>
      simp only [apply, setAxis, EventKind.move?, Array.getElem?_setIfInBounds]
      by_cases here : change.axis = index <;> by_cases inside : index < device.axes.size <;>
        simp [here, inside]
  buttons_eq := by
    intro index
    cases kind with
    | attached | removed | axis => simp [apply, setAxis, EventKind.edge?]
    | button place down =>
      simp only [apply, setButton, EventKind.edge?, Array.getElem?_setIfInBounds]
      by_cases here : place = index <;> by_cases inside : index < device.buttons.size <;>
        simp [here, inside]

namespace Registry

variable {α : Type}

/-- The entries of a registry, live and retired, with one of them replaced in its place by others;
nothing else differs. -/
inductive Replaces (entry : Entry α) (others : List (Entry α)) :
    Registry α → Registry α → Prop where
  | live {before after retired : List (Entry α)} {nextId : DeviceId} :
      Replaces entry others ⟨before ++ entry :: after, retired, nextId⟩
        ⟨before ++ others ++ after, retired, nextId⟩
  | retired {live before after : List (Entry α)} {nextId : DeviceId} :
      Replaces entry others ⟨live, before ++ entry :: after, nextId⟩
        ⟨live, before ++ others ++ after, nextId⟩

/-! ## One entry among others -/

section Entries

variable {before after entries : List (Entry α)} {entry : Entry α}

/-- Where no number is given twice, the others have other numbers. -/
theorem others_of_distinct (distinct : ((before ++ entry :: after).map Entry.id).Nodup) :
    ∀ other ∈ before ++ after, other.id ≠ entry.id := by
  intro other member same
  rw [List.map_append, List.map_cons, List.nodup_middle, ← List.map_append,
    List.nodup_cons] at distinct
  exact distinct.1 (same ▸ List.mem_map_of_mem member)

theorem update_absent {id : DeviceId} (absent : ∀ other ∈ entries, other.id ≠ id)
    (f : Entry α → Entry α) : update entries id f = entries := by
  have kept : ∀ other ∈ entries, (if other.id = id then f other else other) = other :=
    fun other member => if_neg (absent other member)
  rw [update, List.map_congr_left kept, List.map_id']

theorem update_single (others : ∀ other ∈ before ++ after, other.id ≠ entry.id)
    (f : Entry α → Entry α) :
    update (before ++ entry :: after) entry.id f = before ++ [f entry] ++ after := by
  have ahead := update_absent (fun other member => others other (List.mem_append_left _ member)) f
  have behind := update_absent (fun other member => others other (List.mem_append_right _ member)) f
  simp only [update] at ahead behind ⊢
  simp [ahead, behind]

theorem find?_absent {id : DeviceId} (absent : ∀ other ∈ entries, other.id ≠ id) :
    entries.find? (·.id = id) = none := by
  simpa using absent

theorem find?_single (others : ∀ other ∈ before ++ after, other.id ≠ entry.id) :
    (before ++ entry :: after).find? (·.id = entry.id) = some entry := by
  have ahead := find?_absent fun other member => others other (List.mem_append_left _ member)
  simp [List.find?_append, ahead]

theorem eraseP_single (others : ∀ other ∈ before ++ after, other.id ≠ entry.id) :
    (before ++ entry :: after).eraseP (·.id = entry.id) = before ++ [] ++ after := by
  have ahead : ∀ other ∈ before, ¬decide (other.id = entry.id) = true := fun other member => by
    simpa using others other (List.mem_append_left _ member)
  rw [List.eraseP_append_right _ ahead]
  simp

end Entries

/-! ## Dispatching -/

/-- What is done with the entry that an event finds. -/
theorem dispatch_found {registry : Registry α} {event : Event} {entry : Entry α}
    (found : registry.find? event.device = some entry) :
    registry.dispatch event =
      if event.kind = .removed then
        ⟨(registry.release event.device).1, some ⟨entry.device, .removed⟩,
          (registry.release event.device).2⟩
      else
        ⟨registry.setDevice (entry.device.apply event.kind),
          some ⟨entry.device.apply event.kind, event.kind⟩, none⟩ := by
  obtain ⟨device, kind⟩ := event
  cases kind <;> simp_all [dispatch, Device.apply]

section Places

variable {registry : Registry α} {entry : Entry α} {device : Device}

/-- Where an entry is, and what stores and releases do there. -/
theorem replaces_of_mem (distinct : ((registry.live ++ registry.retired).map Entry.id).Nodup)
    (member : entry ∈ registry.live ++ registry.retired) (same : device.id = entry.id) :
    registry.find? entry.id = some entry ∧
      Replaces entry [{ entry with device }] registry (registry.setDevice device) ∧
      Replaces entry [] registry (registry.release entry.id).1 ∧
      (registry.release entry.id).2 = some entry := by
  obtain ⟨live, retired, nextId⟩ := registry
  rcases List.mem_append.mp member with here | here
  · obtain ⟨before, after, rfl⟩ := List.append_of_mem here
    simp only [List.append_assoc, List.cons_append] at distinct
    have others := others_of_distinct distinct
    have near : ∀ other ∈ before ++ after, other.id ≠ entry.id := fun other member =>
      others other (by grind)
    have far : ∀ other ∈ retired, other.id ≠ entry.id := fun other member =>
      others other (by grind)
    have found := find?_single near
    refine ⟨by simp [find?, get?, found], ?_, ?_, ?_⟩
    · simp only [setDevice, same, update_single near, update_absent far]
      exact .live
    · simp only [release, get?, found, eraseP_single near]
      exact .live
    · simp [release, get?, found]
  · obtain ⟨before, after, rfl⟩ := List.append_of_mem here
    simp only [← List.append_assoc] at distinct
    have others := others_of_distinct distinct
    have near : ∀ other ∈ before ++ after, other.id ≠ entry.id := fun other member =>
      others other (by grind)
    have far : ∀ other ∈ live, other.id ≠ entry.id := fun other member =>
      others other (by grind)
    have missing := find?_absent far
    have found := find?_single near
    refine ⟨by simp [find?, get?, retired?, missing, found], ?_, ?_, ?_⟩
    · simp only [setDevice, same, update_single near, update_absent far]
      exact .retired
    · simp only [release, get?, missing, eraseP_single near]
      exact .retired
    · simp [release, get?, retired?, missing, found]

end Places

/-- Where no number is given twice, an event of a device that is not there does nothing.  Of any
other it is told once, with the record that it makes; the entry gets that record in its place, or
leaves and is handed back if it is the removal, and nothing else in the registry changes. -/
theorem dispatch_effect (registry : Registry α)
    (distinct : ((registry.live ++ registry.retired).map Entry.id).Nodup) (event : Event) :
    ((∀ entry ∈ registry.live ++ registry.retired, entry.id ≠ event.device) →
      registry.dispatch event = ⟨registry, none, none⟩) ∧
    ∀ entry ∈ registry.live ++ registry.retired, entry.id = event.device →
      ∃ device, entry.device.Takes event.kind device ∧
        (registry.dispatch event).notice = some ⟨device, event.kind⟩ ∧
        if event.kind = .removed then
          (registry.dispatch event).released = some entry ∧
            Replaces entry [] registry (registry.dispatch event).registry
        else
          (registry.dispatch event).released = none ∧
            Replaces entry [{ entry with device }] registry (registry.dispatch event).registry := by
  constructor
  · intro absent
    have missing : registry.find? event.device = none := by
      have live := find?_absent fun entry member => absent entry (List.mem_append_left _ member)
      have retired := find?_absent fun entry member => absent entry (List.mem_append_right _ member)
      simp [find?, get?, retired?, live, retired]
    simp [dispatch, missing]
  · intro entry member mine
    obtain ⟨found, stored, left, released⟩ := replaces_of_mem distinct member
      (show (entry.device.apply event.kind).id = entry.id from Device.id_apply ..)
    refine ⟨_, entry.device.takes_apply event.kind, ?_⟩
    rw [mine] at found left released
    rw [dispatch_found found]
    by_cases leaves : event.kind = .removed
    · rw [if_pos leaves, if_pos leaves, leaves]
      exact ⟨rfl, released, left⟩
    · rw [if_neg leaves, if_neg leaves]
      exact ⟨rfl, rfl, stored⟩

/-- A retired device is told of a button it has, and of one it does not have nothing is stored; the
number after the last is nobody's. -/
theorem dispatch_effect_retired :
    let pad (id : DeviceId) : Device := { Device.atRest "Pad" 0 0 1 1 .unknown with id }
    let registry : Registry Unit := ⟨[⟨pad 2, ()⟩], [⟨pad 0, ()⟩, ⟨pad 1, ()⟩], 3⟩
    ((registry.live ++ registry.retired).map Entry.id).Nodup ∧
      registry.dispatch (.removed 3) = ⟨registry, none, none⟩ ∧
      (∃ device, (pad 1).Takes (.button 0 true) device ∧ device.button 0 = true ∧
        (registry.dispatch ⟨1, .button 0 true⟩).notice = some ⟨device, .button 0 true⟩) ∧
      ∃ device, (pad 1).Takes (.button 1 true) device ∧ device.buttonCount = 1 ∧
        (registry.dispatch ⟨1, .button 1 true⟩).notice = some ⟨device, .button 1 true⟩ := by
  intro pad registry
  have distinct : ((registry.live ++ registry.retired).map Entry.id).Nodup := by decide
  have member : ⟨pad 1, ()⟩ ∈ registry.live ++ registry.retired := by decide
  obtain ⟨device, takes, told, -⟩ :=
    (dispatch_effect registry distinct ⟨1, .button 0 true⟩).2 _ member rfl
  obtain ⟨other, takes', told', -⟩ :=
    (dispatch_effect registry distinct ⟨1, .button 1 true⟩).2 _ member rfl
  have pressed : device.button 0 = true := by
    rw [Device.button, takes.buttons_eq]
    rfl
  exact ⟨distinct, (dispatch_effect registry distinct (.removed 3)).1 (by decide),
    ⟨device, takes, pressed, told⟩, other, takes', takes'.buttonCount_eq, told'⟩

end Registry

end GamepadInput
