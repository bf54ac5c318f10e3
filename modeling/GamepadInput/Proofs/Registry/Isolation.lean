import GamepadInput.Registry
import Mathlib.Data.List.Basic

/-!
# One device of a registry

A registry restricted to one device forgets every other entry.  Restriction commutes with every
operation on that device, and operations on another device do not show in it, so what happens to a
device can be computed in a registry that holds nothing else (`only_dispatchAll`,
`heard_dispatchAll`).
-/

namespace GamepadInput

/-- The changes of one device among some events. -/
def kindsOf (events : List Event) (id : DeviceId) : List EventKind :=
  (events.filter (·.device = id)).map (·.kind)

/-- The notices that concern one device. -/
def heardOf (notices : List Notice) (id : DeviceId) : List Notice :=
  notices.filter (·.device.id = id)

section Projections

variable (id : DeviceId)

@[simp] theorem kindsOf_nil : kindsOf [] id = [] := rfl

@[simp] theorem heardOf_nil : heardOf [] id = [] := rfl

@[simp] theorem kindsOf_append (first second : List Event) :
    kindsOf (first ++ second) id = kindsOf first id ++ kindsOf second id := by
  simp [kindsOf]

@[simp] theorem heardOf_append (first second : List Notice) :
    heardOf (first ++ second) id = heardOf first id ++ heardOf second id := by
  simp [heardOf]

/-- Events of one device, taken by their kinds. -/
@[simp] theorem kindsOf_same (kinds : List EventKind) :
    kindsOf (kinds.map (⟨id, ·⟩)) id = kinds := by
  simp [kindsOf, List.filter_map, Function.comp_def]

theorem kindsOf_other {other : DeviceId} (kinds : List EventKind) (differ : other ≠ id) :
    kindsOf (kinds.map (⟨other, ·⟩)) id = [] := by
  simp [kindsOf, List.filter_map, Function.comp_def, differ]

/-- The events of a device are made of its changes. -/
theorem filter_device (events : List Event) :
    events.filter (·.device = id) = (kindsOf events id).map (⟨id, ·⟩) := by
  induction events with
  | nil => rfl
  | cons event rest ih =>
    simp only [kindsOf] at ih ⊢
    by_cases same : event.device = id
    · simp only [List.filter_cons, same, decide_true, if_true, List.map_cons, ← ih]
      rw [← same]
    · simpa only [List.filter_cons, same, decide_false, Bool.false_eq_true, if_false] using ih

end Projections

private theorem filter_eraseP_same {α : Type} (p : α → Bool) (items : List α) :
    (items.eraseP p).filter p = (items.filter p).eraseP p := by
  rw [List.eraseP_filter]
  simp only [Bool.and_self]

private theorem filter_eraseP_disjoint {α : Type} (p q : α → Bool) (items : List α)
    (disjoint : ∀ item, p item = true → q item = false) :
    (items.eraseP p).filter q = items.filter q := by
  induction items with
  | nil => rfl
  | cons item rest ih =>
    by_cases erased : p item = true
    · rw [List.eraseP_cons_of_pos erased, List.filter_cons_of_neg (by simp [disjoint item erased])]
    · rw [List.eraseP_cons_of_neg erased, List.filter_cons, List.filter_cons, ih]

namespace Registry

variable {α : Type}

/-- The part of a registry that concerns one device. -/
def only (registry : Registry α) (id : DeviceId) : Registry α :=
  { registry with
    live := registry.live.filter (·.id = id)
    retired := registry.retired.filter (·.id = id) }

section Lookup

variable (registry : Registry α) (id : DeviceId)

@[simp] theorem get?_only : (registry.only id).get? id = registry.get? id := by
  simp [get?, only]

@[simp] theorem retired?_only : (registry.only id).retired? id = registry.retired? id := by
  simp [retired?, only]

@[simp] theorem find?_only : (registry.only id).find? id = registry.find? id := by
  simp only [find?, get?_only, retired?_only]

theorem id_of_get? {entry : Entry α} (found : registry.get? id = some entry) : entry.id = id := by
  simpa using List.find?_some found

theorem id_of_find? {entry : Entry α} (found : registry.find? id = some entry) :
    entry.id = id := by
  rcases Option.or_eq_some_iff.mp found with live | ⟨_, retired⟩
  · exact id_of_get? registry id live
  · simpa using List.find?_some retired

end Lookup

/-- A change that keeps the numbers of the entries it is made for. -/
theorem filter_update_self {entries : List (Entry α)} {id : DeviceId} {f : Entry α → Entry α}
    (keeps : ∀ entry, entry.id = id → (f entry).id = id) :
    (update entries id f).filter (·.id = id) = update (entries.filter (·.id = id)) id f := by
  have sameId (entry : Entry α) : (if entry.id = id then f entry else entry).id = entry.id := by
    split
    · rename_i same
      rw [keeps entry same, same]
    · rfl
  simp only [update, List.filter_map, Function.comp_def, sameId]

theorem filter_update_other {entries : List (Entry α)} {id other : DeviceId}
    {f : Entry α → Entry α} (keeps : ∀ entry, entry.id = other → (f entry).id = other)
    (differ : other ≠ id) :
    (update entries other f).filter (·.id = id) = entries.filter (·.id = id) := by
  have sameId (entry : Entry α) : (if entry.id = other then f entry else entry).id = entry.id := by
    split
    · rename_i same
      rw [keeps entry same, same]
    · rfl
  have unchanged : ∀ entry ∈ entries.filter (·.id = id),
      (if entry.id = other then f entry else entry) = entry := by
    intro entry member
    have mine : entry.id = id := by simpa using (List.mem_filter.mp member).2
    rw [if_neg (by rw [mine]; exact Ne.symm differ)]
  simp only [update, List.filter_map, Function.comp_def, sameId]
  rw [List.map_congr_left unchanged, List.map_id']

/-! ## Operations on the device itself -/

section Same

variable (registry : Registry α) (id : DeviceId)

theorem only_insert_self (device : Device) (data : α)
    (fresh : registry.only registry.nextId = ⟨[], [], registry.nextId⟩) :
    (registry.insert device data).1.only registry.nextId =
      ⟨[⟨{ device with id := registry.nextId }, data⟩], [], registry.nextId + 1⟩ := by
  simp only [only, mk.injEq, and_true] at fresh
  simp [only, insert, fresh]

theorem only_setData_self (data : α) :
    (registry.setData id data).only id = (registry.only id).setData id data := by
  simp only [only, setData, filter_update_self (f := fun entry => { entry with data })
    (fun _ same => same)]

theorem only_setDevice_self (device : Device) :
    (registry.setDevice device).only device.id = (registry.only device.id).setDevice device := by
  have keeps : ∀ entry : Entry α, entry.id = device.id →
      ({ entry with device } : Entry α).id = device.id := fun _ _ => rfl
  simp only [only, setDevice, filter_update_self keeps]

theorem only_retire?_self :
    (registry.retire? id).map (·.only id) = (registry.only id).retire? id := by
  simp only [retire?, get?_only, Option.map_map]
  apply Option.map_congr
  intro entry found
  simp [only, id_of_get? registry id found, filter_eraseP_same]

theorem only_release_self :
    ((registry.release id).1.only id, (registry.release id).2) = (registry.only id).release id := by
  simp only [release, get?_only, retired?_only]
  split <;> simp only [only, filter_eraseP_same]

/-- An event does to its device what it does where there is no other device. -/
theorem only_dispatch_self (event : Event) :
    (registry.dispatch event).registry.only event.device =
        ((registry.only event.device).dispatch event).registry ∧
      (registry.dispatch event).notice = ((registry.only event.device).dispatch event).notice := by
  cases found : registry.find? event.device with
  | none => simp [dispatch, found]
  | some entry =>
    have sameId : (entry.device.apply event.kind).id = event.device := by
      rw [Device.id_apply]
      exact id_of_find? registry event.device found
    have release := only_release_self registry event.device
    simp only [Prod.ext_iff] at release
    cases kind : event.kind with
    | removed => simp only [dispatch, find?_only, found, kind, ← release.1, and_self]
    | attached | button index down | axis change =>
      rw [kind] at sameId
      have stored := only_setDevice_self registry (entry.device.apply event.kind)
      rw [kind, sameId] at stored
      simp only [dispatch, find?_only, found, kind, stored, and_self]

end Same

/-! ## Operations on another device -/

section Other

variable (registry : Registry α) {id other : DeviceId}

theorem only_insert_other (device : Device) (data : α) (differ : registry.nextId ≠ id) :
    (registry.insert device data).1.only id =
      { registry.only id with nextId := registry.nextId + 1 } := by
  simp [only, insert, Entry.id, differ]

theorem only_setData_other (data : α) (differ : other ≠ id) :
    (registry.setData other data).only id = registry.only id := by
  simp only [only, setData, filter_update_other (f := fun entry => { entry with data })
    (fun _ same => same) differ]

theorem only_setDevice_other (device : Device) (differ : device.id ≠ id) :
    (registry.setDevice device).only id = registry.only id := by
  have keeps : ∀ entry : Entry α, entry.id = device.id →
      ({ entry with device } : Entry α).id = device.id := fun _ _ => rfl
  simp only [only, setDevice, filter_update_other keeps differ]

private theorem disjoint_ids (differ : other ≠ id) (entry : Entry α)
    (mine : decide (entry.id = other) = true) : decide (entry.id = id) = false := by
  simp_all

theorem only_retire?_other {after : Registry α} (retired : registry.retire? other = some after)
    (differ : other ≠ id) : after.only id = registry.only id := by
  obtain ⟨entry, found, rfl⟩ := Option.map_eq_some_iff.mp retired
  have mine : entry.id ≠ id := by rw [id_of_get? registry other found]; exact differ
  simp [only, filter_eraseP_disjoint _ _ _ (disjoint_ids differ), mine]

theorem only_release_other (differ : other ≠ id) :
    (registry.release other).1.only id = registry.only id := by
  unfold release
  split <;> simp only [only, filter_eraseP_disjoint _ _ _ (disjoint_ids differ)]

/-- An event of another device changes nothing here, and its notice names that device. -/
theorem only_dispatch_other (event : Event) (differ : event.device ≠ id) :
    (registry.dispatch event).registry.only id = registry.only id ∧
      ∀ notice ∈ (registry.dispatch event).notice, notice.device.id ≠ id := by
  cases found : registry.find? event.device with
  | none => simp [dispatch, found]
  | some entry =>
    have elsewhere : entry.device.id ≠ id :=
      fun same => differ ((id_of_find? registry event.device found).symm.trans same)
    have stored := only_setDevice_other registry (entry.device.apply event.kind)
      (by rw [Device.id_apply]; exact elsewhere)
    cases kind : event.kind with
    | removed =>
      simp [dispatch, found, kind, only_release_other registry differ, elsewhere]
    | attached | button index down | axis change =>
      rw [kind] at stored
      simp [dispatch, found, kind, stored, elsewhere]

end Other

/-! ## Batches of events -/

section Batch

variable (registry : Registry α)

theorem id_of_notice (event : Event) {notice : Notice}
    (heard : (registry.dispatch event).notice = some notice) : notice.device.id = event.device := by
  cases found : registry.find? event.device with
  | none => simp [dispatch, found] at heard
  | some entry =>
    have sameId : (entry.device.apply event.kind).id = event.device := by
      rw [Device.id_apply]
      exact id_of_find? registry event.device found
    cases kind : event.kind with
    | removed | attached | button index down | axis change =>
      simp only [dispatch, found, kind, Option.some.injEq] at heard
      rw [← heard, ← kind, sameId]

/-- What a batch does to a device is what the events of that device do where there is no other. -/
theorem only_dispatchAll (events : List Event) (id : DeviceId) :
    (registry.dispatchAll events).1.only id =
        ((registry.only id).dispatchAll ((kindsOf events id).map (⟨id, ·⟩))).1 ∧
      heardOf (Dispatch.notices (registry.dispatchAll events).2) id =
        Dispatch.notices
          ((registry.only id).dispatchAll ((kindsOf events id).map (⟨id, ·⟩))).2 := by
  rw [← filter_device]
  induction events generalizing registry with
  | nil => simp [dispatchAll, Dispatch.notices]
  | cons event rest ih =>
    obtain ⟨state, heard⟩ := ih (registry.dispatch event).registry
    by_cases same : event.device = id
    · subst same
      obtain ⟨first, notice⟩ := only_dispatch_self registry event
      rw [first] at state heard
      have mine : heardOf (registry.dispatch event).notice.toList event.device =
          (registry.dispatch event).notice.toList := by
        cases said : (registry.dispatch event).notice with
        | none => rfl
        | some one => simp [heardOf, id_of_notice registry event said]
      constructor
      · simpa only [List.filter_cons, decide_true, if_true, dispatchAll] using state
      · rw [List.filter_cons_of_pos (by simp)]
        rw [notice] at mine
        simp only [dispatchAll, Dispatch.notices_cons, heardOf_append, heard, notice, mine]
    · obtain ⟨first, notice⟩ := only_dispatch_other registry event same
      rw [first] at state heard
      have other : heardOf (registry.dispatch event).notice.toList id = [] := by
        simpa [heardOf] using notice
      constructor
      · simpa only [List.filter_cons, same, decide_false, Bool.false_eq_true, if_false,
          dispatchAll] using state
      · simpa only [List.filter_cons, same, decide_false, Bool.false_eq_true, if_false,
          dispatchAll, Dispatch.notices_cons, heardOf_append, other, List.nil_append] using heard

@[simp] theorem nextId_release (id : DeviceId) :
    (registry.release id).1.nextId = registry.nextId := by
  unfold release
  split <;> rfl

@[simp] theorem nextId_dispatch (event : Event) :
    (registry.dispatch event).registry.nextId = registry.nextId := by
  cases found : registry.find? event.device with
  | none => simp [dispatch, found]
  | some entry =>
    cases kind : event.kind with
    | removed => simp [dispatch, found, kind]
    | attached | button index down | axis change => simp [dispatch, found, kind, setDevice]

@[simp] theorem nextId_dispatchAll (events : List Event) :
    (registry.dispatchAll events).1.nextId = registry.nextId := by
  induction events generalizing registry with
  | nil => rfl
  | cons event rest ih => simp [dispatchAll, ih]

end Batch

/-! ## What calls leave in place -/

section Frame

variable (registry : Registry α)

theorem nextId_retire? {after : Registry α} {id : DeviceId}
    (retired : registry.retire? id = some after) : after.nextId = registry.nextId := by
  obtain ⟨entry, -, rfl⟩ := Option.map_eq_some_iff.mp retired
  rfl

theorem live_retire? {after : Registry α} {id : DeviceId}
    (retired : registry.retire? id = some after) : after.live.Sublist registry.live := by
  obtain ⟨entry, -, rfl⟩ := Option.map_eq_some_iff.mp retired
  exact List.eraseP_sublist

theorem live_release (id : DeviceId) :
    (registry.release id).1.live.Sublist registry.live := by
  unfold release
  split
  · exact List.eraseP_sublist
  · exact .refl _

end Frame

end Registry

end GamepadInput
