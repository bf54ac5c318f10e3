import GamepadInput.Proofs.Registry.Isolation

/-!
# A registry with one device

Events of the device are heard with the record that they make of it, one after the other.  The
removal is heard last, and after it the registry is empty.
-/

namespace GamepadInput

namespace Device

/-- The notices of a device whose changes are dispatched in order. -/
def hears (device : Device) : List EventKind → List Notice
  | [] => []
  | kind :: rest => ⟨device.apply kind, kind⟩ :: (device.apply kind).hears rest

@[simp] theorem hears_nil (device : Device) : device.hears [] = [] := rfl

@[simp] theorem replay_nil (device : Device) : device.replay [] = device := rfl

theorem replay_cons (device : Device) (kind : EventKind) (rest : List EventKind) :
    device.replay (kind :: rest) = (device.apply kind).replay rest := rfl

@[simp] theorem id_replay (device : Device) (kinds : List EventKind) :
    (device.replay kinds).id = device.id := by
  induction kinds generalizing device with
  | nil => rfl
  | cons kind rest ih => rw [replay_cons, ih, id_apply]

@[simp] theorem metadata_apply (device : Device) (kind : EventKind) :
    (device.apply kind).metadata = device.metadata := by
  cases kind <;> rfl

@[simp] theorem metadata_replay (device : Device) (kinds : List EventKind) :
    (device.replay kinds).metadata = device.metadata := by
  induction kinds generalizing device with
  | nil => rfl
  | cons kind rest ih => rw [replay_cons, ih, metadata_apply]

@[simp] theorem axisCount_replay (device : Device) (kinds : List EventKind) :
    (device.replay kinds).axisCount = device.axisCount := by
  induction kinds generalizing device with
  | nil => rfl
  | cons kind rest ih => rw [replay_cons, ih, axisCount_apply]

@[simp] theorem buttonCount_replay (device : Device) (kinds : List EventKind) :
    (device.replay kinds).buttonCount = device.buttonCount := by
  induction kinds generalizing device with
  | nil => rfl
  | cons kind rest ih => rw [replay_cons, ih, buttonCount_apply]

theorem hears_append (device : Device) (first second : List EventKind) :
    device.hears (first ++ second) = device.hears first ++ (device.replay first).hears second := by
  induction first generalizing device with
  | nil => rfl
  | cons kind rest ih => simp [hears, replay_cons, ih]

@[simp] theorem kinds_hears (device : Device) (kinds : List EventKind) :
    (device.hears kinds).map (·.kind) = kinds := by
  induction kinds generalizing device with
  | nil => rfl
  | cons kind rest ih => simp [hears, ih]

end Device

namespace Registry

variable {α : Type}

@[simp] theorem dispatchAll_append (registry : Registry α) (first second : List Event) :
    (registry.dispatchAll (first ++ second)).1 =
        ((registry.dispatchAll first).1.dispatchAll second).1 ∧
      Dispatch.notices (registry.dispatchAll (first ++ second)).2 =
        Dispatch.notices (registry.dispatchAll first).2 ++
          Dispatch.notices ((registry.dispatchAll first).1.dispatchAll second).2 := by
  induction first generalizing registry with
  | nil => simp [dispatchAll]
  | cons event rest ih =>
    obtain ⟨state, heard⟩ := ih (registry.dispatch event).registry
    simp only [List.cons_append, dispatchAll, Dispatch.notices_cons, heard, state,
      List.append_assoc, and_self]

/-! ## Single events -/

/-- Nobody hears the events of an empty registry. -/
theorem dispatch_empty (nextId : DeviceId) (event : Event) :
    (⟨[], [], nextId⟩ : Registry α).dispatch event = ⟨⟨[], [], nextId⟩, none, none⟩ := by
  simp [dispatch, find?, get?, retired?]

variable {entry : Entry α} {id : DeviceId}

theorem dispatch_live (nextId : DeviceId) {kind : EventKind} (mine : entry.id = id)
    (stays : kind ≠ .removed) :
    (⟨[entry], [], nextId⟩ : Registry α).dispatch ⟨id, kind⟩ =
      ⟨⟨[{ entry with device := entry.device.apply kind }], [], nextId⟩,
        some ⟨entry.device.apply kind, kind⟩, none⟩ := by
  have sameId : entry.device.id = id := mine
  cases kind with
  | removed => exact absurd rfl stays
  | attached | button index down | axis change =>
    simp [dispatch, find?, get?, retired?, mine, setDevice, update, sameId]

theorem dispatch_live_removed (nextId : DeviceId) (mine : entry.id = id) :
    (⟨[entry], [], nextId⟩ : Registry α).dispatch ⟨id, .removed⟩ =
      ⟨⟨[], [], nextId⟩, some ⟨entry.device, .removed⟩, some entry⟩ := by
  simp [dispatch, find?, get?, retired?, release, mine, Device.apply]

/-! ## Batches of events -/

/-- A live device follows its events as long as none removes it. -/
theorem dispatchAll_live (nextId : DeviceId) (kinds : List EventKind) (mine : entry.id = id)
    (stays : .removed ∉ kinds) :
    ((⟨[entry], [], nextId⟩ : Registry α).dispatchAll (kinds.map (⟨id, ·⟩))).1 =
        ⟨[{ entry with device := entry.device.replay kinds }], [], nextId⟩ ∧
      Dispatch.notices
          ((⟨[entry], [], nextId⟩ : Registry α).dispatchAll (kinds.map (⟨id, ·⟩))).2 =
        entry.device.hears kinds := by
  induction kinds generalizing entry with
  | nil => simp [dispatchAll]
  | cons kind rest ih =>
    rw [List.mem_cons, not_or] at stays
    have one := dispatch_live nextId mine (Ne.symm stays.1)
    have mine' : ({ entry with device := entry.device.apply kind } : Entry α).id = id := by
      simpa [Entry.id] using mine
    obtain ⟨state, heard⟩ := ih mine' stays.2
    simp only [List.map_cons, dispatchAll, one, Dispatch.notices_cons, state, heard,
      Device.replay_cons, Device.hears, Option.toList_some, List.singleton_append, and_self]

/-- The removal releases a live device. -/
theorem dispatchAll_live_removed (nextId : DeviceId) (kinds : List EventKind) (mine : entry.id = id)
    (stays : .removed ∉ kinds) :
    ((⟨[entry], [], nextId⟩ : Registry α).dispatchAll
          ((kinds ++ [EventKind.removed]).map (⟨id, ·⟩))).1 =
        ⟨[], [], nextId⟩ ∧
      Dispatch.notices ((⟨[entry], [], nextId⟩ : Registry α).dispatchAll
          ((kinds ++ [EventKind.removed]).map (⟨id, ·⟩))).2 =
        entry.device.hears (kinds ++ [.removed]) := by
  obtain ⟨state, heard⟩ := dispatchAll_live nextId kinds mine stays
  have mine' : ({ entry with device := entry.device.replay kinds } : Entry α).id = id := by
    simpa [Entry.id] using mine
  rw [List.map_append, (dispatchAll_append _ _ _).1, (dispatchAll_append _ _ _).2, state, heard,
    Device.hears_append]
  simp [dispatchAll, dispatch_live_removed nextId mine', Device.hears, Device.apply]

/-- The removal releases a retired device. -/
theorem dispatchAll_retired_removed (nextId : DeviceId) (mine : entry.id = id) :
    ((⟨[], [entry], nextId⟩ : Registry α).dispatchAll [⟨id, .removed⟩]).1 = ⟨[], [], nextId⟩ ∧
      Dispatch.notices ((⟨[], [entry], nextId⟩ : Registry α).dispatchAll [⟨id, .removed⟩]).2 =
        entry.device.hears [.removed] := by
  simp [dispatchAll, dispatch, find?, get?, retired?, release, mine, Device.hears]

end Registry

end GamepadInput
