import GamepadInput.Proofs.Hub.Isolation
import GamepadInput.Proofs.Registry.Alone

/-!
# Where a device stands

At any time a hub holds of one device one of four things: nothing yet, a live entry with its
waiting input, a retired entry whose removal waits, or nothing any more.  Each operation of the hub
takes a device from one standing to the next and says what is heard of it meanwhile.
-/

namespace GamepadInput

/-- What a hub holds of one device. -/
inductive Standing (α : Type) where
  /-- Not connected yet. -/
  | absent
  /-- Live, with its input queued; its attach may still wait. -/
  | present (entry : Entry α) (announced : Bool) (waiting : List EventKind)
  /-- Unplugged after it was announced; its removal waits. -/
  | unplugged (entry : Entry α)
  /-- Gone for good. -/
  | gone

namespace Standing

variable {α : Type}

def isAbsent : Standing α → Bool
  | absent => true
  | present .. | unplugged _ | gone => false

/-- The live entry. -/
def live? : Standing α → Option (Entry α)
  | present entry .. => some entry
  | absent | unplugged _ | gone => none

/-- The entry, live or retired. -/
def kept? : Standing α → Option (Entry α)
  | present entry .. | unplugged entry => some entry
  | absent | gone => none

/-- The input in the queue. -/
def queued : Standing α → List EventKind
  | present _ _ waiting => waiting
  | absent | unplugged _ | gone => []

/-- Its attach does not wait. -/
def isAnnounced : Standing α → Bool
  | present _ announced _ => announced
  | absent | unplugged _ | gone => true

/-- Nothing of the device waits. -/
def isDrained : Standing α → Bool
  | absent | gone => true
  | present _ announced waiting => announced && waiting.isEmpty
  | unplugged _ => false

/-- The events that go ahead of the input of a live device. -/
def heralds (announced : Bool) : List EventKind := if announced then [] else [.attached]

/-- The standing after a detection. -/
def detected : Standing α → Standing α
  | absent => absent
  | present entry _ waiting => present entry true waiting
  | unplugged _ | gone => gone

/-- What a detection tells of the device. -/
def announcement : Standing α → List Notice
  | absent | gone => []
  | present entry announced _ => entry.device.hears (heralds announced)
  | unplugged entry => entry.device.hears [.removed]

/-- The standing after input was processed. -/
def processed : Standing α → Standing α
  | present entry announced waiting =>
    if .removed ∈ waiting then gone
    else present { entry with device := entry.device.replay waiting }
      (announced || !waiting.isEmpty) []
  | standing => standing

/-- What processing tells of the device. -/
def delivery : Standing α → List Notice
  | present entry announced waiting =>
    if waiting.isEmpty then [] else entry.device.hears (heralds announced ++ waiting)
  | absent | unplugged _ | gone => []

/-- A waiting removal is the last of the waiting events. -/
def orderly : Standing α → Prop
  | present _ _ waiting => .removed ∉ waiting.dropLast
  | absent | unplugged _ | gone => True

/-- The standing after everything was forgotten. -/
def cleared : Standing α → Standing α
  | absent => absent
  | present .. | unplugged _ | gone => gone

theorem isAnnounced_processed {standing : Standing α} (told : standing.isAnnounced = true) :
    standing.processed.isAnnounced = true := by
  cases standing with
  | absent | unplugged | gone => rfl
  | present entry announced waiting =>
    have announced : announced = true := told
    subst announced
    simp only [processed]
    split <;> rfl

/-- Of an announced device, processing tells its input only. -/
theorem isInput_of_mem_delivery {standing : Standing α} (told : standing.isAnnounced = true)
    (waits : ∀ kind ∈ standing.queued, kind.isInput = true) {notice : Notice}
    (member : notice ∈ standing.delivery) : notice.kind.isInput = true := by
  cases standing with
  | absent | unplugged | gone => cases member
  | present entry announced waiting =>
    have announced : announced = true := told
    subst announced
    have kinds : (present entry true waiting).delivery.map (·.kind) = waiting := by
      cases waiting <;> simp [delivery, heralds]
    exact waits _ (kinds ▸ List.mem_map_of_mem member)

/-- Of an announced device, detection tells its removal only. -/
theorem removed_of_mem_announcement {standing : Standing α} (told : standing.isAnnounced = true)
    {notice : Notice} (member : notice ∈ standing.announcement) : notice.kind = .removed := by
  cases standing with
  | absent | gone => cases member
  | present entry announced waiting =>
    have announced : announced = true := told
    subst announced
    cases member
  | unplugged entry =>
    have kinds : (unplugged entry).announcement.map (·.kind) = [.removed] :=
      entry.device.kinds_hears [.removed]
    exact List.mem_singleton.mp (kinds ▸ List.mem_map_of_mem member)

/-- A hub that holds this and nothing else. -/
def alone (id nextId : DeviceId) : Standing α → Hub α
  | absent | gone => ⟨⟨[], [], nextId⟩, .empty, .empty⟩
  | present entry announced waiting =>
    ⟨⟨[entry], [], nextId⟩, ⟨(heralds announced).map (⟨id, ·⟩)⟩, ⟨waiting.map (⟨id, ·⟩)⟩⟩
  | unplugged entry => ⟨⟨[], [entry], nextId⟩, ⟨[.removed id]⟩, .empty⟩

end Standing

/-- A device queues input, and what the backend keeps with it changes. -/
def Hub.report {α : Type} (hub : Hub α) (id : DeviceId) (kinds : List EventKind) (data : α) :
    Hub α :=
  { hub.queueInput id kinds with registry := (hub.queueInput id kinds).registry.setData id data }

/-- A device stands somewhere in a hub. -/
structure Hub.Stands {α : Type} (hub : Hub α) (id : DeviceId) (standing : Standing α) : Prop where
  only : hub.only id = standing.alone id hub.registry.nextId
  mine : ∀ entry ∈ standing.kept?, entry.id = id
  absent_iff : standing.isAbsent = true ↔ hub.registry.nextId ≤ id

namespace Hub.Stands

open Standing

variable {α : Type} {hub : Hub α} {id : DeviceId} {standing : Standing α} {entry : Entry α}
  {announced : Bool} {waiting : List EventKind}

theorem empty (id : DeviceId) : (Hub.empty : Hub α).Stands id .absent where
  only := by simp [Hub.only, Registry.only, EventQueue.only, alone, Hub.empty, Registry.empty,
    EventQueue.empty]
  mine := by simp [kept?]
  absent_iff := by simp [isAbsent, Hub.empty, Registry.empty]

theorem get?_eq (stands : hub.Stands id standing) : hub.registry.get? id = standing.live? := by
  have only : hub.registry.only id = (standing.alone id hub.registry.nextId).registry :=
    congrArg Hub.registry stands.only
  rw [← Registry.get?_only, only]
  cases standing with
  | present entry announced waiting =>
    have mine : entry.id = id := stands.mine entry rfl
    simp [alone, Registry.get?, live?, mine]
  | absent | unplugged entry | gone => rfl

theorem find?_eq (stands : hub.Stands id standing) : hub.registry.find? id = standing.kept? := by
  have only : hub.registry.only id = (standing.alone id hub.registry.nextId).registry :=
    congrArg Hub.registry stands.only
  rw [← Registry.find?_only, only]
  cases standing with
  | absent | gone => rfl
  | present entry | unplugged entry =>
    have mine : entry.id = id := stands.mine entry rfl
    simp [alone, Registry.find?, Registry.get?, Registry.retired?, kept?, mine]

theorem queued_eq (stands : hub.Stands id standing) :
    kindsOf hub.inputEvents.events id = standing.queued := by
  have only : hub.inputEvents.only id = (standing.alone id hub.registry.nextId).inputEvents :=
    congrArg Hub.inputEvents stands.only
  have kinds := congrArg (fun queue => queue.events.map (·.kind)) only
  simp only [EventQueue.only] at kinds
  rw [kindsOf, kinds]
  cases standing <;> simp [alone, queued, EventQueue.empty, Function.comp_def]

/-- A device stands in one place only. -/
theorem unique {other : Standing α} (stands : hub.Stands id standing)
    (elsewhere : hub.Stands id other) : standing = other := by
  have only : standing.alone id hub.registry.nextId = other.alone id hub.registry.nextId :=
    stands.only.symm.trans elsewhere.only
  have absent : standing.isAbsent = other.isAbsent := by
    rw [Bool.eq_iff_iff, stands.absent_iff, elsewhere.absent_iff]
  cases standing with
  | absent | gone | unplugged entry => cases other <;> simp_all [alone, isAbsent]
  | present entry announced waiting =>
    cases other with
    | absent | gone | unplugged entry => simp_all [alone]
    | present entry' announced' waiting' =>
      simp only [alone, Hub.mk.injEq, Registry.mk.injEq, EventQueue.mk.injEq, List.cons.injEq,
        and_true] at only
      obtain ⟨rfl, heralds, queued⟩ := only
      have announced_eq : announced = announced' := by
        cases announced <;> cases announced' <;> simp_all [Standing.heralds]
      have kinds (queue : List EventKind) : queue = (queue.map (⟨id, ·⟩ : EventKind → Event)).map (·.kind) := by
        simp [Function.comp_def]
      rw [announced_eq, kinds waiting, queued, ← kinds]

/-- An operation that assigns no numbers and takes one device to its next standing. -/
theorem next (stands : hub.Stands id standing) {after : Hub α} {following : Standing α}
    (count : after.registry.nextId = hub.registry.nextId)
    (only : after.only id = following.alone id hub.registry.nextId)
    (mine : ∀ entry ∈ following.kept?, entry.id = id)
    (assigned : following.isAbsent = standing.isAbsent) : after.Stands id following :=
  ⟨by rw [only, count], mine, by rw [assigned, count, stands.absent_iff]⟩

/-- An operation that does not touch the device. -/
theorem of_only_eq (stands : hub.Stands id standing) {after : Hub α}
    (same : after.only id = hub.only id) : after.Stands id standing := by
  have count : after.registry.nextId = hub.registry.nextId :=
    congrArg (fun hub => hub.registry.nextId) same
  exact ⟨by rw [same, count, stands.only], stands.mine, by rw [count, stands.absent_iff]⟩

theorem isDrained (stands : hub.Stands id standing) (nothing : hub.pending = 0) :
    standing.isDrained = true := by
  obtain ⟨devices, inputs⟩ := Nat.add_eq_zero_iff.mp nothing
  have only := stands.only
  simp only [Hub.only, EventQueue.only, List.eq_nil_of_length_eq_zero devices,
    List.eq_nil_of_length_eq_zero inputs, List.filter_nil] at only
  cases standing with
  | absent | gone => rfl
  | unplugged entry => simp [alone] at only
  | present entry announced waiting =>
    cases announced <;> cases waiting <;> simp_all [alone, heralds, Standing.isDrained]

/-! ## Attaching -/

theorem attach_self (next : hub.registry.nextId = id) (stands : hub.Stands id standing)
    (device : Device) (data : α) :
    (hub.attach device data).1.Stands id (.present ⟨{ device with id }, data⟩ false []) := by
  have absent : standing.isAbsent = true := stands.absent_iff.mpr (Nat.le_of_eq next)
  have only := stands.only
  cases standing with
  | present | unplugged | gone => simp [isAbsent] at absent
  | absent =>
    simp only [Hub.only, alone, Registry.only, EventQueue.only, EventQueue.empty, Hub.mk.injEq,
      Registry.mk.injEq, EventQueue.mk.injEq] at only
    obtain ⟨⟨live, retired, -⟩, devices, input⟩ := only
    subst next
    refine ⟨?_, ?_, ?_⟩
    · simp [Hub.only, alone, Registry.only, EventQueue.only, attach, Registry.insert, live, retired,
        devices, input, heralds, Event.attached, EventQueue.push]
    · simp [kept?]
    · simp [isAbsent, attach, Registry.insert]

theorem attach_other (differ : hub.registry.nextId ≠ id) (stands : hub.Stands id standing)
    (device : Device) (data : α) : (hub.attach device data).1.Stands id standing := by
  have only := hub.only_attach_other device data differ
  have count : (hub.attach device data).1.registry.nextId = hub.registry.nextId + 1 := rfl
  refine ⟨?_, stands.mine, ?_⟩
  · have kept : hub.registry.only id = (standing.alone id hub.registry.nextId).registry :=
      congrArg Hub.registry stands.only
    rw [only, stands.only, count, kept]
    cases standing <;> rfl
  · rw [stands.absent_iff, count]
    exact ⟨fun le => Nat.lt_of_le_of_ne le differ, Nat.le_of_lt⟩

/-! ## Input -/

theorem queueInput_self (stands : hub.Stands id (.present entry announced waiting))
    (kinds : List EventKind) :
    (hub.queueInput id kinds).Stands id (.present entry announced (waiting ++ kinds)) := by
  refine ⟨?_, stands.mine, stands.absent_iff⟩
  rw [only_queueInput_self, stands.only]
  simp [alone, queueInput, EventQueue.pushAll]

theorem queueInput_other {other : DeviceId} (differ : other ≠ id) (stands : hub.Stands id standing)
    (kinds : List EventKind) : (hub.queueInput other kinds).Stands id standing :=
  stands.of_only_eq (only_queueInput_other hub kinds differ)

theorem setData_self (stands : hub.Stands id (.present entry announced waiting)) (data : α) :
    Hub.Stands { hub with registry := hub.registry.setData id data } id
      (.present { entry with data } announced waiting) := by
  have mine : entry.id = id := stands.mine entry rfl
  have only := stands.only
  simp only [Hub.only, alone, Hub.mk.injEq] at only
  refine ⟨?_, ?_, stands.absent_iff⟩
  · simp only [Hub.only, Registry.only_setData_self, only, alone]
    simp [Registry.setData, Registry.update, mine]
  · intro other member
    cases member
    exact mine

theorem setData_other {other : DeviceId} (differ : other ≠ id) (stands : hub.Stands id standing)
    (data : α) :
    Hub.Stands { hub with registry := hub.registry.setData other data } id standing :=
  stands.of_only_eq (by simp only [Hub.only, Registry.only_setData_other hub.registry data differ])

theorem report_self (stands : hub.Stands id (.present entry announced waiting))
    (kinds : List EventKind) (data : α) :
    (hub.report id kinds data).Stands id
      (.present { entry with data } announced (waiting ++ kinds)) :=
  (stands.queueInput_self kinds).setData_self data

theorem report_other {other : DeviceId} (differ : other ≠ id) (stands : hub.Stands id standing)
    (kinds : List EventKind) (data : α) : (hub.report other kinds data).Stands id standing :=
  (stands.queueInput_other differ kinds).setData_other differ data

/-! ## Unplugging -/

/-- A device that nobody was told of vanishes; any other leaves its removal behind. -/
theorem unplug?_present (stands : hub.Stands id (.present entry announced waiting)) :
    ∃ after, hub.unplug? id = some after ∧ after.registry.nextId = hub.registry.nextId ∧
      after.Stands id (if announced then .unplugged entry else .gone) := by
  have mine : entry.id = id := stands.mine entry rfl
  have restricted := hub.only_unplug?_self id
  rw [stands.only] at restricted
  have alone : (alone id hub.registry.nextId (.present entry announced waiting)).unplug? id =
      some (Standing.alone id hub.registry.nextId
        (if announced then .unplugged entry else .gone)) := by
    cases announced <;>
      simp [Standing.alone, unplug?, Registry.retire?, Registry.get?, mine, heralds,
        EventQueue.purge, EventQueue.count, EventQueue.push, Event.removed, Registry.release,
        EventQueue.empty]
  rw [alone] at restricted
  obtain ⟨after, unplugged, only⟩ := Option.map_eq_some_iff.mp restricted
  have count : after.registry.nextId = hub.registry.nextId := by
    have counts := congrArg (fun hub => hub.registry.nextId) only
    cases announced <;> exact counts
  refine ⟨after, unplugged, count, ?_⟩
  refine stands.next count (by rw [only]) ?_ (by cases announced <;> rfl)
  cases announced
  · simp [kept?]
  · simpa [kept?] using mine

theorem unplug?_none (stands : hub.Stands id standing) (dead : standing.live? = none) :
    hub.unplug? id = none := by
  simp only [unplug?, Registry.retire?, stands.get?_eq, dead, Option.map_none]

theorem unplug?_other {other : DeviceId} (differ : other ≠ id) (stands : hub.Stands id standing)
    {after : Hub α} (unplugged : hub.unplug? other = some after) : after.Stands id standing :=
  stands.of_only_eq (only_unplug?_other hub unplugged differ)

theorem unplug_other {other : DeviceId} (differ : other ≠ id) (stands : hub.Stands id standing) :
    (hub.unplug other).Stands id standing := by
  cases unplugged : hub.unplug? other with
  | none => simpa [unplug, unplugged] using stands
  | some after => simpa [unplug, unplugged] using stands.unplug?_other differ unplugged

/-- A device that is not live is not touched by unplugging it. -/
theorem unplugAll_keeps {ids : List DeviceId} (dead : id ∈ ids → standing.live? = none)
    (stands : hub.Stands id standing) : (ids.foldl Hub.unplug hub).Stands id standing := by
  induction ids generalizing hub with
  | nil => exact stands
  | cons first rest ih =>
    refine ih (fun member => dead (List.mem_cons_of_mem first member)) ?_
    by_cases here : first = id
    · subst here
      simpa [unplug, stands.unplug?_none (dead (by simp))] using stands
    · exact stands.unplug_other here

/-- Unplugging devices unplugs each of them. -/
theorem unplugAll_present {ids : List DeviceId} (member : id ∈ ids)
    (stands : hub.Stands id (.present entry announced waiting)) :
    (ids.foldl Hub.unplug hub).Stands id (if announced then .unplugged entry else .gone) := by
  induction ids generalizing hub with
  | nil => cases member
  | cons first rest ih =>
    rw [List.foldl_cons]
    by_cases here : first = id
    · subst here
      obtain ⟨after, taken, -, leaves⟩ := stands.unplug?_present
      have dead : (if announced then unplugged entry else gone : Standing α).live? = none := by
        cases announced <;> rfl
      have left : (hub.unplug first).Stands first
          (if announced then unplugged entry else gone) := by
        simpa [unplug, taken] using leaves
      exact left.unplugAll_keeps fun _ => dead
    · have later : id ∈ rest := (List.mem_cons.mp member).resolve_left (Ne.symm here)
      exact ih later (stands.unplug_other here)

/-! ## Dispatching -/

theorem dispatchDevices (stands : hub.Stands id standing) :
    hub.dispatchDevices.1.Stands id standing.detected ∧
      heardOf (Dispatch.notices hub.dispatchDevices.2) id = standing.announcement := by
  obtain ⟨state, heard⟩ := hub.only_dispatchDevices id
  have count : hub.dispatchDevices.1.registry.nextId = hub.registry.nextId :=
    hub.registry.nextId_dispatchAll _
  rw [stands.only] at state heard
  cases standing with
  | absent | gone =>
    exact ⟨stands.next count state (by simp [detected, kept?]) rfl, heard⟩
  | present entry announced waiting =>
    have mine : entry.id = id := stands.mine entry rfl
    obtain ⟨registry, notices⟩ := Registry.dispatchAll_live hub.registry.nextId
      (heralds announced) mine (by cases announced <;> simp [heralds])
    have same : entry.device.replay (heralds announced) = entry.device := by
      cases announced <;> rfl
    rw [same] at registry
    refine ⟨stands.next count ?_ stands.mine rfl, heard.trans notices⟩
    rw [state]
    simp only [alone, Hub.dispatchDevices, dispatchAll, EventQueue.take, registry, detected]
    rfl
  | unplugged entry =>
    obtain ⟨registry, notices⟩ := Registry.dispatchAll_retired_removed hub.registry.nextId
      (stands.mine entry rfl)
    refine ⟨stands.next count ?_ (by simp [detected, kept?]) rfl, heard.trans notices⟩
    rw [state]
    simp only [alone, Hub.dispatchDevices, dispatchAll, EventQueue.take, Event.removed, registry,
      detected]

/-- The attach of a device is taken ahead of its input if there is any. -/
private theorem takeAttaches_heralds (id : DeviceId) (announced : Bool) (kind : EventKind)
    (rest : List EventKind) :
    (⟨(heralds announced).map (⟨id, ·⟩)⟩ : EventQueue).takeAttaches
        ((kind :: rest).map (⟨id, ·⟩)) =
      ((heralds announced).map (⟨id, ·⟩), .empty) := by
  cases announced <;>
    simp [EventQueue.takeAttaches, EventQueue.announces, heralds, EventQueue.empty]

private theorem takeAttaches_nothing (queue : EventQueue) :
    queue.takeAttaches [] = ([], queue) := by
  simp [EventQueue.takeAttaches_eq, EventQueue.announces]

private theorem removed_last {waiting : List EventKind} (member : .removed ∈ waiting)
    (orderly : .removed ∉ waiting.dropLast) :
    ∃ inputs, waiting = inputs ++ [.removed] ∧ .removed ∉ inputs := by
  have nonempty : waiting ≠ [] := List.ne_nil_of_mem member
  have split := List.dropLast_append_getLast nonempty
  refine ⟨waiting.dropLast, ?_, orderly⟩
  rw [← split] at member
  rcases List.mem_append.mp member with early | last
  · exact absurd early orderly
  · rw [List.mem_singleton.mp last]
    exact split.symm

private theorem dispatchAnnounced_alone (nextId : DeviceId) (announced : Bool)
    (mine : entry.id = id) (orderly : .removed ∉ waiting.dropLast) :
    (alone id nextId (.present entry announced waiting)).dispatchAnnounced.1 =
        (Standing.present entry announced waiting).processed.alone id nextId ∧
      Dispatch.notices (alone id nextId (.present entry announced waiting)).dispatchAnnounced.2 =
        (Standing.present entry announced waiting).delivery := by
  cases waiting with
  | nil =>
    simp only [alone, Hub.dispatchAnnounced, EventQueue.take, List.map_nil, takeAttaches_nothing]
    simp [dispatchAll, Registry.dispatchAll, processed, delivery, EventQueue.empty]
  | cons kind rest =>
    have heraldsStay : .removed ∉ heralds announced := by cases announced <;> simp [heralds]
    have same : entry.device.replay (heralds announced) = entry.device := by
      cases announced <;> rfl
    simp only [alone, Hub.dispatchAnnounced, EventQueue.take, takeAttaches_heralds, dispatchAll,
      ← List.map_append]
    by_cases leaves : .removed ∈ kind :: rest
    · obtain ⟨inputs, split, stays⟩ := removed_last leaves orderly
      obtain ⟨registry, notices⟩ := Registry.dispatchAll_live_removed nextId
        (heralds announced ++ inputs) mine (by simp [heraldsStay, stays])
      rw [split, ← List.append_assoc, registry, notices]
      simp [processed, delivery, EventQueue.empty]
    · obtain ⟨registry, notices⟩ := Registry.dispatchAll_live nextId
        (heralds announced ++ kind :: rest) mine (by simpa [heraldsStay] using leaves)
      rw [registry, notices, Device.replay_append, same]
      simp only [processed, delivery, if_neg leaves]
      simp [heralds, EventQueue.empty]

/-- Processing delivers the input of a live device, its attach ahead of it. -/
theorem dispatchAnnounced (stands : hub.Stands id standing) (orderly : standing.orderly) :
    hub.dispatchAnnounced.1.Stands id standing.processed ∧
      heardOf (Dispatch.notices hub.dispatchAnnounced.2) id = standing.delivery := by
  obtain ⟨state, heard⟩ := hub.only_dispatchAnnounced id
  have count : hub.dispatchAnnounced.1.registry.nextId = hub.registry.nextId :=
    hub.registry.nextId_dispatchAll _
  rw [stands.only] at state heard
  cases standing with
  | absent | gone =>
    exact ⟨stands.next count state stands.mine rfl, heard⟩
  | unplugged entry =>
    refine ⟨stands.next count ?_ stands.mine rfl, heard⟩
    rw [state]
    simp only [alone, Hub.dispatchAnnounced, EventQueue.take, EventQueue.empty,
      takeAttaches_nothing]
    rfl
  | present entry announced waiting =>
    have mine : entry.id = id := stands.mine entry rfl
    obtain ⟨registry, notices⟩ :=
      dispatchAnnounced_alone hub.registry.nextId announced mine orderly
    refine ⟨stands.next count (state.trans registry) ?_ ?_, heard.trans notices⟩
    · simp only [processed]
      split
      · simp [kept?]
      · simpa [kept?, Entry.id] using mine
    · simp only [processed]
      split <;> rfl

/-- So does processing that looks for no attaches, if none waits. -/
theorem dispatchInput (stands : hub.Stands id standing) (told : standing.isAnnounced = true)
    (stays : .removed ∉ standing.queued) :
    hub.dispatchInput.1.Stands id standing.processed ∧
      heardOf (Dispatch.notices hub.dispatchInput.2) id = standing.delivery := by
  obtain ⟨state, heard⟩ := hub.only_dispatchInput id
  have count : hub.dispatchInput.1.registry.nextId = hub.registry.nextId :=
    hub.registry.nextId_dispatchAll _
  rw [stands.only] at state heard
  cases standing with
  | absent | gone | unplugged entry => exact ⟨stands.next count state stands.mine rfl, heard⟩
  | present entry announced waiting =>
    have mine : entry.id = id := stands.mine entry rfl
    have announced : announced = true := told
    subst announced
    change .removed ∉ waiting at stays
    obtain ⟨registry, notices⟩ :=
      Registry.dispatchAll_live hub.registry.nextId waiting mine stays
    refine ⟨stands.next count ?_ ?_ ?_, heard.trans (notices.trans ?_)⟩
    · rw [state]
      simp only [alone, Hub.dispatchInput, dispatchAll, EventQueue.take, registry, processed]
      rw [if_neg stays]
      rfl
    · rw [processed, if_neg stays]
      simpa [kept?, Entry.id] using mine
    · rw [processed, if_neg stays]
      rfl
    · cases waiting <;> simp [delivery, heralds]

theorem clear (stands : hub.Stands id standing) : hub.clear.Stands id standing.cleared := by
  refine stands.next rfl ?_ (by cases standing <;> simp [cleared, kept?])
    (by cases standing <;> rfl)
  rw [only_clear, stands.only]
  cases standing <;> rfl

end Hub.Stands

end GamepadInput
