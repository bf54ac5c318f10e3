import GamepadInput.Hub
import GamepadInput.Proofs.Registry.Alone

/-!
# Where the devices of a registry are

For one device a registry is a small machine (`Place.after`): the device is awaited, live, retired
or gone, and calls on other devices do not move it.  After any calls every device is where its own
machine says (`Registry.holds_run`).
-/

namespace GamepadInput

variable {α : Type}

namespace Registry

/-- A call of a registry.  Unplugging looks at what waits in two queues. -/
inductive Call (α : Type) where
  | insert (device : Device) (data : α)
  /-- Changes the data of a live device. -/
  | setData (id : DeviceId) (data : α)
  /-- Changes the data of every live device. -/
  | mapData (f : α → α)
  | retire (id : DeviceId)
  | release (id : DeviceId)
  | drain
  | unplug (id : DeviceId) (deviceEvents inputEvents : EventQueue)
  | dispatch (event : Event)

/-- What calls did. -/
structure Course (α : Type) where
  registry : Registry α
  /-- The numbers given to inserted devices. -/
  assigned : List DeviceId
  /-- The entries that left, in order: those handed back, and those that an unplug cancelled. -/
  left : List (Entry α)

/-- One call. -/
def perform (registry : Registry α) : Call α → Course α
  | .insert device data =>
    ⟨(registry.insert device data).1, [(registry.insert device data).2], []⟩
  | .setData id data => ⟨registry.setData id data, [], []⟩
  | .mapData f => ⟨registry.mapData f, [], []⟩
  | .retire id => ⟨(registry.retire? id).getD registry, [], []⟩
  | .release id => ⟨(registry.release id).1, [], (registry.release id).2.toList⟩
  | .drain => ⟨registry.drain.1, [], registry.drain.2⟩
  | .unplug id deviceEvents inputEvents =>
    let after := ((⟨registry, deviceEvents, inputEvents⟩ : Hub α).unplug id).registry
    -- what an unplug cancels is not handed back, so it is read off the registry before
    ⟨after, [], if (after.find? id).isSome then [] else (registry.find? id).toList⟩
  | .dispatch event =>
    ⟨(registry.dispatch event).registry, [], (registry.dispatch event).released.toList⟩

/-- Calls in order. -/
def run (registry : Registry α) : List (Call α) → Course α
  | [] => ⟨registry, [], []⟩
  | call :: rest =>
    let first := registry.perform call
    let others := first.registry.run rest
    ⟨others.registry, first.assigned ++ others.assigned, first.left ++ others.left⟩

def Call.isInsert : Call α → Bool
  | insert .. => true
  | _ => false

end Registry

/-- Where one device is. -/
inductive Place (α : Type) where
  /-- Not inserted yet: so many others come before it. -/
  | awaited (ahead : Nat)
  | live (entry : Entry α)
  | retired (entry : Entry α)
  /-- Gone for good, with this entry. -/
  | gone (entry : Entry α)

namespace Place

@[simp] def live? : Place α → Option (Entry α)
  | live entry => some entry
  | awaited _ | retired _ | gone _ => none

@[simp] def retired? : Place α → Option (Entry α)
  | retired entry => some entry
  | awaited _ | live _ | gone _ => none

@[simp] def gone? : Place α → Option (Entry α)
  | gone entry => some entry
  | awaited _ | live _ | retired _ => none

/-- The entry that an event finds. -/
@[simp] def kept? : Place α → Option (Entry α)
  | live entry | retired entry => some entry
  | awaited _ | gone _ => none

/-- An inserted device in one of the three places. -/
@[simp] def inserted? : Place α → Option (Entry α)
  | live entry | retired entry | gone entry => some entry
  | awaited _ => none

/-- How many come before a device that is not inserted yet. -/
@[simp] def ahead? : Place α → Option Nat
  | awaited ahead => some ahead
  | live _ | retired _ | gone _ => none

/-- The place of a device after a call that concerns it. -/
def moved (id : DeviceId) : Place α → Registry.Call α → Place α
  | awaited ahead, .insert device data =>
    if ahead = 0 then live ⟨{ device with id }, data⟩ else awaited (ahead - 1)
  | live entry, .setData _ data => live { entry with data }
  | live entry, .mapData f => live { entry with data := f entry.data }
  | live entry, .retire _ => retired entry
  | live entry, .unplug _ deviceEvents _ =>
    -- an event in the queue of lifecycle events is the attach, which the removal cancels
    if deviceEvents.count id = 0 then retired entry else gone entry
  | live entry, .release _ | live entry, .drain | retired entry, .release _
  | retired entry, .drain => gone entry
  | live entry, .dispatch event =>
    if event.kind = .removed then gone entry
    else live { entry with device := entry.device.apply event.kind }
  | retired entry, .dispatch event =>
    if event.kind = .removed then gone entry
    else retired { entry with device := entry.device.apply event.kind }
  | place, _ => place

/-- The call is on the device. -/
def concerns (id : DeviceId) : Registry.Call α → Bool
  | .insert .. | .mapData _ | .drain => true
  | .setData other _ | .retire other | .release other | .unplug other .. => other = id
  | .dispatch event => event.device = id

/-- The place of a device after a call. -/
def after (id : DeviceId) (place : Place α) (call : Registry.Call α) : Place α :=
  if concerns id call then place.moved id call else place

/-- The place of a device after calls on a new registry. -/
def ofCalls (calls : List (Registry.Call α)) (id : DeviceId) : Place α :=
  calls.foldl (after id) (awaited id)

end Place

namespace Registry

/-! ## One device -/

/-- A device is at a place of a registry. -/
structure Holds (registry : Registry α) (id : DeviceId) (place : Place α) : Prop where
  only : registry.only id = ⟨place.live?.toList, place.retired?.toList, registry.nextId⟩
  mine : ∀ entry ∈ place.inserted?, entry.id = id
  ahead : place.ahead? = if registry.nextId ≤ id then some (id - registry.nextId) else none

/-- From one registry a device goes to a place in another; if it leaves by that, it is among those
that left. -/
structure Moves (place : Place α) (course : Course α) (id : DeviceId) (next : Place α) : Prop where
  holds : course.registry.Holds id next
  left : place.gone?.toList ++ course.left.filter (·.id = id) = next.gone?.toList

theorem released_dispatch_only (registry : Registry α) (event : Event) :
    (registry.dispatch event).released =
      ((registry.only event.device).dispatch event).released := by
  have released := (Prod.ext_iff.mp (registry.only_release_self event.device)).2
  cases found : registry.find? event.device with
  | none => simp [dispatch, found]
  | some entry =>
    cases kind : event.kind with
    | removed => simpa [dispatch, found, kind] using released
    | attached | button index down | axis change => simp [dispatch, found, kind]

namespace Holds

variable {registry : Registry α} {id : DeviceId} {place : Place α}

theorem empty (id : DeviceId) : (Registry.empty : Registry α).Holds id (.awaited id) where
  only := rfl
  mine := nofun
  ahead := rfl

/-- A call that inserts no device and takes this one to its next place. -/
theorem stepped (holds : registry.Holds id place) {after : Registry α} {next : Place α}
    (only : after.only id = ⟨next.live?.toList, next.retired?.toList, registry.nextId⟩)
    (mine : ∀ entry ∈ next.inserted?, entry.id = id)
    (waits : next.ahead? = place.ahead?) : after.Holds id next := by
  have count : after.nextId = registry.nextId := by
    have counts := congrArg Registry.nextId only
    exact counts
  exact ⟨by rw [only, count], mine, by rw [waits, count, holds.ahead]⟩

/-- A call that does not touch the device. -/
theorem same (holds : registry.Holds id place) {course : Course α}
    (only : course.registry.only id = registry.only id)
    (others : course.left.filter (·.id = id) = []) : Moves place course id place where
  holds := holds.stepped (only.trans holds.only) holds.mine rfl
  left := by rw [others, List.append_nil]

theorem get?_eq (holds : registry.Holds id place) : registry.get? id = place.live? := by
  rw [← get?_only, holds.only]
  cases place with
  | live entry => simp [get?, Place.live?, holds.mine entry rfl]
  | awaited | retired | gone => rfl

theorem retired?_eq (holds : registry.Holds id place) : registry.retired? id = place.retired? := by
  rw [← retired?_only, holds.only]
  cases place with
  | retired entry => simp [Registry.retired?, Place.retired?, holds.mine entry rfl]
  | awaited | live | gone => rfl

theorem find?_eq (holds : registry.Holds id place) : registry.find? id = place.kept? := by
  rw [find?, holds.get?_eq, holds.retired?_eq]
  cases place <;> rfl

/-! ## Calls on the device -/

theorem insert_next (holds : registry.Holds registry.nextId place) (device : Device) (data : α) :
    Moves place (registry.perform (.insert device data)) registry.nextId
      (place.moved registry.nextId (.insert device data)) := by
  cases place with
  | awaited ahead =>
    obtain rfl : ahead = 0 := by simpa using holds.ahead
    refine ⟨⟨registry.only_insert_self device data holds.only, ?_, ?_⟩, rfl⟩
    · rintro _ ⟨⟩
      rfl
    · simp [Place.moved, perform, insert]
  | live entry | retired entry | gone entry => simpa using holds.ahead

theorem insert_other (holds : registry.Holds id place) (device : Device) (data : α)
    (differ : registry.nextId ≠ id) :
    Moves place (registry.perform (.insert device data)) id
      (place.moved id (.insert device data)) := by
  have only := registry.only_insert_other device data differ
  have count : (registry.insert device data).1.nextId = registry.nextId + 1 := rfl
  have ahead := holds.ahead
  rw [holds.only] at only
  cases place with
  | awaited others =>
    obtain ⟨later, fewer⟩ : registry.nextId ≤ id ∧ id - registry.nextId = others := by
      simpa [eq_comm] using ahead
    have before : registry.nextId + 1 ≤ id := Nat.lt_of_le_of_ne later differ
    have waits : others ≠ 0 := by rw [← fewer]; exact Nat.sub_ne_zero_of_lt before
    simp only [Place.moved, waits, if_false]
    refine ⟨⟨only, nofun, ?_⟩, rfl⟩
    simp only [Place.ahead?, perform, count, before, if_true, ← fewer, Nat.sub_sub]
  | live entry | retired entry | gone entry =>
    have passed : ¬ registry.nextId + 1 ≤ id := by
      simp only [Place.ahead?] at ahead
      split at ahead <;> grind
    refine ⟨⟨only, holds.mine, ?_⟩, by simp [perform, Place.moved]⟩
    simp only [Place.moved, Place.ahead?, perform, count, passed, if_false]

theorem setData (holds : registry.Holds id place) (data : α) :
    Moves place (registry.perform (.setData id data)) id (place.moved id (.setData id data)) := by
  have only := registry.only_setData_self id data
  rw [holds.only] at only
  cases place with
  | live entry =>
    have mine : entry.device.id = id := holds.mine entry rfl
    refine ⟨holds.stepped (only.trans ?_) ?_ rfl, rfl⟩
    · simp [Registry.setData, update, Entry.id, mine, Place.moved]
    · rintro _ ⟨⟩
      exact mine
  | awaited | retired | gone =>
    refine holds.same ?_ rfl
    exact only.trans holds.only.symm

theorem mapData (holds : registry.Holds id place) (f : α → α) :
    Moves place (registry.perform (.mapData f)) id (place.moved id (.mapData f)) := by
  have only : (registry.mapData f).only id = (registry.only id).mapData f := by
    simp only [Registry.only, Registry.mapData, List.filter_map, Function.comp_def]
    rfl
  rw [holds.only] at only
  cases place with
  | live entry =>
    have mine : entry.device.id = id := holds.mine entry rfl
    refine ⟨holds.stepped only ?_ rfl, rfl⟩
    rintro _ ⟨⟩
    exact mine
  | awaited | retired | gone =>
    refine holds.same ?_ rfl
    exact only.trans holds.only.symm

theorem retire (holds : registry.Holds id place) :
    Moves place (registry.perform (.retire id)) id (place.moved id (.retire id)) := by
  have only := registry.only_retire?_self id
  rw [holds.only] at only
  cases place with
  | live entry =>
    have mine : entry.id = id := holds.mine entry rfl
    obtain ⟨after, retired, only⟩ : ∃ after, registry.retire? id = some after ∧
        after.only id = ⟨[], [entry], registry.nextId⟩ := by
      simpa [Registry.retire?, Registry.get?, mine] using only
    simp only [perform, retired, Option.getD_some]
    exact ⟨holds.stepped only holds.mine rfl, rfl⟩
  | awaited | retired | gone =>
    have none : registry.retire? id = none := by simp [retire?, holds.get?_eq]
    refine holds.same ?_ rfl
    simp only [perform, none, Option.getD_none]

/-- What a release does to the device and what it hands back. -/
theorem releases (holds : registry.Holds id place) :
    (registry.release id).1.only id = ⟨[], [], registry.nextId⟩ ∧
      (registry.release id).2 = place.kept? := by
  have only := registry.only_release_self id
  have alone : (registry.only id).release id = (⟨[], [], registry.nextId⟩, place.kept?) := by
    rw [holds.only]
    cases place with
    | live entry | retired entry =>
      have mine : entry.id = id := holds.mine entry rfl
      simp [Registry.release, Registry.get?, Registry.retired?, mine]
    | awaited | gone => rfl
  exact Prod.ext_iff.mp (only.trans alone)

theorem release (holds : registry.Holds id place) :
    Moves place (registry.perform (.release id)) id (place.moved id (.release id)) := by
  obtain ⟨only, released⟩ := holds.releases
  cases place with
  | live entry | retired entry =>
    have mine : entry.id = id := holds.mine entry rfl
    refine ⟨holds.stepped only holds.mine rfl, ?_⟩
    simp [perform, Place.moved, released, mine]
  | awaited | gone =>
    refine holds.same (only.trans holds.only.symm) ?_
    rw [perform, released]
    rfl

theorem drain (holds : registry.Holds id place) :
    Moves place (registry.perform .drain) id (place.moved id .drain) := by
  have left : (registry.live ++ registry.retired).filter (·.id = id) =
      place.live?.toList ++ place.retired?.toList := by
    have lists := holds.only
    simp only [Registry.only, mk.injEq, and_true] at lists
    rw [List.filter_append, lists.1, lists.2]
  cases place with
  | live entry | retired entry => exact ⟨holds.stepped rfl holds.mine rfl, left⟩
  | awaited | gone => exact holds.same holds.only.symm left

theorem unplug (holds : registry.Holds id place) (deviceEvents inputEvents : EventQueue) :
    Moves place (registry.perform (.unplug id deviceEvents inputEvents)) id
      (place.moved id (.unplug id deviceEvents inputEvents)) := by
  cases place with
  | live entry =>
    have mine : entry.id = id := holds.mine entry rfl
    have retires := holds.retire
    obtain ⟨after, retired⟩ : ∃ after, registry.retire? id = some after := by
      simp [Registry.retire?, holds.get?_eq]
    simp only [perform, retired, Option.getD_some, Place.moved] at retires
    simp only [perform, Hub.unplug, Hub.unplug?, retired, Option.map_some, Option.getD_some,
      Place.moved]
    split
    · refine ⟨retires.holds, ?_⟩
      simp [retires.holds.find?_eq]
    · have released := retires.holds.release
      simp only [perform, Place.moved] at released
      refine ⟨released.holds, ?_⟩
      simp [released.holds.find?_eq, holds.find?_eq, mine]
  | awaited | retired | gone =>
    have none : registry.retire? id = none := by simp [retire?, holds.get?_eq]
    refine holds.same ?_ ?_
    · simp [perform, Hub.unplug, Hub.unplug?, none]
    · cases found : registry.find? id with
      | none => simp [perform, Hub.unplug, Hub.unplug?, none, found]
      | some entry => simp [perform, Hub.unplug, Hub.unplug?, none, found]

/-- What an event does to its device, what is heard of it and what is handed back. -/
theorem dispatches (holds : registry.Holds id place) (kind : EventKind) :
    let next := place.moved id (.dispatch ⟨id, kind⟩)
    (registry.dispatch ⟨id, kind⟩).registry.only id =
        ⟨next.live?.toList, next.retired?.toList, registry.nextId⟩ ∧
      (registry.dispatch ⟨id, kind⟩).notice =
        place.kept?.map (fun entry => ⟨entry.device.apply kind, kind⟩) ∧
      (registry.dispatch ⟨id, kind⟩).released = if kind = .removed then place.kept? else none := by
  have only := registry.only_dispatch_self ⟨id, kind⟩
  have released := registry.released_dispatch_only ⟨id, kind⟩
  simp only [only, released, holds.only]
  cases place with
  | live entry | retired entry =>
    have mine : entry.device.id = id := holds.mine entry rfl
    cases kind with
    | removed | attached | button index down | axis change =>
      simp [Registry.dispatch, find?, Registry.get?, Registry.retired?, Registry.release, Entry.id,
        mine, setDevice, update, Place.moved]
  | awaited | gone => simp [dispatch_empty, Place.moved]

theorem dispatch (holds : registry.Holds id place) (kind : EventKind) :
    Moves place (registry.perform (.dispatch ⟨id, kind⟩)) id
      (place.moved id (.dispatch ⟨id, kind⟩)) := by
  obtain ⟨only, -, released⟩ := holds.dispatches kind
  cases place with
  | live entry | retired entry =>
    have mine : entry.device.id = id := holds.mine entry rfl
    refine ⟨holds.stepped only ?_ ?_, ?_⟩
    · by_cases removal : kind = .removed <;> simp [Place.moved, removal, Entry.id, mine]
    · by_cases removal : kind = .removed <;> simp [Place.moved, removal]
    · simp only [perform, released]
      by_cases removal : kind = .removed <;> simp [Place.moved, removal, Entry.id, mine]
  | awaited | gone =>
    refine holds.same (only.trans holds.only.symm) ?_
    simp [perform, released]

/-! ## Calls on another device -/

/-- What a release of another device hands back is not this one. -/
theorem release_other {other : DeviceId} (differ : other ≠ id) :
    (registry.release other).2.toList.filter (·.id = id) = [] := by
  have handed : ∀ entry, (registry.release other).2 = some entry → entry.id = other := by
    intro entry released
    unfold Registry.release at released
    split at released
    · rename_i found
      rw [← Option.some.inj released]
      exact id_of_get? registry other found
    · simpa using List.find?_some released
  cases released : (registry.release other).2 with
  | none => rfl
  | some entry => simp [handed entry released, differ]

theorem find?_other {other : DeviceId} (differ : other ≠ id) :
    (registry.find? other).toList.filter (·.id = id) = [] := by
  cases found : registry.find? other with
  | none => rfl
  | some entry => simp [id_of_find? registry other found, differ]

theorem unplug_other (holds : registry.Holds id place) {other : DeviceId} (differ : other ≠ id)
    (deviceEvents inputEvents : EventQueue) :
    Moves place (registry.perform (.unplug other deviceEvents inputEvents)) id place := by
  refine holds.same ?_ ?_
  · cases retired : registry.retire? other with
    | none => simp [perform, Hub.unplug, Hub.unplug?, retired]
    | some after =>
      have only := registry.only_retire?_other retired differ
      simp only [perform, Hub.unplug, Hub.unplug?, retired, Option.map_some, Option.getD_some]
      split
      · exact only
      · exact (after.only_release_other differ).trans only
  · simp only [perform]
    split
    · rfl
    · exact find?_other differ

theorem dispatch_other (holds : registry.Holds id place) (event : Event)
    (differ : event.device ≠ id) : Moves place (registry.perform (.dispatch event)) id place := by
  refine holds.same (registry.only_dispatch_other event differ).1 ?_
  cases found : registry.find? event.device with
  | none => simp [perform, Registry.dispatch, found]
  | some entry =>
    cases kind : event.kind with
    | removed => simpa [perform, Registry.dispatch, found, kind] using release_other differ
    | attached | button index down | axis change =>
      simp [perform, Registry.dispatch, found, kind]

/-- A call that is not on the device leaves it where it is. -/
theorem elsewhere (holds : registry.Holds id place) (call : Call α)
    (other : Place.concerns id call = false) : Moves place (registry.perform call) id place := by
  cases call with
  | insert | mapData | drain => simp [Place.concerns] at other
  | setData device data =>
    exact holds.same (registry.only_setData_other data (by simpa [Place.concerns] using other)) rfl
  | retire device =>
    have differ : device ≠ id := by simpa [Place.concerns] using other
    refine holds.same ?_ rfl
    cases retired : registry.retire? device with
    | none => simp [perform, retired]
    | some after => simpa [perform, retired] using registry.only_retire?_other retired differ
  | release device =>
    have differ : device ≠ id := by simpa [Place.concerns] using other
    exact holds.same (registry.only_release_other differ) (release_other differ)
  | unplug device deviceEvents inputEvents =>
    exact holds.unplug_other (by simpa [Place.concerns] using other) deviceEvents inputEvents
  | dispatch event => exact holds.dispatch_other event (by simpa [Place.concerns] using other)

/-- A call that is on the device takes it to its next place. -/
theorem concerned (holds : registry.Holds id place) (call : Call α)
    (mine : Place.concerns id call = true) :
    Moves place (registry.perform call) id (place.moved id call) := by
  cases call with
  | insert device data =>
    by_cases next : registry.nextId = id
    · subst next
      exact holds.insert_next device data
    · exact holds.insert_other device data next
  | setData device data =>
    obtain rfl : device = id := by simpa [Place.concerns] using mine
    exact holds.setData data
  | mapData f => exact holds.mapData f
  | retire device =>
    obtain rfl : device = id := by simpa [Place.concerns] using mine
    exact holds.retire
  | release device =>
    obtain rfl : device = id := by simpa [Place.concerns] using mine
    exact holds.release
  | drain => exact holds.drain
  | unplug device deviceEvents inputEvents =>
    obtain rfl : device = id := by simpa [Place.concerns] using mine
    exact holds.unplug deviceEvents inputEvents
  | dispatch event =>
    obtain ⟨device, kind⟩ := event
    obtain rfl : device = id := by simpa [Place.concerns] using mine
    exact holds.dispatch kind

theorem perform (holds : registry.Holds id place) (call : Call α) :
    Moves place (registry.perform call) id (place.after id call) := by
  unfold Place.after
  split
  · rename_i mine
    exact holds.concerned call mine
  · rename_i other
    exact holds.elsewhere call (by simpa using other)

/-- Calls in order take every device along its own places. -/
theorem run (holds : registry.Holds id place) (calls : List (Call α)) :
    Moves place (registry.run calls) id (calls.foldl (Place.after id) place) := by
  induction calls generalizing registry place with
  | nil => exact holds.same rfl rfl
  | cons call rest ih =>
    have first := holds.perform call
    have others := ih first.holds
    refine ⟨others.holds, ?_⟩
    rw [Registry.run, List.filter_append, ← List.append_assoc, first.left, others.left]
    rfl

end Holds

/-- After calls on a new registry every device is where its own machine says. -/
theorem holds_run (calls : List (Call α)) (id : DeviceId) :
    Moves (.awaited id) (empty.run calls) id (Place.ofCalls calls id) :=
  (Holds.empty id).run calls

end Registry

end GamepadInput
