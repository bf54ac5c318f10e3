import GamepadInput.Proofs.Hub.Isolation
import GamepadInput.Proofs.Registry.Places
import Mathlib.Data.List.Nodup
import Mathlib.Data.List.Perm.Basic

/-!
# All devices of a registry

Numbers are given in order and never again, so the live list ascends, and each inserted device is
counted once: live, retired, or among those that left (`Registry.run_accounted`).
-/

namespace GamepadInput

variable {α : Type}

/-- Ascending lists with the same members are one list. -/
theorem Entry.eq_of_ascending {first second : List (Entry α)}
    (ascends : (first.map Entry.id).Pairwise (· < ·))
    (ascends' : (second.map Entry.id).Pairwise (· < ·))
    (same : ∀ entry, entry ∈ first ↔ entry ∈ second) : first = second := by
  rw [List.pairwise_map] at ascends ascends'
  have apart {one two : Entry α} (before : one.id < two.id) : one ≠ two :=
    fun same => Nat.ne_of_lt before (congrArg Entry.id same)
  refine List.Perm.eq_of_pairwise ?_ ascends ascends' ?_
  · intro one two _ _ before after
    exact absurd before (Nat.lt_asymm after)
  · rw [List.perm_ext_iff_of_nodup (ascends.imp apart) (ascends'.imp apart)]
    exact same

namespace Registry

/-! ## Numbers -/

/-- An insert gives the next number, and no other call gives any. -/
theorem perform_numbers (registry : Registry α) (call : Call α) :
    (registry.perform call).assigned = List.range' registry.nextId call.isInsert.toNat ∧
      (registry.perform call).registry.nextId = registry.nextId + call.isInsert.toNat := by
  cases call with
  | insert | setData | mapData | drain => exact ⟨rfl, rfl⟩
  | retire id =>
    refine ⟨rfl, ?_⟩
    cases retired : registry.retire? id with
    | none => simp [perform, retired, Call.isInsert]
    | some after => simp [perform, retired, Call.isInsert, registry.nextId_retire? retired]
  | release id => exact ⟨rfl, registry.nextId_release id⟩
  | unplug id deviceEvents inputEvents =>
    exact ⟨rfl, Hub.nextId_unplug ⟨registry, deviceEvents, inputEvents⟩ id⟩
  | dispatch event => exact ⟨rfl, registry.nextId_dispatch event⟩

theorem run_numbers (registry : Registry α) (calls : List (Call α)) :
    (registry.run calls).assigned = List.range' registry.nextId (calls.countP Call.isInsert) ∧
      (registry.run calls).registry.nextId = registry.nextId + calls.countP Call.isInsert := by
  induction calls generalizing registry with
  | nil => exact ⟨rfl, rfl⟩
  | cons call rest ih =>
    obtain ⟨first, next⟩ := registry.perform_numbers call
    obtain ⟨others, last⟩ := ih (registry.perform call).registry
    have count : (call :: rest).countP Call.isInsert =
        call.isInsert.toNat + rest.countP Call.isInsert := by
      cases inserts : call.isInsert <;> simp [inserts, Nat.add_comm]
    simp only [run, first, others, last, next, count, List.range'_append_1, Nat.add_assoc,
      true_and]

/-- With fewer inserts than there are numbers of 32 bits the count stays within them, so that no
insert fails. -/
theorem numbers_fit {calls : List (Call α)} (few : calls.countP Call.isInsert < 0xFFFFFFFF) :
    (empty.run calls).registry.nextId < 0xFFFFFFFF ∧
      ∀ id ∈ (empty.run calls).assigned, id < 0xFFFFFFFF := by
  obtain ⟨assigned, next⟩ := (empty : Registry α).run_numbers calls
  have last : (empty.run calls).registry.nextId = calls.countP Call.isInsert :=
    next.trans (Nat.zero_add _)
  refine ⟨last ▸ few, fun id given => ?_⟩
  have first : (empty : Registry α).nextId = 0 := rfl
  rw [assigned, first, List.mem_range'_1, Nat.zero_add] at given
  exact Nat.lt_trans given.2 few

/-! ## The live list -/

theorem ids_update {entries : List (Entry α)} {id : DeviceId} {f : Entry α → Entry α}
    (keeps : ∀ entry, entry.id = id → (f entry).id = id) :
    (update entries id f).map Entry.id = entries.map Entry.id := by
  simp only [update, List.map_map]
  apply List.map_congr_left
  intro entry _
  by_cases mine : entry.id = id
  · simp [mine, keeps entry mine]
  · simp [mine]

theorem ids_setDevice (registry : Registry α) (device : Device) :
    (registry.setDevice device).live.map Entry.id = registry.live.map Entry.id :=
  ids_update fun _ _ => rfl

/-- The live list loses entries, and only a new one is added to it, at its end. -/
theorem perform_live (registry : Registry α) (call : Call α) :
    ((registry.perform call).registry.live.map Entry.id).Sublist
      (registry.live.map Entry.id ++ (registry.perform call).assigned) := by
  cases call with
  | insert device data => simp [perform, insert]
  | setData id data =>
    have ids : (registry.setData id data).live.map Entry.id = registry.live.map Entry.id :=
      ids_update fun _ mine => mine
    simp [perform, ids]
  | mapData f =>
    have ids : (registry.mapData f).live.map Entry.id = registry.live.map Entry.id := by
      simp only [mapData, List.map_map]
      rfl
    simp [perform, ids]
  | retire id =>
    cases retired : registry.retire? id with
    | none => simp [perform, retired]
    | some after => simpa [perform, retired] using (registry.live_retire? retired).map _
  | release id => simpa [perform] using (registry.live_release id).map _
  | drain => simp [perform, drain]
  | unplug id deviceEvents inputEvents =>
    have fewer := Hub.live_unplug ⟨registry, deviceEvents, inputEvents⟩ id
    simpa [perform] using fewer.map _
  | dispatch event =>
    cases found : registry.find? event.device with
    | none => simp [perform, dispatch, found]
    | some entry =>
      cases kind : event.kind with
      | removed =>
        simpa [perform, dispatch, found, kind] using (registry.live_release event.device).map _
      | attached | button index down | axis change =>
        simp only [perform, dispatch, found, kind, List.append_nil]
        rw [ids_setDevice]

theorem run_live (registry : Registry α) (calls : List (Call α)) :
    ((registry.run calls).registry.live.map Entry.id).Sublist
      (registry.live.map Entry.id ++ (registry.run calls).assigned) := by
  induction calls generalizing registry with
  | nil => simp [run]
  | cons call rest ih =>
    have first := registry.perform_live call
    have others := ih (registry.perform call).registry
    rw [run, ← List.append_assoc]
    exact others.trans (first.append_right _)

/-! ## Every device in its place -/

/-- Every device that was inserted is in one of three places, and lookups find it there. -/
structure Accounted (registry : Registry α) (left : List (Entry α)) (place : DeviceId → Place α) :
    Prop where
  ascending : (registry.live.map Entry.id).Pairwise (· < ·)
  once : ((registry.live ++ registry.retired ++ left).map Entry.id).Perm
    (List.range registry.nextId)
  live : registry.live = (List.range registry.nextId).filterMap fun id => (place id).live?
  size : registry.size = (List.range registry.nextId).countP fun id => (place id).live?.isSome
  deviceAt (index : Nat) : registry.deviceAt? index =
    ((List.range registry.nextId).filterMap fun id => (place id).live?)[index]?.map (·.device)
  get (id : DeviceId) : registry.get? id = (place id).live?
  find (id : DeviceId) : registry.find? id = (place id).kept?
  heard (id : DeviceId) (kind : EventKind) : (registry.dispatch ⟨id, kind⟩).notice =
    (place id).kept?.map fun entry => ⟨entry.device.apply kind, kind⟩
  gone (id : DeviceId) : left.filter (·.id = id) = (place id).gone?.toList

section Accounts

variable {registry : Registry α} {left : List (Entry α)} {place : DeviceId → Place α}

/-- A number is in the lists as often as its device is in a place. -/
theorem once_of_holds (holds : ∀ id, registry.Holds id (place id))
    (gone : ∀ id, left.filter (·.id = id) = (place id).gone?.toList) :
    ((registry.live ++ registry.retired ++ left).map Entry.id).Perm
      (List.range registry.nextId) := by
  rw [List.perm_iff_count]
  intro id
  have lists := (holds id).only
  simp only [Registry.only, mk.injEq, and_true] at lists
  have entries : (registry.live ++ registry.retired ++ left).filter (·.id = id) =
      (place id).inserted?.toList := by
    rw [List.filter_append, List.filter_append, lists.1, lists.2, gone]
    cases place id <;> rfl
  have ahead := (holds id).ahead
  rw [List.nodup_range.count, List.count, List.countP_map, List.countP_eq_length_filter]
  simp only [Function.comp_def, List.mem_range, beq_eq_decide, entries]
  cases here : place id with
  | awaited others =>
    rw [here] at ahead
    have later : registry.nextId ≤ id := by
      by_contra early
      simp [early] at ahead
    simp [later]
  | live entry | retired entry | gone entry =>
    rw [here] at ahead
    have early : id < registry.nextId := by
      by_contra later
      simp [Nat.le_of_not_lt later] at ahead
    simp [early]

theorem live_of_holds (holds : ∀ id, registry.Holds id (place id))
    (ascending : (registry.live.map Entry.id).Pairwise (· < ·))
    (below : ∀ entry ∈ registry.live, entry.id < registry.nextId) :
    registry.live = (List.range registry.nextId).filterMap fun id => (place id).live? := by
  have mem_live (id : DeviceId) (entry : Entry α) :
      (entry ∈ registry.live ∧ entry.id = id) ↔ (place id).live? = some entry := by
    have lists := (holds id).only
    simp only [Registry.only, mk.injEq, and_true] at lists
    have member := congrArg (entry ∈ ·) lists.1
    simpa using member
  have ordered : (((List.range registry.nextId).filterMap fun id => (place id).live?).map
      Entry.id).Pairwise (· < ·) := by
    rw [List.pairwise_map, List.pairwise_filterMap]
    refine List.pairwise_lt_range.imp fun {first second} before one found two found' => ?_
    rw [((mem_live first one).mpr found).2, ((mem_live second two).mpr found').2]
    exact before
  refine Entry.eq_of_ascending ascending ordered fun entry => ?_
  simp only [List.mem_filterMap, List.mem_range, ← mem_live]
  exact ⟨fun member => ⟨_, below entry member, member, rfl⟩, fun ⟨_, _, member, _⟩ => member⟩

end Accounts

/-- Whatever is called on a new registry: inserts are numbered in order, every inserted device is
live, retired or gone, as its own machine says, and nothing else is found. -/
theorem run_accounted (calls : List (Call α)) :
    let course := empty.run calls
    course.assigned = List.range (calls.countP Call.isInsert) ∧
      course.registry.nextId = calls.countP Call.isInsert ∧
        Accounted course.registry course.left (Place.ofCalls calls) := by
  intro course
  obtain ⟨assigned, next⟩ := empty.run_numbers calls
  have moves := holds_run calls
  have holds (id : DeviceId) : course.registry.Holds id (Place.ofCalls calls id) := (moves id).holds
  have gone (id : DeviceId) : course.left.filter (·.id = id) =
      (Place.ofCalls calls id).gone?.toList := (moves id).left
  have order := empty.run_live calls
  rw [assigned] at order
  have ascending := List.Pairwise.sublist order (List.pairwise_lt_range' ..)
  have below (entry : Entry α) (member : entry ∈ course.registry.live) :
      entry.id < course.registry.nextId := by
    have mine := order.subset (List.mem_map_of_mem member)
    rw [next]
    simpa [empty] using mine
  have live := live_of_holds holds ascending below
  refine ⟨assigned.trans List.range_eq_range'.symm, next.trans (Nat.zero_add _), ascending,
    once_of_holds holds gone, live, ?_, ?_, fun id => (holds id).get?_eq,
    fun id => (holds id).find?_eq, fun id kind => ((holds id).dispatches kind).2.1, gone⟩
  · rw [size, live, List.length_filterMap_eq_countP]
  · intro index
    rw [← live]
    simp [deviceAt?, devices]

end Registry

end GamepadInput
