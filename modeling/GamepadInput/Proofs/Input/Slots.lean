import GamepadInput.Proofs.Input.Delivery
import Mathlib.Data.List.Dedup

/-!
# Which devices hold a slot

A device maps to one slot only, and its attach takes that slot over from any other device.  So a
connected device holds its slot unless another one of the same slot came after it (`holder?_iff`),
even while other slots are free (`connected_without_slot`).
-/

namespace GamepadInput

/-- The attach of the device was delivered, and its removal was not. -/
def Connected (notices : List Notice) (id : DeviceId) : Prop :=
  .attached ∈ (heardOf notices id).map (·.kind) ∧ .removed ∉ (heardOf notices id).map (·.kind)

instance (notices : List Notice) : DecidablePred (Connected notices) :=
  fun _ => inferInstanceAs (Decidable (_ ∧ _))

/-- The devices that are connected. -/
def connectedDevices (notices : List Notice) : List DeviceId :=
  (notices.map (·.device.id)).dedup.filter (Connected notices)

/-- After the device, another one was attached that maps to the same slot. -/
def Overtaken (capacity : Nat) (notices : List Notice) (id : DeviceId) : Prop :=
  ∃ device other : Device, device.id = id ∧ other.id ≠ id ∧
    other.id % capacity = id % capacity ∧
    List.Sublist [⟨device, .attached⟩, ⟨other, .attached⟩] notices

section Notices

variable {notices : List Notice} {id : DeviceId}

theorem mem_heardKinds {kind : EventKind} :
    kind ∈ (heardOf notices id).map (·.kind) ↔
      ∃ device : Device, device.id = id ∧ ⟨device, kind⟩ ∈ notices := by
  simp only [heardOf, List.mem_map, List.mem_filter, decide_eq_true_eq]
  constructor
  · rintro ⟨⟨device, kind⟩, ⟨heard, mine⟩, rfl⟩
    exact ⟨device, mine, heard⟩
  · rintro ⟨device, mine, heard⟩
    exact ⟨⟨device, kind⟩, ⟨heard, mine⟩, rfl⟩

/-- One element comes before another just if the list splits at it. -/
theorem pair_sublist_iff {first second : Notice} :
    List.Sublist [first, second] notices ↔
      ∃ ahead after, notices = ahead ++ first :: after ∧ second ∈ after := by
  constructor
  · intro pair
    obtain ⟨front, back, rfl, here, later⟩ := List.cons_sublist_iff.mp pair
    obtain ⟨ahead, between, rfl⟩ := List.append_of_mem here
    exact ⟨ahead, between ++ back, by simp,
      List.mem_append_right _ (List.singleton_sublist.mp later)⟩
  · rintro ⟨ahead, after, rfl, later⟩
    exact (List.cons_sublist_cons.mpr (List.singleton_sublist.mpr later)).trans
      (List.sublist_append_right ..)

/-- The attach of a device is the first that is heard of it. -/
def AttachFirst (notices : List Notice) : Prop :=
  ∀ ahead device after, notices = ahead ++ ⟨device, .attached⟩ :: after →
    heardOf ahead device.id = []

/-- A device is attached once, so that its attach tells where to split. -/
theorem AttachFirst.after_unique (first : AttachFirst notices) {device other : Device}
    {ahead after front back : List Notice} (split : notices = ahead ++ ⟨device, .attached⟩ :: after)
    (again : notices = front ++ ⟨other, .attached⟩ :: back) (same : device.id = other.id) :
    back = after := by
  rcases List.append_eq_append_iff.mp (split.symm.trans again) with
    ⟨gap, rfl, rest⟩ | ⟨gap, rfl, rest⟩
  · cases gap with
    | nil => exact (List.cons.inj rest).2.symm
    | cons notice gap =>
      obtain ⟨rfl, -⟩ := List.cons.inj rest
      have unheard := first _ _ _ again
      simp [heardOf, same] at unheard
  · cases gap with
    | nil => exact (List.cons.inj rest).2
    | cons notice gap =>
      obtain ⟨rfl, -⟩ := List.cons.inj rest
      have unheard := first _ _ _ split
      simp [heardOf, same] at unheard

theorem mem_connectedDevices : id ∈ connectedDevices notices ↔ Connected notices id := by
  simp only [connectedDevices, List.mem_filter, List.mem_dedup, decide_eq_true_eq,
    and_iff_right_iff_imp]
  rintro ⟨attached, -⟩
  obtain ⟨device, rfl, heard⟩ := mem_heardKinds.mp attached
  exact List.mem_map_of_mem heard

end Notices

namespace Frame

/-- The device in the slot at an index. -/
def holder? (frame : Frame) (index : Nat) : Option DeviceId :=
  (frame.occupant? index).map (·.device)

/-! ## The holder of a slot, by what was heard -/

namespace Call

def notice? : Call → Option Notice
  | hear notice => some notice
  | _ => none

/-- The call takes devices out whether or not they were removed. -/
def isDisconnect : Call → Bool
  | disconnect _ | disconnectDevice _ => true
  | hear _ | handle _ | flush => false

end Call

section Holders

variable {capacity index : Nat} {id : DeviceId}

theorem splitLast?_eq_some_iff {α : Type} {pick : Call → Option α} {calls before since : List Call}
    {found : α} :
    splitLast? pick calls = some (before, found, since) ↔
      ∃ call, pick call = some found ∧ calls = before ++ call :: since ∧
        ∀ later ∈ since, pick later = none := by
  constructor
  · intro split
    obtain ⟨call, picked, rfl⟩ := eq_of_splitLast? split
    refine ⟨call, picked, rfl, ?_⟩
    cases rest : splitLast? pick since with
    | none =>
      intro later member
      obtain ⟨ahead, after, rfl⟩ := List.append_of_mem member
      cases taken : pick later with
      | none => rfl
      | some other =>
        rw [splitLast?_append, splitLast?] at rest
        cases further : splitLast? pick after <;> simp [further, taken] at rest
    | some parts =>
      obtain ⟨ahead, other, after⟩ := parts
      rw [splitLast?_append, splitLast?, rest] at split
      simp only [Option.some.injEq, Prod.mk.injEq] at split
      have shorter := congrArg List.length split.1
      simp at shorter
  · rintro ⟨call, picked, rfl, others⟩
    rw [splitLast?_append, splitLast?, splitLast?_eq_none others]
    simp [picked]

/-- The holder of a slot is the last device attached to it, and nothing took it out since. -/
theorem tenure?_eq_some_iff {calls : List Call} {tenure : Tenure} :
    tenure? capacity index calls = some tenure ↔
      ∃ before, calls = before ++ .hear ⟨tenure.device, .attached⟩ :: tenure.since ∧
        tenure.device.id % capacity = index ∧
        (∀ later ∈ tenure.since, later.attaches? capacity index = none) ∧
        tenure.since.any (Call.vacates index tenure.device.id) = false := by
  obtain ⟨device, since⟩ := tenure
  unfold tenure?
  constructor
  · intro held
    obtain ⟨⟨before, found, rest⟩, split, stays⟩ := Option.bind_eq_some_iff.mp held
    obtain ⟨kept, same⟩ := Option.ite_none_left_eq_some.mp stays
    cases same
    obtain ⟨call, attaches, rfl, others⟩ := splitLast?_eq_some_iff.mp split
    obtain ⟨rfl, here⟩ := attaches?_eq_some.mp attaches
    exact ⟨before, rfl, here, others, by simpa using kept⟩
  · rintro ⟨before, rfl, here, others, kept⟩
    have split : splitLast? (Call.attaches? capacity index)
        (before ++ .hear ⟨device, .attached⟩ :: since) = some (before, device, since) :=
      splitLast?_eq_some_iff.mpr ⟨_, attaches?_eq_some.mpr ⟨rfl, here⟩, rfl, others⟩
    have stays : ¬since.any (Call.vacates index device.id) = true := by simpa using kept
    rw [split, Option.bind_some]
    exact if_neg stays

/-- Where nothing held the slot, only later calls count. -/
theorem tenure?_append_of_none {first : List Call} (vacant : tenure? capacity index first = none)
    (second : List Call) :
    tenure? capacity index (first ++ second) = tenure? capacity index second := by
  cases held : tenure? capacity index second with
  | some tenure =>
    obtain ⟨before, rfl, rest⟩ := tenure?_eq_some_iff.mp held
    exact tenure?_eq_some_iff.mpr ⟨first ++ before, by simp, rest⟩
  | none =>
    cases whole : tenure? capacity index (first ++ second) with
    | none => rfl
    | some tenure =>
      rcases tenure?_append whole with later | ⟨earlier, there, -, -⟩
      · rw [held] at later
        cases later
      · rw [vacant] at there
        cases there

/-- A call that attaches nothing to the slot and takes nothing out leaves it to its holder. -/
theorem device_tenure?_concat {call : Call} (other : call.attaches? capacity index = none)
    (keeps : ∀ device, call.vacates index device = false) (calls : List Call) :
    (tenure? capacity index (calls ++ [call])).map (·.device) =
      (tenure? capacity index calls).map (·.device) := by
  rw [tenure?_concat, other]
  cases held : tenure? capacity index calls with
  | none => rfl
  | some tenure => simp [keeps]

/-- Who holds a slot is told by what was heard, if nothing was disconnected. -/
theorem device_tenure?_heard {calls : List Call}
    (joined : ∀ call ∈ calls, call.isDisconnect = false) :
    (tenure? capacity index calls).map (·.device) =
      (tenure? capacity index ((calls.filterMap Call.notice?).map .hear)).map (·.device) := by
  induction calls using List.reverseRecOn with
  | nil => rfl
  | append_singleton calls call ih =>
    have before := ih fun earlier member => joined earlier (List.mem_append_left _ member)
    have log : (calls ++ [call]).filterMap Call.notice? =
        calls.filterMap Call.notice? ++ call.notice?.toList := by
      cases call <;> simp [Call.notice?]
    rw [log, List.map_append]
    cases call with
    | disconnect | disconnectDevice => cases joined _ (List.mem_append_right _ List.mem_cons_self)
    | handle | flush =>
      rw [device_tenure?_concat rfl (fun _ => rfl), before]
      simp [Call.notice?]
    | hear notice =>
      have same : [notice].map Call.hear = [.hear notice] := rfl
      rw [Call.notice?, Option.toList_some, same, tenure?_concat, tenure?_concat]
      cases (Call.hear notice).attaches? capacity index with
      | some device => rfl
      | none =>
        cases held : tenure? capacity index calls <;>
          cases told : tenure? capacity index ((calls.filterMap Call.notice?).map .hear) <;>
          simp only [held, told, Option.map_some, Option.map_none, reduceCtorEq,
            Option.some.injEq] at before
        · rfl
        · simp only [Option.bind_some, before]
          split <;> rfl

/-- What leaves a slot to its holder, among notices. -/
theorem hear_stays_iff {device : Device} {after : List Notice} :
    ((∀ later ∈ after.map Call.hear, later.attaches? capacity index = none) ∧
        (after.map Call.hear).any (Call.vacates index device.id) = false) ↔
      (∀ other : Device, ⟨other, .attached⟩ ∈ after → other.id % capacity ≠ index) ∧
        .removed ∉ (heardOf after device.id).map (·.kind) := by
  rw [mem_heardKinds, List.any_eq_false]
  constructor
  · rintro ⟨others, kept⟩
    constructor
    · intro other heard here
      have nothing := others _ (List.mem_map_of_mem heard)
      rw [attaches?_eq_some.mpr ⟨rfl, here⟩] at nothing
      cases nothing
    · rintro ⟨other, mine, heard⟩
      exact kept _ (List.mem_map_of_mem heard) (by simpa [Call.vacates] using mine)
  · rintro ⟨others, kept⟩
    constructor
    · intro later member
      obtain ⟨⟨other, kind⟩, heard, rfl⟩ := List.mem_map.mp member
      cases taken : (Call.hear ⟨other, kind⟩).attaches? capacity index with
      | none => rfl
      | some device =>
        obtain ⟨same, here⟩ := attaches?_eq_some.mp taken
        cases same
        exact absurd here (others other heard)
    · intro later member
      obtain ⟨⟨other, kind⟩, heard, rfl⟩ := List.mem_map.mp member
      cases kind with
      | attached | button | axis => simp [Call.vacates]
      | removed =>
        have differ : other.id ≠ device.id := fun mine => kept ⟨other, mine, heard⟩
        simpa [Call.vacates] using differ

/-- A slot is held by the connected device that was attached to it last. -/
theorem holder_heard_iff {notices : List Notice} (first : AttachFirst notices) :
    (tenure? capacity index (notices.map .hear)).map (·.device.id) = some id ↔
      index = id % capacity ∧ Connected notices id ∧ ¬Overtaken capacity notices id := by
  constructor
  · intro holds
    obtain ⟨⟨device, since⟩, held, rfl⟩ := Option.map_eq_some_iff.mp holds
    obtain ⟨ahead, after, split, rfl, -⟩ := heard_attach held
    obtain ⟨before, -, rfl, stays⟩ := tenure?_eq_some_iff.mp held
    obtain ⟨others, kept⟩ := hear_stays_iff.mp stays
    have unheard := first ahead device after split
    refine ⟨rfl, ⟨mem_heardKinds.mpr ⟨device, rfl, by simp [split]⟩, ?_⟩, ?_⟩
    · rw [split, heardOf_append, unheard]
      simpa [heardOf] using kept
    · rintro ⟨again, other, same, -, here, pair⟩
      obtain ⟨front, back, later, member⟩ := pair_sublist_iff.mp pair
      rw [first.after_unique split later same.symm] at member
      exact others other member here
  · rintro ⟨rfl, ⟨attached, stays⟩, alone⟩
    obtain ⟨device, rfl, heard⟩ := mem_heardKinds.mp attached
    obtain ⟨ahead, after, split⟩ := List.append_of_mem heard
    have others (other : Device) (later : ⟨other, .attached⟩ ∈ after) :
        other.id % capacity ≠ device.id % capacity := by
      intro here
      by_cases same : other.id = device.id
      · obtain ⟨gap, rest, rfl⟩ := List.append_of_mem later
        have unheard := first (ahead ++ ⟨device, .attached⟩ :: gap) other rest (by simp [split])
        simp [heardOf, same] at unheard
      · exact alone ⟨device, other, rfl, same, here,
          pair_sublist_iff.mpr ⟨ahead, after, split, later⟩⟩
    have kept : .removed ∉ (heardOf after device.id).map (·.kind) := by
      intro member
      apply stays
      obtain ⟨other, mine, later⟩ := mem_heardKinds.mp member
      exact mem_heardKinds.mpr ⟨other, mine, by simp [split, later]⟩
    have held : tenure? capacity (device.id % capacity) (notices.map .hear) =
        some ⟨device, after.map .hear⟩ :=
      tenure?_eq_some_iff.mpr
        ⟨ahead.map .hear, by simp [split], rfl, hear_stays_iff.mpr ⟨others, kept⟩⟩
    rw [held]
    rfl

end Holders

end Frame

/-! ## Runs -/

namespace Input

variable {τ : Type} {slots : Nat} {input : Input VirtualBackend τ}
  {asked : List VirtualBackend.Call} {told : List Frame.Call}

/-- A frame hears all that the pads deliver, and only a shutdown disconnects. -/
theorem Call.heard_tells {call : Call} (lasts : call ≠ .shutdown) (capacity : Nat)
    (notices : List Notice) :
    (call.tells capacity notices).filterMap Frame.Call.notice? = notices ∧
      ∀ said ∈ call.tells capacity notices, said.isDisconnect = false := by
  have heard : (notices.map Frame.Call.hear).filterMap Frame.Call.notice? = notices := by
    rw [List.filterMap_map]
    exact List.filterMap_some
  have own : (call.own capacity).filterMap Frame.Call.notice? = [] ∧
      ∀ said ∈ call.own capacity, said.isDisconnect = false := by
    cases call with
    | shutdown => exact absurd rfl lasts
    | play | start | handle | flush =>
      simp [own, Frame.Call.notice?, Frame.Call.isDisconnect]
  constructor
  · rw [tells, List.filterMap_append, own.1, heard, List.nil_append]
  · intro said member
    rcases List.mem_append.mp member with mine | told
    · exact own.2 said mine
    · obtain ⟨notice, -, rfl⟩ := List.mem_map.mp told
      rfl

/-- How a run goes on without a shutdown: the frame hears what is delivered, and no slot is
disconnected. -/
theorem Reaches.run_heard (reaches : Reaches slots input asked told) (calls : List Call)
    (lasts : .shutdown ∉ calls) :
    ∃ effect asks tells, input.run calls = .ok effect ∧
      effect.notices = (input.pads.backend.run asks).notices ∧
      Reaches slots effect.input (asked ++ asks) (told ++ tells) ∧
      tells.filterMap Frame.Call.notice? = effect.notices ∧
      ∀ said ∈ tells, said.isDisconnect = false := by
  induction calls generalizing input asked told with
  | nil => exact ⟨_, [], [], rfl, rfl, by simpa using reaches, rfl, by simp⟩
  | cons call calls ih =>
    rw [List.mem_cons, not_or] at lasts
    obtain ⟨first, performed, notices, -, onward⟩ := reaches.perform call
    obtain ⟨others, asks, tells, ran, more, there, heard, joined⟩ := ih onward lasts.2
    obtain ⟨hears, stays⟩ := Call.heard_tells (Ne.symm lasts.1) (max slots 1)
      (input.pads.backend.run (call.asks input.pads.initialized)).notices
    have backend : first.input.pads.backend =
        (input.pads.backend.run (call.asks input.pads.initialized)).backend := by
      rw [onward.backend_eq, reaches.backend_eq, VirtualBackend.run_append]
    refine ⟨_, call.asks input.pads.initialized ++ asks, call.tells (max slots 1) _ ++ tells,
      run_cons performed ran, ?_, by simpa only [List.append_assoc] using there, ?_, ?_⟩
    · rw [VirtualBackend.run_append, notices, more, backend]
    · rw [List.filterMap_append, hears, heard, notices]
    · intro said member
      rcases List.mem_append.mp member with early | late
      · exact stays said early
      · exact joined said late

/-- After a shutdown, as at the start, no slot is held. -/
theorem exists_vacant (slots : Nat) {before : List Call}
    (closed : before = [] ∨ ∃ earlier, before = earlier ++ [.shutdown]) :
    ∃ (previous : Effect τ) (asked : List VirtualBackend.Call) (told : List Frame.Call),
      (ofBackend .empty slots).run before = .ok previous ∧ Reaches slots previous.input asked told ∧
      ∀ index, Frame.tenure? (max slots 1) index told = none := by
  rcases closed with rfl | ⟨earlier, rfl⟩
  · exact ⟨_, [], [], rfl, .start slots, fun _ => rfl⟩
  · obtain ⟨effect, asked, told, ran, -, there, -⟩ :=
      (Reaches.start slots : Reaches slots (ofBackend .empty slots : Input _ τ) [] []).run earlier
    obtain ⟨last, emptied, -, -, onward⟩ := there.perform .shutdown
    exact ⟨_, _, _, run_append ran (run_cons emptied rfl), onward,
      fun index => Reaches.tenure?_shutdown told _ index (by omega)⟩

/-- A device holds a slot just if it is connected since the last shutdown, the slot is the one it
maps to, and no other device of that slot was attached after it.  So no two of them share a slot. -/
theorem holder?_iff (slots : Nat) (before since : List Call)
    (closed : before = [] ∨ ∃ earlier, before = earlier ++ [.shutdown])
    (lasts : .shutdown ∉ since) :
    ∃ previous next : Effect τ, (ofBackend .empty slots).run before = .ok previous ∧
      previous.input.run since = .ok next ∧
      let capacity := next.input.frame.capacity
      capacity = max slots 1 ∧
      (∀ index id, next.input.frame.holder? index = some id ↔
        index = id % capacity ∧ Connected next.notices id ∧
          ¬Overtaken capacity next.notices id) ∧
      ∀ id other, id ≠ other → Connected next.notices id → Connected next.notices other →
        ¬Overtaken capacity next.notices id → ¬Overtaken capacity next.notices other →
        id % capacity ≠ other % capacity := by
  obtain ⟨previous, asked, told, ran, reaches, vacant⟩ := exists_vacant (τ := τ) slots closed
  obtain ⟨next, asks, tells, onward, notices, there, heard, joined⟩ :=
    reaches.run_heard since lasts
  have capacity : next.input.frame.capacity = max slots 1 := by
    rw [there.frame_eq, Frame.capacity_run]
    rfl
  have first : AttachFirst next.notices := by
    intro ahead device after split
    rw [notices, reaches.backend_eq] at split
    exact (VirtualBackend.unheard_until_attach split).2
  have holds (index id : Nat) : next.input.frame.holder? index = some id ↔
      index = id % max slots 1 ∧ Connected next.notices id ∧
        ¬Overtaken (max slots 1) next.notices id := by
    have devices : next.input.frame.holder? index =
        ((Frame.tenure? (max slots 1) index tells).map (·.device)).map (·.id) := by
      rw [Frame.holder?, there.frame_eq, Frame.occupant?_run,
        Frame.tenure?_append_of_none (vacant index), Option.map_map, Option.map_map]
      rfl
    rw [devices, Frame.device_tenure?_heard joined, heard, Option.map_map]
    exact Frame.holder_heard_iff first
  refine ⟨previous, next, ran, onward, capacity, ?_, ?_⟩
  · simpa only [capacity] using holds
  · intro id other differ here there alone apart
    simp only [capacity] at alone apart ⊢
    intro same
    have mine := (holds _ id).mpr ⟨rfl, here, alone⟩
    have yours := (holds _ other).mpr ⟨rfl, there, apart⟩
    rw [same, yours] at mine
    exact differ (Option.some.inj mine).symm

/-- Two pads that come after a shutdown share out the slots, and the one from before has none. -/
theorem holder?_iff_restarted :
    let pad : Call :=
      .play (.attach ((VirtualPad.named "Pad").buttons 1) (.buttons 1 (.named "Pad"))) rfl
    let before := [pad, .start, .shutdown]
    let since := [pad, pad, .start, .flush]
    (before = [] ∨ ∃ earlier, before = earlier ++ [.shutdown]) ∧ .shutdown ∉ since ∧
      ∃ previous next : Effect Unit, (ofBackend .empty 2).run before = .ok previous ∧
        previous.input.run since = .ok next ∧
        (let capacity := next.input.frame.capacity
        capacity = max 2 1 ∧
        (∀ index id, next.input.frame.holder? index = some id ↔
          index = id % capacity ∧ Connected next.notices id ∧
            ¬Overtaken capacity next.notices id) ∧
        ∀ id other, id ≠ other → Connected next.notices id → Connected next.notices other →
          ¬Overtaken capacity next.notices id → ¬Overtaken capacity next.notices other →
          id % capacity ≠ other % capacity) ∧
        connectedDevices next.notices = [1, 2] ∧
        next.input.frame.holder? 0 = some 2 ∧ next.input.frame.holder? 1 = some 1 := by
  intro pad before since
  have closed : before = [] ∨ ∃ earlier, before = earlier ++ [.shutdown] :=
    .inr ⟨[pad, .start], rfl⟩
  have lasts : .shutdown ∉ since := by simp [since, pad]
  obtain ⟨previous, next, ran, onward, holds⟩ := holder?_iff 2 before since closed lasts
  refine ⟨closed, lasts, previous, next, ran, onward, holds, ?_⟩
  cases ran
  cases onward
  decide +kernel

/-- That no more devices are connected than there are slots does not give each of them one: of two
slots, the devices 0 and 2 map to the same, and the other is left empty by device 1. -/
theorem connected_without_slot :
    ¬∀ (slots : Nat) (calls : List Call) (effect : Effect Unit),
      (ofBackend .empty slots).run (calls ++ [.flush]) = .ok effect →
      (connectedDevices effect.notices).length ≤ effect.input.frame.capacity →
      ∀ id, Connected effect.notices id →
        ∃ index < effect.input.frame.capacity, effect.input.frame.holder? index = some id := by
  intro claimed
  let pad : Call :=
    .play (.attach ((VirtualPad.named "Pad").buttons 1) (.buttons 1 (.named "Pad"))) rfl
  let calls := [pad, pad, .start, .play (.detach 1) rfl, .flush, pad]
  have ends : ((ofBackend .empty 2 : Input _ Unit).run (calls ++ [.flush])).map (fun effect =>
      (connectedDevices effect.notices, effect.input.frame.capacity,
        effect.input.frame.holder? 0, effect.input.frame.holder? 1)) =
      .ok ([0, 2], 2, some 2, none) := by
    decide +kernel
  cases ran : (ofBackend .empty 2 : Input _ Unit).run (calls ++ [.flush]) with
  | error cause =>
    rw [ran] at ends
    cases ends
  | ok effect =>
    rw [ran] at ends
    simp only [Except.map, Except.ok.injEq, Prod.mk.injEq] at ends
    obtain ⟨connected, capacity, first, second⟩ := ends
    have crowd : (connectedDevices effect.notices).length ≤ effect.input.frame.capacity := by
      simp [connected, capacity]
    have there : Connected effect.notices 0 := mem_connectedDevices.mp (by simp [connected])
    obtain ⟨index, inside, holds⟩ := claimed 2 calls effect ran crowd 0 there
    obtain rfl | rfl : index = 0 ∨ index = 1 := by omega
    · simp [first] at holds
    · simp [second] at holds

end Input

end GamepadInput
