import GamepadInput.Proofs.Axis.Unit
import GamepadInput.Proofs.Hub.Live
import GamepadInput.Proofs.Virtual.Course

/-!
# Axis values of virtual pads

What an axis of a pad shows was accepted from the host before, or is the zero it started at.
Samples are mapped into the unit, and so is every number that an axis is set to; only not-a-number
goes through as it is, and shows where the host set it (`axisValues_run`).
-/

namespace GamepadInput

/-! ## Values of one record -/

/-- Every axis of the record shows a value with a property that may depend on the axis. -/
def Device.AxesSatisfy (device : Device) (property : Nat → Binary32 → Prop) : Prop :=
  ∀ axis value, device.axes[axis]? = some value → property axis value

/-- The values of the event, if it is of an axis, have the property. -/
def EventKind.ValuesSatisfy (property : Nat → Binary32 → Prop) : EventKind → Prop
  | .axis change => property change.axis change.value ∧ property change.axis change.last
  | .attached | .removed | .button .. => True

theorem EventKind.valuesSatisfy_of_not_isInput {property : Nat → Binary32 → Prop}
    {kind : EventKind} (other : kind.isInput = false) : kind.ValuesSatisfy property := by
  cases kind with
  | attached | removed | button => trivial
  | axis => cases other

namespace Device

variable {device : Device} {property : Nat → Binary32 → Prop} {kinds : List EventKind}

theorem IsAtRest.axesSatisfy (rest : device.IsAtRest) (zero : ∀ axis, property axis 0) :
    device.AxesSatisfy property := by
  intro axis value shows
  rw [rest.axes_eq, Array.getElem?_replicate] at shows
  split at shows
  · cases shows
    exact zero axis
  · cases shows

theorem AxesSatisfy.apply (axes : device.AxesSatisfy property) {kind : EventKind}
    (values : ∀ change, kind = .axis change → property change.axis change.value) :
    (device.apply kind).AxesSatisfy property := by
  cases kind with
  | attached | removed | button => exact axes
  | axis change =>
    intro axis value shows
    simp only [Device.apply, setAxis, Array.getElem?_setIfInBounds] at shows
    split at shows
    · rename_i here
      split at shows
      · cases shows
        exact here ▸ values change rfl
      · cases shows
    · exact axes axis value shows

section Kinds

variable (axes : device.AxesSatisfy property)
  (values : ∀ change, .axis change ∈ kinds → property change.axis change.value)

include axes values

theorem AxesSatisfy.replay : (device.replay kinds).AxesSatisfy property := by
  induction kinds generalizing device with
  | nil => exact axes
  | cons kind rest ih =>
    rw [replay_cons]
    refine ih (axes.apply fun change same => ?_) fun change member => values change (by simp [member])
    exact values change (by simp [same])

/-- Nobody hears of a record with other values. -/
theorem AxesSatisfy.hears : ∀ notice ∈ device.hears kinds, notice.device.AxesSatisfy property := by
  induction kinds generalizing device with
  | nil => simp
  | cons kind rest ih =>
    have next : (device.apply kind).AxesSatisfy property :=
      axes.apply fun change same => values change (by simp [same])
    intro notice member
    rcases List.mem_cons.mp member with rfl | later
    · exact next
    · exact ih next (fun change member => values change (by simp [member])) notice later

/-- Changes start from values that the record showed. -/
theorem AdmitsAll.valuesSatisfy (admitted : device.AdmitsAll kinds) :
    ∀ kind ∈ kinds, kind.ValuesSatisfy property := by
  induction kinds generalizing device with
  | nil => simp
  | cons kind rest ih =>
    have first : ∀ change, kind = .axis change → property change.axis change.value :=
      fun change same => values change (by simp [same])
    intro other member
    rcases List.mem_cons.mp member with rfl | later
    · cases other with
      | attached | removed | button => trivial
      | axis change => exact ⟨first change rfl, axes _ _ admitted.1⟩
    · exact ih (axes.apply first) (fun change member => values change (by simp [member]))
        admitted.2 other later

end Kinds

end Device

/-! ## Values of one device -/

/-- The entry of a device is where the device stands. -/
theorem Hub.Stands.kept?_eq {α : Type} {hub : Hub α} {id : DeviceId} {standing : Standing α}
    (stands : hub.Stands id standing) {entry : Entry α}
    (kept : entry ∈ hub.registry.live ++ hub.registry.retired) (mine : entry.id = id) :
    standing.kept? = some entry := by
  have own : entry ∈ (hub.only id).registry.live ++ (hub.only id).registry.retired := by
    simpa [Hub.only, Registry.only, mine] using List.mem_append.mp kept
  rw [stands.only] at own
  cases standing with
  | absent | gone => cases own
  | present here announced waiting => exact congrArg some (List.mem_singleton.mp own).symm
  | unplugged here => exact congrArg some (List.mem_singleton.mp own).symm

/-- Only attaches and removals wait to be detected. -/
theorem Hub.Stands.not_isInput {α : Type} {hub : Hub α} {id : DeviceId} {standing : Standing α}
    (stands : hub.Stands id standing) {event : Event} (waits : event ∈ hub.deviceEvents.events)
    (mine : event.device = id) : event.kind.isInput = false := by
  have own : event ∈ (hub.only id).deviceEvents.events := by
    simpa [Hub.only, EventQueue.only, mine] using waits
  rw [stands.only] at own
  cases standing with
  | absent | gone => cases own
  | present here announced waiting =>
    obtain ⟨kind, herald, rfl⟩ := List.mem_map.mp own
    cases announced with
    | true => cases herald
    | false => rw [List.mem_singleton.mp herald]; rfl
  | unplugged here => rw [List.mem_singleton.mp own]; rfl

namespace VirtualBackend

open Device

/-- What is told of a device was accepted for it, its attach aside. -/
theorem mem_accepted (delivered rest : List EventKind) :
    ∀ kind ∈ .attached :: delivered, kind ∈ delivered ++ rest ∨ kind.isInput = false := by
  intro kind told
  rcases List.mem_cons.mp told with rfl | input
  · exact .inr rfl
  · exact .inl (List.mem_append_left rest input)

section Course

variable {property : Nat → Binary32 → Prop} {standing : Standing VirtualPadState}
  {heard : List Notice} {accepted : List EventKind} (zero : ∀ axis, property axis 0)
  (values : ∀ change, .axis change ∈ accepted → property change.axis change.value)

include zero values

/-- What is told of a device has the values that were accepted for it. -/
theorem valuesSatisfy_of_told {start : Device} {told : List EventKind} (rest : start.IsAtRest)
    (admitted : start.AdmitsAll accepted)
    (known : ∀ kind ∈ told, kind ∈ accepted ∨ kind.isInput = false) :
    ∀ notice ∈ start.hears told,
      notice.device.AxesSatisfy property ∧ notice.kind.ValuesSatisfy property := by
  have axes := rest.axesSatisfy zero
  intro notice member
  constructor
  · refine axes.hears (fun change listed => values change ?_) notice member
    exact (known _ listed).resolve_right (by simp [EventKind.isInput])
  · have listed : notice.kind ∈ told := by
      rw [← start.kinds_hears told]
      exact List.mem_map_of_mem member
    rcases known _ listed with input | other
    · exact admitted.valuesSatisfy axes values _ input
    · exact EventKind.valuesSatisfy_of_not_isInput other

/-- The values of a device are among those that were accepted for it. -/
theorem Course.valuesSatisfy (course : Course standing heard accepted) :
    (∀ entry ∈ standing.kept?, entry.device.AxesSatisfy property) ∧
      (∀ kind ∈ standing.queued, kind.ValuesSatisfy property) ∧
      ∀ notice ∈ heard,
        notice.device.AxesSatisfy property ∧ notice.kind.ValuesSatisfy property := by
  cases course with
  | absent | silent => simp [Standing.kept?, Standing.queued]
  | @present start state announced delivered waiting rest quiet admitted mirrors =>
    refine ⟨?_, ?_, ?_⟩
    · rintro entry ⟨⟩
      exact (rest.axesSatisfy zero).replay fun change member => values change (by simp [member])
    · intro kind queued
      rcases List.mem_append.mp queued with input | closes
      · exact admitted.valuesSatisfy (rest.axesSatisfy zero) values kind (by simp [input])
      · unfold closing at closes
        split at closes
        · rw [List.mem_singleton.mp closes]
          trivial
        · cases closes
    · cases announced with
      | false => simp
      | true =>
        exact valuesSatisfy_of_told zero values rest admitted (mem_accepted delivered waiting)
  | @unplugged start state delivered lost rest admitted =>
    refine ⟨?_, by simp [Standing.queued], ?_⟩
    · rintro entry ⟨⟩
      exact (rest.axesSatisfy zero).replay fun change member => values change (by simp [member])
    · exact valuesSatisfy_of_told zero values rest admitted (mem_accepted delivered lost)
  | @dropped start delivered lost rest admitted =>
    refine ⟨by simp [Standing.kept?], by simp [Standing.queued], ?_⟩
    exact valuesSatisfy_of_told zero values rest admitted (mem_accepted delivered lost)
  | @left start delivered lost rest admitted =>
    refine ⟨by simp [Standing.kept?], by simp [Standing.queued], ?_⟩
    refine valuesSatisfy_of_told zero values rest admitted fun kind listed => ?_
    rcases List.mem_append.mp listed with told | leaves
    · exact mem_accepted delivered lost kind told
    · rw [List.mem_singleton.mp leaves]
      exact .inr rfl

end Course

/-! ## Where values come from -/

/-- A value that calls can bring an axis to: one within the unit, or not-a-number if the host set
the axis to it. -/
def Explained (calls : List Call) (id : DeviceId) (axis : Nat) (value : Binary32) : Prop :=
  value.InUnit ∨ value = .nan ∧ .setAxis id axis .nan ∈ calls

theorem Explained.mono {calls more : List Call} {id : DeviceId} {axis : Nat} {value : Binary32}
    (explained : Explained calls id axis value) (sub : calls ⊆ more) :
    Explained more id axis value :=
  explained.imp_right fun spoiled => ⟨spoiled.1, sub spoiled.2⟩

variable {id : DeviceId} {standing after : Standing VirtualPadState} {notices : List Notice}
  {kinds : List EventKind} {call : Call} {calls : List Call}

theorem axis_not_mem_press (buttons : Buttons) (index : Nat) (down : Bool) (change : Axis.Change) :
    .axis change ∉ (buttons.press index down).2 := by
  unfold Buttons.press
  split <;> simp

/-- A pad answers a call with values that the call explains. -/
theorem explained_of_answer? {state fed : VirtualPadState} (target : call.target? = some id)
    (answer : answer? state call = some (fed, kinds)) {change : Axis.Change}
    (member : .axis change ∈ kinds) : Explained [call] id change.axis change.value := by
  cases call with
  | press other button =>
    have reported : (state.buttons.press button true).2 = kinds :=
      congrArg Prod.snd (Option.some.inj answer)
    rw [← reported] at member
    exact (axis_not_mem_press _ _ _ _ member).elim
  | release other button =>
    have reported : (state.buttons.press button false).2 = kinds :=
      congrArg Prod.snd (Option.some.inj answer)
    rw [← reported] at member
    exact (axis_not_mem_press _ _ _ _ member).elim
  | moveAxis other axis raw =>
    simp only [answer?] at answer
    split at answer
    · rename_i layout changes took
      obtain ⟨rfl, rfl⟩ := Prod.mk.inj (Option.some.inj answer)
      have listed : change ∈ changes := by simpa using member
      exact .inl (Axis.Layout.inUnit_feed took listed)
    · cases answer
  | setAxis other axis value =>
    have reported : (state.layout.setNormalized axis value).2.toList.map .axis = kinds :=
      congrArg Prod.snd (Option.some.inj answer)
    have set : (state.layout.setNormalized axis value).2 = some change := by
      simpa [← reported] using member
    obtain ⟨rfl, inUnit | ⟨rfl, spoiled⟩⟩ := Axis.Layout.value_of_setNormalized set
    · exact .inl inUnit
    · cases target
      exact .inr ⟨spoiled, List.mem_singleton_self _⟩
  | attach | detach | unplug | detect | process | shutdown => cases answer

theorem Moves.explained (move : Moves id standing call after notices kinds) {change : Axis.Change}
    (member : .axis change ∈ kinds) : Explained [call] id change.axis change.value := by
  cases move with
  | feed target takes answer => exact explained_of_answer? target answer member
  | join | stay | close | unplug | detect | process | shutdown => cases member

theorem Passes.explained (passes : Passes id standing calls after notices kinds)
    {change : Axis.Change} (member : .axis change ∈ kinds) :
    Explained calls id change.axis change.value := by
  induction passes with
  | nil => cases member
  | cons move rest ih =>
    rcases List.mem_append.mp member with now | later
    · exact (move.explained now).mono (by simp)
    · exact (ih later).mono (List.subset_cons_self _ _)

/-! ## Runs -/

/-- All axis values that a run keeps, queues and tells have a property, which may depend on the
device and the axis. -/
structure AxisValues (property : DeviceId → Nat → Binary32 → Prop) (calls : List Call) : Prop where
  /-- Live and retired devices show no others. -/
  records : ∀ entry ∈ (empty.run calls).backend.hub.registry.live ++
      (empty.run calls).backend.hub.registry.retired,
    entry.device.AxesSatisfy (property entry.id)
  /-- No others wait, before or after the change. -/
  waiting : ∀ event ∈ (empty.run calls).backend.hub.deviceEvents.events ++
      (empty.run calls).backend.hub.inputEvents.events,
    event.kind.ValuesSatisfy (property event.device)
  /-- No others were heard, nor shown by a record that was handed over. -/
  heard : ∀ notice ∈ (empty.run calls).notices,
    notice.device.AxesSatisfy (property notice.device.id) ∧
      notice.kind.ValuesSatisfy (property notice.device.id)

/-- Every axis value of a run lies within the unit, or the host put not-a-number there. -/
theorem axisValues_run (calls : List Call) : AxisValues (Explained calls) calls := by
  have zero : (0 : Binary32).InUnit := by decide +kernel
  have course (id : DeviceId) : ∃ standing, (empty.run calls).backend.hub.Stands id standing ∧
      (∀ entry ∈ standing.kept?, entry.device.AxesSatisfy (Explained calls id)) ∧
      (∀ kind ∈ standing.queued, kind.ValuesSatisfy (Explained calls id)) ∧
      ∀ notice ∈ heardOf (empty.run calls).notices id,
        notice.device.AxesSatisfy (Explained calls id) ∧
          notice.kind.ValuesSatisfy (Explained calls id) := by
    obtain ⟨standing, passes, stands, course⟩ :=
      run_passes (Hub.Stands.empty id) Course.absent calls
    exact ⟨standing, stands, course.valuesSatisfy (fun _ => .inl zero)
      fun change member => passes.explained member⟩
  refine ⟨?_, ?_, ?_⟩
  · intro entry kept
    obtain ⟨standing, stands, records, -, -⟩ := course entry.id
    exact records entry (stands.kept?_eq kept rfl)
  · intro event waits
    obtain ⟨standing, stands, -, queued, -⟩ := course event.device
    rcases List.mem_append.mp waits with device | input
    · exact EventKind.valuesSatisfy_of_not_isInput (stands.not_isInput device rfl)
    · have mine : event.kind ∈ kindsOf (empty.run calls).backend.hub.inputEvents.events
          event.device :=
        List.mem_map_of_mem (List.mem_filter.mpr ⟨input, by simp⟩)
      rw [stands.queued_eq] at mine
      exact queued event.kind mine
  · intro notice member
    obtain ⟨standing, -, -, -, heard⟩ := course notice.device.id
    exact heard notice (List.mem_filter.mpr ⟨member, by simp⟩)

/-- A pad whose axis is set to not-a-number. -/
def spoiledOnce : List Call :=
  [.attach ((VirtualPad.named "Pad").axis 0 255) (.axis 0 255 (.named "Pad")), .setAxis 0 0 .nan]

theorem not_inUnit_of_spoiled :
    ¬∀ calls, AxisValues (fun _ _ value => value.InUnit) calls := by
  intro within
  have queued := (within spoiledOnce).waiting ⟨0, .axis ⟨0, .nan, 0⟩⟩ (by decide)
  exact absurd queued.1 (by decide)

end VirtualBackend

end GamepadInput
