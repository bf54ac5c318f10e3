import GamepadInput.Buttons
import GamepadInput.Proofs.Axis.Wiring
import GamepadInput.Proofs.Registry.Alone

/-!
# Changes that fit a record

A record admits a change of a control that it has, from the state in which it has it.  Changes that
a record admits one after the other start where the last change of the same axis ended, and press
and release each button in turn.  Those that a producer reports lead from its state before to its
state after.
-/

namespace GamepadInput

namespace Device

/-- The change is one of a control of the device, from the state that the record shows. -/
def Admits (device : Device) : EventKind → Prop
  | .attached | .removed => False
  | .button index down => device.buttons[index]? = some !down
  | .axis change => device.axes[change.axis]? = some change.last

/-- Each change is admitted by the record that the ones before it make. -/
def AdmitsAll (device : Device) : List EventKind → Prop
  | [] => True
  | kind :: rest => device.Admits kind ∧ (device.apply kind).AdmitsAll rest

/-- Admitted changes that take the record to some states of axes and buttons. -/
structure LeadsTo (device : Device) (kinds : List EventKind) (axes : Array Binary32)
    (buttons : Buttons) : Prop where
  admitted : device.AdmitsAll kinds
  axes_eq : (device.replay kinds).axes = axes
  buttons_eq : (device.replay kinds).buttons = buttons

/-- Every axis is at zero and every button is up. -/
structure IsAtRest (device : Device) : Prop where
  axes_eq : device.axes = .replicate device.axisCount 0
  buttons_eq : device.buttons = .replicate device.buttonCount false

/-- The record with every axis at zero and every button up. -/
def zeroed (device : Device) : Device :=
  { device with
    axes := .replicate device.axisCount 0
    buttons := .replicate device.buttonCount false }

/-- There is a record at rest with any number of axes and buttons. -/
theorem exists_isAtRest (axisCount buttonCount : Nat) : ∃ device : Device, device.IsAtRest ∧
    device.axisCount = axisCount ∧ device.buttonCount = buttonCount :=
  ⟨.atRest "" 0 0 axisCount buttonCount .unknown,
    ⟨by simp [atRest, Device.axisCount], by simp [atRest, Device.buttonCount]⟩,
    by simp [atRest, Device.axisCount], by simp [atRest, Device.buttonCount]⟩

/-- Events change nothing of a record but its axes and buttons. -/
theorem replay_eq (device : Device) (kinds : List EventKind) :
    ∃ axes buttons, device.replay kinds = { device with axes, buttons } := by
  induction kinds generalizing device with
  | nil => exact ⟨device.axes, device.buttons, rfl⟩
  | cons kind rest ih =>
    obtain ⟨axes, buttons, is_⟩ := ih (device.apply kind)
    refine ⟨axes, buttons, ?_⟩
    rw [replay_cons, is_]
    cases kind <;> rfl

variable {device : Device} {kinds : List EventKind}

/-- A record at rest is what is left of any later one without its state. -/
theorem IsAtRest.zeroed_replay (rest : device.IsAtRest) (kinds : List EventKind) :
    (device.replay kinds).zeroed = device := by
  have axes := device.axisCount_replay kinds
  have buttons := device.buttonCount_replay kinds
  obtain ⟨_, _, is_⟩ := device.replay_eq kinds
  rw [zeroed, axes, buttons, is_, ← rest.axes_eq, ← rest.buttons_eq]

theorem admitsAll_append (first second : List EventKind) :
    device.AdmitsAll (first ++ second) ↔
      device.AdmitsAll first ∧ (device.replay first).AdmitsAll second := by
  induction first generalizing device with
  | nil => simp [AdmitsAll]
  | cons kind rest ih => simp [AdmitsAll, replay_cons, ih, and_assoc]

/-- Only input is admitted. -/
theorem AdmitsAll.isInput (admitted : device.AdmitsAll kinds) :
    ∀ kind ∈ kinds, kind.isInput = true := by
  induction kinds generalizing device with
  | nil => simp
  | cons kind rest ih =>
    intro other member
    rcases List.mem_cons.mp member with rfl | later
    · cases other with
      | attached | removed => exact admitted.1.elim
      | button index down | axis change => rfl
    · exact ih admitted.2 other later

theorem AdmitsAll.removed_not_mem (admitted : device.AdmitsAll kinds) : .removed ∉ kinds :=
  fun member => by simpa [EventKind.isInput] using admitted.isInput _ member

theorem LeadsTo.append {first second : List EventKind} {axes axes' : Array Binary32}
    {buttons buttons' : Buttons} (there : device.LeadsTo first axes buttons)
    (on : (device.replay first).LeadsTo second axes' buttons') :
    device.LeadsTo (first ++ second) axes' buttons' where
  admitted := (admitsAll_append first second).mpr ⟨there.admitted, on.admitted⟩
  axes_eq := by rw [replay_append, on.axes_eq]
  buttons_eq := by rw [replay_append, on.buttons_eq]

theorem LeadsTo.nil (device : Device) : device.LeadsTo [] device.axes device.buttons :=
  ⟨trivial, rfl, rfl⟩

theorem LeadsTo.cons {kind : EventKind} {axes : Array Binary32} {buttons : Buttons}
    (admits : device.Admits kind) (on : (device.apply kind).LeadsTo kinds axes buttons) :
    device.LeadsTo (kind :: kinds) axes buttons :=
  ⟨⟨admits, on.admitted⟩, on.axes_eq, on.buttons_eq⟩

/-! ## What admitted changes look like -/

/-- The changes of one axis, in order. -/
def changesOf (kinds : List EventKind) (axis : Nat) : List Axis.Change :=
  kinds.filterMap fun
    | .axis change => if change.axis = axis then some change else none
    | _ => none

/-- The edges of one button, in order: down or up. -/
def edgesOf (kinds : List EventKind) (button : Nat) : List Bool :=
  kinds.filterMap fun
    | .button index down => if index = button then some down else none
    | _ => none

theorem changesOf_inputs (kinds : List EventKind) (axis : Nat) :
    changesOf (kinds.filter (·.isInput)) axis = changesOf kinds axis := by
  induction kinds with
  | nil => rfl
  | cons kind rest ih =>
    cases kind with
    | attached | removed => exact ih
    | button index down => exact ih
    | axis change =>
      rw [List.filter_cons_of_pos rfl]
      simp only [changesOf, List.filterMap_cons] at ih ⊢
      rw [ih]

theorem edgesOf_inputs (kinds : List EventKind) (button : Nat) :
    edgesOf (kinds.filter (·.isInput)) button = edgesOf kinds button := by
  induction kinds with
  | nil => rfl
  | cons kind rest ih =>
    cases kind with
    | attached | removed => exact ih
    | axis change => exact ih
    | button index down =>
      rw [List.filter_cons_of_pos rfl]
      simp only [edgesOf, List.filterMap_cons] at ih ⊢
      rw [ih]

/-- Every control that changes exists. -/
theorem AdmitsAll.index_lt (admitted : device.AdmitsAll kinds) :
    (∀ change, .axis change ∈ kinds → change.axis < device.axisCount) ∧
      ∀ index down, .button index down ∈ kinds → index < device.buttonCount := by
  induction kinds generalizing device with
  | nil => simp
  | cons kind rest ih =>
    obtain ⟨axes, buttons⟩ := ih admitted.2
    simp only [axisCount_apply, buttonCount_apply] at axes buttons
    constructor
    · intro change member
      rcases List.mem_cons.mp member with rfl | later
      · exact (Array.getElem?_eq_some_iff.mp admitted.1).1
      · exact axes change later
    · intro index down member
      rcases List.mem_cons.mp member with rfl | later
      · exact (Array.getElem?_eq_some_iff.mp admitted.1).1
      · exact buttons index down later

/-- A change of an axis starts from the value that the change before it left. -/
theorem AdmitsAll.last_eq (admitted : device.AdmitsAll kinds) {axis : Nat} {value : Binary32}
    (now : device.axes[axis]? = some value) :
    (changesOf kinds axis).map (·.last) =
      (value :: (changesOf kinds axis).map (·.value)).dropLast := by
  induction kinds generalizing device value with
  | nil => rfl
  | cons kind rest ih =>
    cases kind with
    | attached | removed => exact admitted.1.elim
    | button index down =>
      exact ih admitted.2 now
    | axis change =>
      have bound : axis < device.axes.size := (Array.getElem?_eq_some_iff.mp now).1
      by_cases mine : change.axis = axis
      · subst mine
        have last : change.last = value := by
          have before : device.axes[change.axis]? = some change.last := admitted.1
          rw [now] at before
          exact (Option.some.inj before).symm
        have now' : (device.apply (.axis change)).axes[change.axis]? = some change.value := by
          simp [apply, setAxis, bound]
        have after := ih admitted.2 now'
        simp only [changesOf, List.filterMap_cons, if_true, List.map_cons] at after ⊢
        rw [after, last]
        rfl
      · have now' : (device.apply (.axis change)).axes[axis]? = some value := by
          simpa [apply, setAxis, Array.getElem?_setIfInBounds, mine] using now
        have after := ih admitted.2 now'
        simpa only [changesOf, List.filterMap_cons, if_neg mine] using after

/-- The edges of a button are turned about every time, the first from the state it is in. -/
theorem AdmitsAll.edges_alternate (admitted : device.AdmitsAll kinds) {button : Nat} {held : Bool}
    (now : device.buttons[button]? = some held) {place : Nat} {down : Bool}
    (edge : (edgesOf kinds button)[place]? = some down) : (down = !held) ↔ place % 2 = 0 := by
  induction kinds generalizing device held place with
  | nil => simp [edgesOf] at edge
  | cons kind rest ih =>
    cases kind with
    | attached | removed => exact admitted.1.elim
    | axis change =>
      exact ih admitted.2 now edge
    | button index pressed =>
      have bound : button < device.buttons.size := (Array.getElem?_eq_some_iff.mp now).1
      by_cases mine : index = button
      · subst mine
        have turned : pressed = !held := by
          have before : device.buttons[index]? = some !pressed := admitted.1
          rw [now] at before
          rw [Option.some.inj before, Bool.not_not]
        simp only [edgesOf, List.filterMap_cons, if_true] at edge
        cases place with
        | zero =>
          rw [List.getElem?_cons_zero] at edge
          simp [← Option.some.inj edge, turned]
        | succ place =>
          rw [List.getElem?_cons_succ] at edge
          have now' : (device.apply (.button index pressed)).buttons[index]? = some pressed := by
            simp [apply, setButton, bound]
          have after := ih admitted.2 now' edge
          rw [turned, Bool.not_not] at after
          have opposite : (down = !held) ↔ ¬down = held := by cases down <;> cases held <;> simp
          rw [opposite, after]
          omega
      · have now' : (device.apply (.button index pressed)).buttons[button]? = some held := by
          simpa [apply, setButton, Array.getElem?_setIfInBounds, mine] using now
        simp only [edgesOf, List.filterMap_cons, if_neg mine] at edge
        exact ih admitted.2 now' edge

/-- From rest, changes start where the change before them ended, the first at zero. -/
theorem AdmitsAll.last_eq_of_rest (admitted : device.AdmitsAll kinds) (rest : device.IsAtRest)
    (axis : Nat) :
    (changesOf kinds axis).map (·.last) =
      (0 :: (changesOf kinds axis).map (·.value)).dropLast := by
  by_cases inside : axis < device.axisCount
  · refine admitted.last_eq ?_
    rw [rest.axes_eq, Array.getElem?_replicate, if_pos inside]
  · have nothing : changesOf kinds axis = [] := by
      rw [changesOf, List.filterMap_eq_nil_iff]
      intro kind member
      cases kind with
      | attached | removed | button index down => rfl
      | axis change =>
        have bound := admitted.index_lt.1 change member
        have other : change.axis ≠ axis := by
          rintro rfl
          exact inside bound
        simp [other]
    rw [nothing]
    rfl

/-- The edges of a button are down, up, down, and so on from rest. -/
theorem AdmitsAll.alternate_of_rest (admitted : device.AdmitsAll kinds) (rest : device.IsAtRest)
    {button place : Nat} {down : Bool}
    (edge : (edgesOf kinds button)[place]? = some down) : down = true ↔ place % 2 = 0 := by
  have member : .button button down ∈ kinds := by
    obtain ⟨kind, member, is_⟩ := List.mem_filterMap.mp (List.mem_of_getElem? edge)
    cases kind with
    | attached | removed | axis change => cases is_
    | button index pressed =>
      by_cases mine : index = button
      · simp only [if_pos mine, Option.some.injEq] at is_
        rwa [← mine, ← is_]
      · simp [mine] at is_
  have inside := admitted.index_lt.2 button down member
  have up : device.buttons[button]? = some false := by
    rw [rest.buttons_eq, Array.getElem?_replicate, if_pos inside]
  exact admitted.edges_alternate up edge

end Device

/-! ## What producers report -/

section Producers

variable {device : Device}

theorem Buttons.press_leads {buttons : Buttons} (same : device.buttons = buttons) (index : Nat)
    (down : Bool) :
    device.LeadsTo (buttons.press index down).2 device.axes (buttons.press index down).1 := by
  subst same
  unfold Buttons.press
  split
  · rename_i held
    exact ⟨⟨held, trivial⟩, rfl, rfl⟩
  · exact .nil device

namespace Axis.Layout

variable (layout : Layout)

theorem set_leads (same : device.axes = layout.values) (axis : Nat) (value : Binary32) :
    device.LeadsTo ((layout.set axis value).2.map .axis) (layout.set axis value).1.values
      device.buttons := by
  unfold set
  split
  · exact ⟨trivial, same, rfl⟩
  · rename_i slot found
    split
    · exact ⟨trivial, same, rfl⟩
    · refine ⟨⟨?_, trivial⟩, ?_, rfl⟩
      · simp [Device.Admits, same, values, found]
      · simp [Device.replay_cons, Device.apply, Device.setAxis, same, values,
          Array.map_setIfInBounds]

/-- A raw sample reports how it changed the values of the layout. -/
theorem feed_leads (same : device.axes = layout.values) {axis : Nat} {raw : Int} {fed : Layout}
    {changes : List Change} (result : layout.feed axis raw = .ok (fed, changes)) :
    device.LeadsTo (changes.map .axis) fed.values device.buttons := by
  cases feeds_of_feed result with
  | outside | second => exact ⟨trivial, same, rfl⟩
  | linear => exact (layout.setRange axis _).set_leads (by simpa using same) axis _
  | @hat slot min max x y here source sampled =>
    have first := layout.set_leads same axis x
    have second := (layout.set axis x).1.set_leads first.axes_eq (axis + 1) y
    rw [List.map_append]
    rw [first.buttons_eq] at second
    exact first.append second

theorem setNormalized_leads (same : device.axes = layout.values) (axis : Nat) (value : Binary32) :
    device.LeadsTo ((layout.setNormalized axis value).2.toList.map .axis)
      (layout.setNormalized axis value).1.values device.buttons := by
  have leads := layout.set_leads same axis (unitClamp value)
  have short := layout.length_set_le axis (unitClamp value)
  simp only [setNormalized]
  cases changes : (layout.set axis (unitClamp value)).2 with
  | nil => simpa [changes] using leads
  | cons change rest =>
    have alone : rest = [] := by
      rw [changes, List.length_cons] at short
      exact List.eq_nil_of_length_eq_zero (by omega)
    simpa [changes, alone] using leads

end Axis.Layout

end Producers

end GamepadInput
