import GamepadInput.Proofs.Device.Changes
import GamepadInput.Proofs.Hub.Standing
import GamepadInput.Proofs.Virtual.Run

/-!
# What a call does to one device

Every call takes a device from one standing to the next, lets something be heard of it, and may
accept input for it.  `Moves` lists what can happen; `perform_moves` says that nothing else does.
-/

namespace GamepadInput.VirtualBackend

/-- The device that a call names. -/
def Call.target? : Call → Option DeviceId
  | .press id _ | .release id _ | .moveAxis id .. | .setAxis id .. | .detach id | .unplug id =>
    some id
  | .attach .. | .detect | .process | .shutdown => none

/-- What a pad makes of an input call: its state after it, and the changes it reports.  Other calls
and samples that overflow make nothing. -/
def answer? (state : VirtualPadState) : Call → Option (VirtualPadState × List EventKind)
  | .press _ button =>
    let (buttons, kinds) := state.buttons.press button true
    some ({ state with buttons }, kinds)
  | .release _ button =>
    let (buttons, kinds) := state.buttons.press button false
    some ({ state with buttons }, kinds)
  | .moveAxis _ axis raw =>
    match state.layout.feed axis raw with
    | .ok (layout, changes) => some ({ state with layout }, changes.map .axis)
    | .error _ => none
  | .setAxis _ axis value =>
    let (layout, change) := state.layout.setNormalized axis value
    some ({ state with layout }, change.toList.map .axis)
  | .attach .. | .detach _ | .unplug _ | .detect | .process | .shutdown => none

/-- A record shows the state of the host's side. -/
structure Mirrors (device : Device) (state : VirtualPadState) : Prop where
  axes_eq : device.axes = state.layout.values
  buttons_eq : device.buttons = state.buttons

/-- The changes that a pad reports lead from its state before to its state after. -/
theorem answer?_leads {device : Device} {state after : VirtualPadState} {call : Call}
    {kinds : List EventKind} (mirrors : Mirrors device state)
    (answer : answer? state call = some (after, kinds)) :
    device.AdmitsAll kinds ∧ Mirrors (device.replay kinds) after ∧ after.ended = state.ended := by
  obtain ⟨axes, buttons⟩ := mirrors
  cases call with
  | press other button | release other button =>
    obtain ⟨rfl, rfl⟩ := Prod.mk.inj (Option.some.inj answer)
    have leads := Buttons.press_leads buttons button
    exact ⟨(leads _).admitted, ⟨(leads _).axes_eq.trans axes, (leads _).buttons_eq⟩, rfl⟩
  | moveAxis other axis raw =>
    simp only [answer?] at answer
    split at answer
    · rename_i layout changes fed
      obtain ⟨rfl, rfl⟩ := Prod.mk.inj (Option.some.inj answer)
      have leads := Axis.Layout.feed_leads state.layout axes fed
      exact ⟨leads.admitted, ⟨leads.axes_eq, leads.buttons_eq.trans buttons⟩, rfl⟩
    · cases answer
  | setAxis other axis value =>
    obtain ⟨rfl, rfl⟩ := Prod.mk.inj (Option.some.inj answer)
    have leads := state.layout.setNormalized_leads axes axis value
    exact ⟨leads.admitted, ⟨leads.axes_eq, leads.buttons_eq.trans buttons⟩, rfl⟩
  | attach | detach | unplug | detect | process | shutdown => cases answer

/-! ## One device and one call -/

/-- What a call can do to a device: its standing before and after, what is heard of it, and the
input accepted for it. -/
inductive Moves (id : DeviceId) : Standing VirtualPadState → Call → Standing VirtualPadState →
    List Notice → List EventKind → Prop where
  /-- The device is the one attached. -/
  | join {pad : VirtualPad} {made : pad.Made} {device : Device} {state : VirtualPadState}
      (rest : device.IsAtRest) (mirrors : Mirrors device state) (takes : state.ended = false) :
      Moves id .absent (.attach pad made) (.present ⟨device, state⟩ false []) [] []
  /-- The call is about another device, or it is refused. -/
  | stay {standing : Standing VirtualPadState} {call : Call}
      (quiet : call ≠ .detect ∧ call ≠ .process ∧ call ≠ .shutdown) :
      Moves id standing call standing [] []
  | feed {entry : Entry VirtualPadState} {announced : Bool} {waiting : List EventKind}
      {call : Call} {state : VirtualPadState} {kinds : List EventKind}
      (target : call.target? = some id) (takes : entry.data.ended = false)
      (answer : answer? entry.data call = some (state, kinds)) :
      Moves id (.present entry announced waiting) call
        (.present { entry with data := state } announced (waiting ++ kinds)) [] kinds
  | close {entry : Entry VirtualPadState} {announced : Bool} {waiting : List EventKind}
      (takes : entry.data.ended = false) :
      Moves id (.present entry announced waiting) (.detach id)
        (.present { entry with data := { entry.data with ended := true } } announced
          (waiting ++ [.removed])) [] []
  | unplug {entry : Entry VirtualPadState} {announced : Bool} {waiting : List EventKind} :
      Moves id (.present entry announced waiting) (.unplug id)
        (if announced then .unplugged entry else .gone) [] []
  | detect {standing : Standing VirtualPadState} :
      Moves id standing .detect standing.detected standing.announcement []
  | process {standing : Standing VirtualPadState} :
      Moves id standing .process standing.processed standing.delivery []
  | shutdown {standing : Standing VirtualPadState} :
      Moves id standing .shutdown standing.cleared [] []

variable {backend : VirtualBackend} {id : DeviceId} {standing : Standing VirtualPadState}
  {entry : Entry VirtualPadState} {announced : Bool} {waiting : List EventKind}

theorem accepting?_eq (stands : backend.hub.Stands id standing) :
    backend.accepting? id = (standing.live?.map (·.data)).filter (!·.ended) := by
  rw [accepting?, stands.get?_eq]

/-! ## Reports -/

theorem report_self (stands : backend.hub.Stands id (.present entry announced waiting))
    (state : VirtualPadState) (kinds : List EventKind) :
    (backend.report id state kinds).hub.Stands id
      (.present { entry with data := state } announced (waiting ++ kinds)) :=
  (stands.queueInput_self kinds).setData_self state

theorem report_other {other : DeviceId} (differ : other ≠ id)
    (stands : backend.hub.Stands id standing) (state : VirtualPadState) (kinds : List EventKind) :
    (backend.report other state kinds).hub.Stands id standing :=
  (stands.queueInput_other differ kinds).setData_other differ state

/-- The newest events after a report are the ones reported. -/
theorem newest_report (id : DeviceId) (state : VirtualPadState) (kinds : List EventKind) :
    (backend.report id state kinds).newest id kinds.length = kinds.map (⟨id, ·⟩) := by
  simp [newest, report, Hub.queueInput, EventQueue.pushAll, Function.comp_def]

theorem newest_zero (id : DeviceId) : backend.newest id 0 = [] := by
  simp [newest]

theorem reporting_report (state : VirtualPadState) {kinds : List EventKind} {count : Nat}
    (exact_count : count = kinds.length) :
    reporting id (backend.report id state kinds) count =
      ⟨backend.report id state kinds, [], kinds.map (⟨id, ·⟩), []⟩ := by
  rw [exact_count, reporting, newest_report]

/-- Pressing a button reports one edge or none. -/
theorem toNat_press (buttons : Buttons) (index : Nat) (down : Bool) :
    (!(buttons.press index down).2.isEmpty).toNat = (buttons.press index down).2.length := by
  unfold Buttons.press
  split <;> rfl

/-- A pad that takes input reports what it makes of a call. -/
theorem perform_answered {state after : VirtualPadState} {call : Call} {kinds : List EventKind}
    (accepting : backend.accepting? id = some state) (target : call.target? = some id)
    (answer : answer? state call = some (after, kinds)) :
    backend.perform call = ⟨backend.report id after kinds, [], kinds.map (⟨id, ·⟩), []⟩ := by
  cases call with
  | press other button | release other button =>
    cases target
    obtain ⟨rfl, rfl⟩ := Prod.mk.inj (Option.some.inj answer)
    simp only [perform, press, release, setButton, accepting]
    exact reporting_report _ (toNat_press ..)
  | moveAxis other axis raw =>
    cases target
    simp only [answer?] at answer
    split at answer
    · rename_i layout changes fed
      obtain ⟨rfl, rfl⟩ := Prod.mk.inj (Option.some.inj answer)
      have result : backend.moveAxis id axis raw =
          .ok (backend.report id { state with layout } (changes.map .axis), changes.length) := by
        simp [moveAxis, accepting, fed, bind, Except.bind, pure, Except.pure]
      simp only [perform, result]
      exact reporting_report _ (List.length_map _).symm
    · cases answer
  | setAxis other axis value =>
    cases target
    obtain ⟨rfl, rfl⟩ := Prod.mk.inj (Option.some.inj answer)
    simp only [perform, setAxis, accepting]
    apply reporting_report
    cases (state.layout.setNormalized axis value).2 <;> rfl
  | attach | detach | unplug | detect | process | shutdown => cases answer

/-- A call that names no pad which takes input, or feeds a sample that overflows, does nothing. -/
theorem perform_refused {call : Call} (target : call.target? = some id)
    (stays : call ≠ .unplug id)
    (refused : ∀ state, backend.accepting? id = some state →
      answer? state call = none ∧ call ≠ .detach id) :
    backend.perform call = ⟨backend, [], [], []⟩ := by
  cases accepting : backend.accepting? id with
  | none =>
    cases call with
    | attach | detect | process | shutdown => cases target
    | unplug other =>
      cases target
      exact absurd rfl stays
    | press other button | release other button | setAxis other axis value
    | moveAxis other axis raw | detach other =>
      cases target
      simp [perform, press, release, setButton, setAxis, moveAxis, detach, accepting, reporting,
        newest_zero]
  | some state =>
    obtain ⟨nothing, unclosed⟩ := refused state accepting
    cases call with
    | attach | detect | process | shutdown => cases target
    | unplug other =>
      cases target
      exact absurd rfl stays
    | detach other =>
      cases target
      exact absurd rfl unclosed
    | press other button | release other button | setAxis other axis value => cases nothing
    | moveAxis other axis raw =>
      cases target
      simp only [answer?] at nothing
      split at nothing
      · cases nothing
      · rename_i cause overflows
        have result : backend.moveAxis id axis raw = .error cause := by
          simp [moveAxis, accepting, overflows, bind, Except.bind]
        simp only [perform, result]

/-- What a call that names a device does: nothing, an answer of the pad, its end, or its
unplugging. -/
theorem perform_target (backend : VirtualBackend) {call : Call} (target : call.target? = some id) :
    backend.perform call = ⟨backend, [], [], []⟩ ∨
      (∃ state after kinds, backend.accepting? id = some state ∧
        answer? state call = some (after, kinds) ∧
        backend.perform call = ⟨backend.report id after kinds, [], kinds.map (⟨id, ·⟩), []⟩) ∨
      (∃ state, call = .detach id ∧ backend.accepting? id = some state ∧
        backend.perform call =
          ⟨backend.report id { state with ended := true } [.removed], [], [], []⟩) ∨
      ∃ hub, call = .unplug id ∧ backend.hub.unplug? id = some hub ∧
        backend.perform call = ⟨⟨hub⟩, [], [], []⟩ := by
  by_cases unplugs : call = .unplug id
  · subst unplugs
    cases unplugged : backend.hub.unplug? id with
    | none => exact .inl (by simp [perform, unplug, unplugged])
    | some hub => exact .inr (.inr (.inr ⟨hub, rfl, rfl, by simp [perform, unplug, unplugged]⟩))
  · cases accepting : backend.accepting? id with
    | none => exact .inl (perform_refused target unplugs (by simp [accepting]))
    | some state =>
      by_cases detaches : call = .detach id
      · subst detaches
        exact .inr (.inr (.inl ⟨state, rfl, rfl, by simp [perform, detach, accepting]⟩))
      · cases answer : answer? state call with
        | none =>
          refine .inl (perform_refused target unplugs ?_)
          intro other accepts
          rw [accepting] at accepts
          cases accepts
          exact ⟨answer, detaches⟩
        | some result =>
          obtain ⟨after, kinds⟩ := result
          exact .inr (.inl ⟨state, after, kinds, rfl, answer,
            perform_answered accepting target answer⟩)

theorem not_consumer_of_target {call : Call} (target : call.target? = some id) :
    call ≠ .detect ∧ call ≠ .process ∧ call ≠ .shutdown := by
  refine ⟨?_, ?_, ?_⟩ <;> rintro rfl <;> cases target

/-- Calls that name another device do not concern this one. -/
theorem perform_elsewhere {other : DeviceId} (call : Call) (target : call.target? = some other)
    (differ : other ≠ id) (stands : backend.hub.Stands id standing) :
    ∃ after, Moves id standing call after (heardOf (backend.perform call).notices id)
        (kindsOf (backend.perform call).accepted id) ∧
      (backend.perform call).backend.hub.Stands id after := by
  have quiet := not_consumer_of_target target
  rcases backend.perform_target target with nothing | ⟨_, after, kinds, _, _, answered⟩ |
    ⟨state, _, _, ended⟩ | ⟨hub, _, unplugged, unplugs⟩
  · rw [nothing]
    exact ⟨standing, .stay quiet, stands⟩
  · rw [answered, kindsOf_other id kinds differ]
    exact ⟨standing, .stay quiet, report_other differ stands after kinds⟩
  · rw [ended]
    exact ⟨standing, .stay quiet, report_other differ stands _ _⟩
  · rw [unplugs]
    exact ⟨standing, .stay quiet, stands.unplug?_other differ unplugged⟩

/-- A pad that takes input is that of a live device which has not ended. -/
theorem present_of_accepting {state : VirtualPadState} (stands : backend.hub.Stands id standing)
    (accepting : backend.accepting? id = some state) :
    ∃ entry announced waiting, standing = .present entry announced waiting ∧
      entry.data = state ∧ entry.data.ended = false := by
  rw [accepting?_eq stands] at accepting
  cases standing with
  | absent | unplugged | gone => simp [Standing.live?] at accepting
  | present entry announced waiting =>
    obtain ⟨same, takes⟩ := Option.filter_eq_some_iff.mp accepting
    simp only [Standing.live?, Option.map_some, Option.some.injEq] at same
    exact ⟨entry, announced, waiting, rfl, same, by simpa [same] using takes⟩

/-- What a call that names a device does to it. -/
theorem perform_here (call : Call) (target : call.target? = some id)
    (stands : backend.hub.Stands id standing) :
    ∃ after, Moves id standing call after (heardOf (backend.perform call).notices id)
        (kindsOf (backend.perform call).accepted id) ∧
      (backend.perform call).backend.hub.Stands id after := by
  have quiet := not_consumer_of_target target
  rcases backend.perform_target target with nothing |
    ⟨state, after, kinds, accepting, answer, answered⟩ | ⟨state, rfl, accepting, ended⟩ |
    ⟨hub, rfl, unplugged, unplugs⟩
  · rw [nothing]
    exact ⟨standing, .stay quiet, stands⟩
  · obtain ⟨entry, announced, waiting, rfl, rfl, takes⟩ := present_of_accepting stands accepting
    rw [answered, kindsOf_same]
    exact ⟨_, .feed target takes answer, report_self stands after kinds⟩
  · obtain ⟨entry, announced, waiting, rfl, rfl, takes⟩ := present_of_accepting stands accepting
    rw [ended]
    exact ⟨_, .close takes, report_self stands _ _⟩
  · rw [unplugs]
    cases standing with
    | absent | unplugged | gone => simp [stands.unplug?_none rfl] at unplugged
    | present entry announced waiting =>
      obtain ⟨after, result, -, next⟩ := stands.unplug?_present
      rw [unplugged, Option.some.injEq] at result
      rw [result]
      exact ⟨_, .unplug, next⟩

/-- Where a device stands after a call, and what the call let be heard and accepted of it. -/
theorem perform_moves (stands : backend.hub.Stands id standing) (orderly : standing.orderly)
    (call : Call) :
    ∃ after, Moves id standing call after (heardOf (backend.perform call).notices id)
        (kindsOf (backend.perform call).accepted id) ∧
      (backend.perform call).backend.hub.Stands id after := by
  cases call with
  | attach pad made =>
    by_cases next : backend.hub.registry.nextId = id
    · have absent : standing.isAbsent = true := stands.absent_iff.mpr (Nat.le_of_eq next)
      cases standing with
      | present | unplugged | gone => cases absent
      | absent =>
        refine ⟨_, .join ?_ ?_ rfl, stands.attach_self next _ _⟩
        · exact ⟨by simp [Device.atRest, Device.axisCount],
            by simp [Device.atRest, Device.buttonCount]⟩
        · exact ⟨by simp [Device.atRest, made.values_layout], rfl⟩
    · exact ⟨standing, .stay (by simp), stands.attach_other next _ _⟩
  | press other button | release other button | moveAxis other axis raw | setAxis other axis value
  | detach other | unplug other =>
    by_cases here : other = id
    · subst here
      exact perform_here _ rfl stands
    · exact perform_elsewhere _ rfl here stands
  | detect =>
    obtain ⟨after, heard⟩ := stands.dispatchDevices
    have announced : heardOf (backend.perform .detect).notices id = standing.announcement := heard
    rw [announced]
    exact ⟨_, .detect, after⟩
  | process =>
    obtain ⟨after, heard⟩ := stands.dispatchAnnounced orderly
    have delivered : heardOf (backend.perform .process).notices id = standing.delivery := heard
    rw [delivered]
    exact ⟨_, .process, after⟩
  | shutdown => exact ⟨_, .shutdown, stands.clear⟩

end GamepadInput.VirtualBackend
