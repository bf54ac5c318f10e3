import GamepadInput.Proofs.Input.Delivery

/-!
# What a flush shows

After a flush the slots show the input that was accepted since the flush before, and edges by what
they showed then.
-/

namespace GamepadInput

/-- The last state that accepted input brought a button of a device to. -/
def lastEdge? (accepted : List Event) (device : DeviceId) (button : Nat) : Option Bool :=
  ((kindsOf accepted device).filterMap (EventKind.edge? button)).getLast?

/-- The last value that accepted input brought an axis of a device to. -/
def lastMove? (accepted : List Event) (device : DeviceId) (axis : Nat) : Option Binary32 :=
  ((kindsOf accepted device).filterMap (EventKind.move? axis)).getLast?

namespace Frame

/-- The device holds the slot, and the button is down in it. -/
def showsDown (frame : Frame) (index : Nat) (device : DeviceId) (button : Nat) : Bool :=
  (frame.occupant? index).any (·.device = device) && frame.isPadButtonDown index button

theorem showsDown_run (slots : Nat) (told : List Call) (index : Nat) (device : DeviceId)
    (button : Nat) :
    ((atRest slots).run told).showsDown index device button =
      (tenure? (max slots 1) index told).any fun tenure =>
        tenure.device.id = device && (button < tenure.device.buttonCount && tenure.isDown button) := by
  rw [showsDown, isPadButtonDown, occupant?_run, padButton?_run]
  cases tenure? (max slots 1) index told with
  | none => rfl
  | some tenure =>
    by_cases inside : button < tenure.device.buttonCount <;> simp [Tenure.occupant, inside]

/-! ## What notices say of one device -/

theorem edge?_hear (notice : Notice) (device : DeviceId) (button : Nat) :
    (Call.hear notice).edge? device button =
      if notice.device.id = device then notice.kind.edge? button else none := by
  obtain ⟨other, kind⟩ := notice
  cases kind with
  | button index down => by_cases mine : other.id = device <;> simp [Call.edge?, EventKind.edge?, mine]
  | attached | removed | axis => simp [Call.edge?, EventKind.edge?]

theorem move?_hear (notice : Notice) (device : DeviceId) (axis : Nat) :
    (Call.hear notice).move? device axis =
      if notice.device.id = device then notice.kind.move? axis else none := by
  obtain ⟨other, kind⟩ := notice
  cases kind with
  | axis change => by_cases mine : other.id = device <;> simp [Call.move?, EventKind.move?, mine]
  | attached | removed | button => simp [Call.move?, EventKind.move?]

/-- What is picked of the notices of a device is picked of its input. -/
private theorem filterMap_heard {α : Type} {pick : Call → Option α} {part : EventKind → Option α}
    {device : DeviceId}
    (hears : ∀ notice : Notice, pick (.hear notice) =
      if notice.device.id = device then part notice.kind else none)
    (lifeless : ∀ kind, kind.isInput = false → part kind = none) (notices : List Notice) :
    (notices.map .hear).filterMap pick =
      (VirtualBackend.inputsOf (heardOf notices device)).filterMap part := by
  have inputs (kinds : List EventKind) :
      (kinds.filter (·.isInput)).filterMap part = kinds.filterMap part := by
    rw [List.filterMap_filter]
    congr 1
    funext kind
    cases input : kind.isInput <;> simp [input, lifeless]
  rw [VirtualBackend.inputsOf, inputs, heardOf, List.filterMap_map, List.filterMap_map,
    List.filterMap_filter]
  congr 1
  funext notice
  by_cases mine : notice.device.id = device <;> simp [hears, mine]

theorem last?_edge?_hear (notices : List Notice) (device : DeviceId) (button : Nat) :
    last? (Call.edge? device button) (notices.map .hear) =
      ((VirtualBackend.inputsOf (heardOf notices device)).filterMap
        (EventKind.edge? button)).getLast? := by
  rw [last?, filterMap_heard (fun notice => edge?_hear notice device button)]
  intro kind lifeless
  cases kind with
  | button | axis => cases lifeless
  | attached | removed => rfl

theorem last?_move?_hear (notices : List Notice) (device : DeviceId) (axis : Nat) :
    last? (Call.move? device axis) (notices.map .hear) =
      ((VirtualBackend.inputsOf (heardOf notices device)).filterMap
        (EventKind.move? axis)).getLast? := by
  rw [last?, filterMap_heard (fun notice => move?_hear notice device axis)]
  intro kind lifeless
  cases kind with
  | button | axis => cases lifeless
  | attached | removed => rfl

end Frame

namespace VirtualBackend

variable {id : DeviceId} {standing : Standing VirtualPadState} {asked : List Call}

/-- The attach of a pad in view was heard. -/
theorem Reaches.heard_ne_nil (reaches : Reaches asked id standing)
    (shown : standing.isShown = true) : heardOf (empty.run asked).notices id ≠ [] := by
  have course := reaches.course
  generalize heardOf (empty.run asked).notices id = heard at course
  generalize (empty.run asked).acceptedInput id = accepted at course
  cases course with
  | absent | silent | dropped | left => cases shown
  | unplugged => simp [Device.hears]
  | @present start state announced =>
    have known : announced = true := shown
    simp [known, Device.hears]

end VirtualBackend

namespace Input

variable {τ : Type}

section Holder

variable {slots index : Nat} {input next : Input VirtualBackend τ}
  {asked asks : List VirtualBackend.Call} {told tells : List Frame.Call} {tenure : Frame.Tenure}

/-- A device that was not heard of yet is not shown. -/
theorem Reaches.showsDown_unheard (reaches : Reaches slots input asked told) {device : DeviceId}
    (unheard : heardOf (VirtualBackend.empty.run asked).notices device = []) (button : Nat) :
    input.frame.showsDown index device button = false := by
  rw [reaches.frame_eq, Frame.showsDown_run]
  cases held : Frame.tenure? (max slots 1) index told with
  | none => rfl
  | some other =>
    obtain ⟨standing, there, shown⟩ := reaches.shown index other held
    have differ : other.device.id ≠ device := by
      rintro rfl
      exact there.heard_ne_nil shown unheard
    simp [differ]

/-- What the notices of a flush say of a holder is what was accepted for it since the flush
before, and where it held the slot then it shows the edges. -/
theorem Reaches.holder_shows (reaches : Reaches slots input asked told)
    (rested : ∀ id, ∃ standing, VirtualBackend.Reaches asked id standing ∧
      standing.isDrained = true)
    (elsewhere : .process ∉ asks) (quiet : ∀ said ∈ tells, said.isQuiet = true)
    (heard : ∀ notice, .hear notice ∈ tells →
      notice ∈ ((VirtualBackend.empty.run asked).backend.run asks).notices)
    {notices : List Notice}
    (delivered : ((VirtualBackend.empty.run (asked ++ asks)).backend.run
      [.detect, .process]).notices = notices)
    (onward : Reaches slots next (asked ++ asks ++ [.detect, .process])
      (told ++ tells ++ .flush :: notices.map .hear))
    (held : Frame.tenure? (max slots 1) index (told ++ tells ++ .flush :: notices.map .hear) =
      some tenure) :
    (∃ shown : List Notice, tenure.now = shown.map .hear ∧
      VirtualBackend.inputsOf (heardOf shown tenure.device.id) =
        kindsOf ((VirtualBackend.empty.run asked).backend.run asks).accepted tenure.device.id) ∧
      ∀ button < tenure.device.buttonCount,
        tenure.wasDown button = input.frame.showsDown index tenure.device.id button := by
  obtain ⟨previous, before, drained⟩ := rested tenure.device.id
  obtain ⟨standing, there, shown⟩ := onward.shown index tenure held
  have inputs := VirtualBackend.inputsOf_flush before drained elsewhere there shown
  rw [delivered] at inputs
  cases Frame.holding_of_tenure? quiet held with
  | stayed earlier held now was =>
    refine ⟨⟨notices, now, inputs⟩, fun button inside => ?_⟩
    rw [was, reaches.frame_eq, Frame.showsDown_run, held]
    simp [inside]
  | joined attached now was =>
    obtain ⟨ahead, after, split⟩ := List.append_of_mem (heard _ attached)
    have unheard := (VirtualBackend.unheard_until_attach split).1
    exact ⟨⟨notices, now, inputs⟩, fun button _ =>
      (was button).trans (reaches.showsDown_unheard unheard button).symm⟩
  | arrived ahead after attached now was =>
    obtain ⟨unheard, nothing⟩ :=
      VirtualBackend.unheard_until_attach (delivered.trans attached)
    rw [VirtualBackend.run_append, heardOf_append, List.append_eq_nil_iff] at unheard
    have attach : VirtualBackend.inputsOf
        (heardOf (⟨tenure.device, .attached⟩ :: after) tenure.device.id) =
        VirtualBackend.inputsOf (heardOf after tenure.device.id) := by
      simp [heardOf, VirtualBackend.inputsOf, EventKind.isInput]
    rw [attached, heardOf_append, nothing, List.nil_append, attach] at inputs
    exact ⟨⟨after, now, inputs⟩, fun button _ =>
      (was button).trans (reaches.showsDown_unheard unheard.1 button).symm⟩

end Holder

/-- A frame shows the input that was accepted since the frame `previous`. -/
structure ShowsAccepted (previous next : Frame) (accepted : List Event) : Prop where
  isPadButtonDown_iff : ∀ index occupant button, next.occupant? index = some occupant →
    button < occupant.buttonCount →
    (next.isPadButtonDown index button = true ↔
      lastEdge? accepted occupant.device button = some true)
  wasPadButtonPressed_iff : ∀ index occupant button, next.occupant? index = some occupant →
    button < occupant.buttonCount →
    (next.wasPadButtonPressed index button = true ↔
      lastEdge? accepted occupant.device button = some true ∧
        previous.showsDown index occupant.device button = false)
  wasPadButtonReleased_iff : ∀ index occupant button, next.occupant? index = some occupant →
    button < occupant.buttonCount →
    (next.wasPadButtonReleased index button = true ↔
      next.isPadButtonDown index button = false ∧
        previous.showsDown index occupant.device button = true)
  padAxis_eq : ∀ index occupant axis, next.occupant? index = some occupant → axis < trackedAxes →
    next.padAxis index axis = (lastMove? accepted occupant.device axis).getD 0

/-- A frame whose holders show what was accepted for them. -/
theorem showsAccepted_run {slots : Nat} {told : List Frame.Call} {previous : Frame}
    {accepted : List Event}
    (holder : ∀ index tenure, Frame.tenure? (max slots 1) index told = some tenure →
      (∃ shown : List Notice, tenure.now = shown.map .hear ∧
        VirtualBackend.inputsOf (heardOf shown tenure.device.id) =
          kindsOf accepted tenure.device.id) ∧
      ∀ button < tenure.device.buttonCount,
        tenure.wasDown button = previous.showsDown index tenure.device.id button) :
    ShowsAccepted previous ((Frame.atRest slots).run told) accepted := by
  have holds {index : Nat} {occupant : Occupant}
      (found : ((Frame.atRest slots).run told).occupant? index = some occupant) :
      ∃ tenure, Frame.tenure? (max slots 1) index told = some tenure ∧
        tenure.device.id = occupant.device ∧ tenure.device.buttonCount = occupant.buttonCount := by
    rw [Frame.occupant?_run, Option.map_eq_some_iff] at found
    obtain ⟨tenure, held, rfl⟩ := found
    exact ⟨tenure, held, rfl, tenure.buttonCount_occupant.symm⟩
  have down {index : Nat} {tenure : Frame.Tenure} {button : Nat}
      (held : Frame.tenure? (max slots 1) index told = some tenure)
      (inside : button < tenure.device.buttonCount) :
      ((Frame.atRest slots).run told).padButton? index button =
          some (tenure.isDown button, previous.showsDown index tenure.device.id button) ∧
        (tenure.isDown button = true ↔
          lastEdge? accepted tenure.device.id button = some true) := by
    obtain ⟨⟨shown, now, inputs⟩, was⟩ := holder index tenure held
    constructor
    · rw [Frame.padButton?_run, held, Option.bind_some, if_pos inside, was button inside]
    · rw [Frame.Tenure.isDown, Frame.Tenure.buttonAfter, now, Frame.last?_edge?_hear, inputs,
        lastEdge?]
      cases ((kindsOf accepted tenure.device.id).filterMap (EventKind.edge? button)).getLast? <;>
        simp
  constructor
  · intro index occupant button found inside
    obtain ⟨tenure, held, device, count⟩ := holds found
    rw [← count] at inside
    obtain ⟨read, edge⟩ := down held inside
    simpa [Frame.isPadButtonDown, read, ← device] using edge
  · intro index occupant button found inside
    obtain ⟨tenure, held, device, count⟩ := holds found
    rw [← count] at inside
    obtain ⟨read, edge⟩ := down held inside
    simp [Frame.wasPadButtonPressed, read, ← device, edge]
  · intro index occupant button found inside
    obtain ⟨tenure, held, device, count⟩ := holds found
    rw [← count] at inside
    obtain ⟨read, -⟩ := down held inside
    simp [Frame.wasPadButtonReleased, Frame.isPadButtonDown, read, ← device]
  · intro index occupant axis found inside
    obtain ⟨tenure, held, device, -⟩ := holds found
    obtain ⟨⟨shown, now, inputs⟩, -⟩ := holder index tenure held
    rw [Frame.padAxis, Frame.padAxis?_run, held, Option.bind_some, if_pos inside, Option.elim_some,
      Frame.Tenure.axis, Frame.Tenure.axisAfter, now, Frame.last?_move?_hear, inputs, ← device,
      lastMove?]

/-- Once flushed, nothing waits, and the slots show what was accepted since the flush before, or
since the start. -/
theorem flush_shows (slots : Nat) (before since : List Call)
    (framed : before = [] ∨ ∃ earlier, before = earlier ++ [.flush]) (goes : .flush ∉ since) :
    ∃ previous next : Effect τ, (ofBackend .empty slots).run before = .ok previous ∧
      previous.input.run (since ++ [.flush]) = .ok next ∧
      next.input.pads.backend.pending = 0 ∧
      ShowsAccepted previous.input.frame next.input.frame next.accepted := by
  obtain ⟨previous, asked, told, ran, reaches, rested⟩ := exists_rested (τ := τ) slots framed
  obtain ⟨middle, asks, tells, onward, accepted, there, heard, silent⟩ := reaches.run since
  obtain ⟨elsewhere, quiet⟩ := silent goes
  obtain ⟨last, flushed, -, nothing, after⟩ := there.perform .flush
  rw [Call.asks, Call.tells, Call.own, List.singleton_append, there.backend_eq] at after
  rw [reaches.backend_eq] at heard accepted
  have none_taken : last.accepted = [] := nothing
  have ended : last.input.run [] = .ok ⟨last.input, [], [], []⟩ := rfl
  have whole : previous.input.run (since ++ [.flush]) =
      .ok ⟨last.input, middle.called ++ last.called, middle.notices ++ last.notices,
        middle.accepted⟩ := by
    simpa [none_taken] using run_append onward (run_cons flushed ended)
  refine ⟨previous, _, ran, whole, ?_, ?_⟩
  · rw [after.backend_eq, VirtualBackend.run_append]
    exact VirtualBackend.pending_flushed _
  · rw [after.frame_eq, accepted]
    exact showsAccepted_run fun index tenure held =>
      reaches.holder_shows rested elsewhere quiet heard rfl after held

/-- A button that shows as pressed in one frame, and is let go in the next: the pad is in its slot,
and the slot shows the release. -/
theorem flush_shows_letGo :
    let pad : Call :=
      .play (.attach ((VirtualPad.named "Pad").buttons 1) (.buttons 1 (.named "Pad"))) rfl
    let before := [pad, .start, .play (.press 0 0) rfl, .flush]
    let since := [Call.play (.release 0 0) rfl]
    (before = [] ∨ ∃ earlier, before = earlier ++ [.flush]) ∧ .flush ∉ since ∧
      ∃ previous next : Effect Unit, (ofBackend .empty 4).run before = .ok previous ∧
        previous.input.run (since ++ [.flush]) = .ok next ∧
        next.input.pads.backend.pending = 0 ∧
        ShowsAccepted previous.input.frame next.input.frame next.accepted ∧
        next.accepted = [⟨0, .button 0 false⟩] ∧
        (next.input.frame.occupant? 0).map (·.device) = some 0 ∧
        previous.input.frame.showsDown 0 0 0 = true ∧
        next.input.frame.isPadButtonDown 0 0 = false ∧
        next.input.frame.wasPadButtonReleased 0 0 = true := by
  intro pad before since
  have framed : before = [] ∨ ∃ earlier, before = earlier ++ [.flush] :=
    .inr ⟨[pad, .start, .play (.press 0 0) rfl], rfl⟩
  have goes : .flush ∉ since := by simp [since]
  obtain ⟨previous, next, ran, onward, drained, shows⟩ := flush_shows 4 before since framed goes
  have ends : ((ofBackend .empty 4 : Input _ Unit).run before).bind (fun previous =>
      (previous.input.run (since ++ [.flush])).map fun next =>
        (next.accepted, (next.input.frame.occupant? 0).map (·.device),
          previous.input.frame.showsDown 0 0 0, next.input.frame.isPadButtonDown 0 0,
          next.input.frame.wasPadButtonReleased 0 0)) =
      .ok ([⟨0, .button 0 false⟩], some 0, true, false, true) := by
    decide +kernel
  rw [ran, Except.bind, onward, Except.map, Except.ok.injEq] at ends
  simp only [Prod.mk.injEq] at ends
  exact ⟨framed, goes, previous, next, ran, onward, drained, shows, ends⟩

/-- The release shows in the frame after the press, and another pad comes meanwhile. -/
example :
    let pad : Call :=
      .play (.attach ((VirtualPad.named "Pad").buttons 1) (.buttons 1 (.named "Pad"))) rfl
    let calls := [pad, .start, .play (.press 0 0) rfl, .flush, .play (.release 0 0) rfl, pad,
      .flush]
    ((ofBackend .empty 2 : Input _ Unit).run calls).map
      (fun effect => effect.input.frame.wasPadButtonReleased 0 0) = .ok true := by
  decide +kernel

end Input

end GamepadInput
