import GamepadInput.Proofs.Input.Run

/-!
# The two observers of an input

Callbacks and the frame are two listeners behind one fan-out.  A host with a callback for every kind
can keep a diary: what its callbacks are called with, and its own flushes and shutdowns.  Another
frame that goes by the diary shows the same gamepads (`replay_diary`).

The frame hears more than the diary tells, as the host passes it its own events; these leave the
slots alone (`SamePads.of_handle`).
-/

namespace GamepadInput

/-! ## Frames with the same gamepads -/

namespace Frame

/-- Two frames hold the same in each of their slots. -/
structure SamePads (frame other : Frame) : Prop where
  capacity_eq : frame.capacity = other.capacity
  slot?_eq : ∀ index, frame.slot? index = other.slot? index

namespace SamePads

variable {frame other : Frame}

theorem refl (frame : Frame) : frame.SamePads frame := ⟨rfl, fun _ => rfl⟩

theorem slots_eq (same : frame.SamePads other) : frame.slots.toList = other.slots.toList := by
  apply List.ext_getElem?
  intro index
  have found : frame.slots[index]? = other.slots[index]? := same.slot?_eq index
  simpa only [Vector.getElem?_toList] using found

/-- What a call does to a slot depends on the slot only. -/
theorem perform (same : frame.SamePads other) (call : Call) :
    (frame.perform call).SamePads (other.perform call) where
  capacity_eq := by simpa using same.capacity_eq
  slot?_eq index := by
    rw [slot?_perform, slot?_perform, same.slot?_eq index, same.capacity_eq]

theorem run (same : frame.SamePads other) (calls : List Call) :
    (frame.run calls).SamePads (other.run calls) := by
  induction calls generalizing frame other with
  | nil => exact same
  | cons call calls ih => exact ih (same.perform call)

/-- Keys and the mouse are not gamepads. -/
theorem of_handle (same : frame.SamePads other) (event : HostEvent) :
    (frame.handle event).SamePads other := ⟨same.capacity_eq, same.slot?_eq⟩

end SamePads

/-- Asking for the slots that a frame has gives such a frame. -/
theorem atRest_capacity (slots : Nat) : atRest (atRest slots).capacity = atRest slots := by
  have enough : max (max slots 1) 1 = max slots 1 := by omega
  have settled (capacity : Nat) (positive : 0 < capacity) (same : capacity = max slots 1) :
      (⟨.atRest, .atRest, capacity, positive, .replicate _ none⟩ : Frame) = atRest slots := by
    subst same
    rfl
  exact settled _ _ enough

end Frame

/-! ## Callbacks of every kind -/

namespace Callbacks

variable {τ : Type} {callbacks : Callbacks τ}

/-- With a callback of each kind, each notice is told once, in its turn. -/
theorem map_called (registered : ∀ kind, (callbacks.get? kind).isSome) (notices : List Notice) :
    (callbacks.called notices).map (·.2) = notices := by
  induction notices with
  | nil => rfl
  | cons notice notices ih =>
    obtain ⟨callback, there⟩ := Option.isSome_iff_exists.mp (registered notice.kind.noticeKind)
    have told : Called.to (callbacks.get? notice.kind.noticeKind) notice = [(callback, notice)] := by
      rw [there]
      rfl
    rw [called, List.flatMap_cons, told, List.singleton_append, List.map_cons]
    exact congrArg _ ih

/-- A callback is called with what it is registered for. -/
theorem get?_of_mem_called {callback : τ} {notice : Notice} {notices : List Notice}
    (told : (callback, notice) ∈ callbacks.called notices) :
    callbacks.get? notice.kind.noticeKind = some callback := by
  obtain ⟨heard, -, reached⟩ := List.mem_flatMap.mp told
  rw [Called.to, Option.mem_toList, Option.map_eq_some_iff] at reached
  obtain ⟨other, there, same⟩ := reached
  cases same
  exact there

end Callbacks

/-! ## The diary -/

/-- What a host writes down. -/
inductive DiaryLine (τ : Type) where
  /-- The callback was called. -/
  | heard (callback : τ) (notice : Notice)
  /-- A flush began. -/
  | flush
  | shutdown
  deriving DecidableEq, Repr

/-- A callback that was called is the one that is registered for what it heard. -/
def DiaryLine.Fits {τ : Type} (callbacks : Callbacks τ) : DiaryLine τ → Prop
  | .heard callback notice => callbacks.get? notice.kind.noticeKind = some callback
  | .flush | .shutdown => True

namespace Frame

variable {τ : Type}

/-- Does what a line tells of. -/
def follow (frame : Frame) : DiaryLine τ → Frame
  | .heard _ notice => frame.hear notice
  | .flush => frame.flush
  | .shutdown => (List.range frame.capacity).foldl disconnect frame

/-- Goes by a diary, line after line. -/
def replay (frame : Frame) (lines : List (DiaryLine τ)) : Frame := lines.foldl follow frame

theorem replay_append (frame : Frame) (first second : List (DiaryLine τ)) :
    frame.replay (first ++ second) = (frame.replay first).replay second :=
  List.foldl_append

theorem replay_heard (frame : Frame) (heard : List (τ × Notice)) :
    frame.replay (heard.map fun call => .heard call.1 call.2) =
      frame.hearAll (heard.map (·.2)) := by
  rw [replay, hearAll, List.foldl_map, List.foldl_map]
  rfl

theorem replay_shutdown (frame : Frame) :
    frame.replay [(.shutdown : DiaryLine τ)] =
      frame.run ((List.range frame.capacity).map .disconnect) := by
  rw [run, List.foldl_map]
  rfl

@[simp] theorem capacity_follow (frame : Frame) (line : DiaryLine τ) :
    (frame.follow line).capacity = frame.capacity := by
  cases line with
  | heard | flush => rfl
  | shutdown =>
    have emptied := replay_shutdown (τ := τ) frame
    rw [replay, List.foldl_cons, List.foldl_nil] at emptied
    rw [emptied, capacity_run]

@[simp] theorem capacity_replay (frame : Frame) (lines : List (DiaryLine τ)) :
    (frame.replay lines).capacity = frame.capacity := by
  induction lines generalizing frame with
  | nil => rfl
  | cons line lines ih => exact (ih (frame.follow line)).trans (capacity_follow frame line)

end Frame

namespace Input

variable {τ : Type}

/-- A call of a host that keeps a diary. -/
inductive HostCall where
  /-- A call on the input. -/
  | ask (call : Call)
  /-- A call on its backend alone.  What this delivers goes to a listener of the host's choice, past
  the callbacks and the frame. -/
  | aside (call : VirtualBackend.Call)

/-- What is written of a call before its callbacks are called. -/
def Call.mark? : Call → Option (DiaryLine τ)
  | flush => some .flush
  | shutdown => some .shutdown
  | play .. | handle _ | start => none

/-- What is written of a call in which these callbacks were called. -/
def Call.lines (called : Called τ) (call : Call) : List (DiaryLine τ) :=
  call.mark?.toList ++ called.map fun told => .heard told.1 told.2

theorem Call.lines_fit (callbacks : Callbacks τ) (notices : List Notice) (call : Call) :
    ∀ line ∈ call.lines (callbacks.called notices), line.Fits callbacks := by
  intro line member
  rcases List.mem_append.mp member with mark | heard
  · cases call with
    | play | handle | start => cases mark
    | flush | shutdown =>
      cases List.mem_singleton.mp mark
      trivial
  · obtain ⟨⟨callback, notice⟩, told, rfl⟩ := List.mem_map.mp heard
    exact Callbacks.get?_of_mem_called told

/-- An input with its callbacks that has not started. -/
def withCallbacks (backend : VirtualBackend) (callbacks : Callbacks τ) (slots : Nat) :
    Input VirtualBackend τ :=
  ⟨⟨backend, callbacks, false, false⟩, .atRest slots⟩

/-- One call, and what is written of it. -/
def performWritten (input : Input VirtualBackend τ) :
    HostCall → Except StartError (Input VirtualBackend τ × List (DiaryLine τ))
  | .ask call => do
    let effect ← input.perform call
    pure (effect.input, call.lines effect.called)
  | .aside call =>
    let backend := (input.pads.backend.perform call).backend
    .ok ({ input with pads := { input.pads with backend } }, [])

/-- Calls in order, and the diary of them. -/
def runWritten (input : Input VirtualBackend τ) :
    List HostCall → Except StartError (Input VirtualBackend τ × List (DiaryLine τ))
  | [] => .ok (input, [])
  | call :: rest => do
    let (there, lines) ← input.performWritten call
    let (after, others) ← there.runWritten rest
    pure (after, lines ++ others)

section Following

variable {frame : Frame}

/-- What a call tells a frame, its lines tell any frame with the same gamepads. -/
theorem samePads_lines {other : Frame} (same : frame.SamePads other) {callbacks : Callbacks τ}
    (registered : ∀ kind, (callbacks.get? kind).isSome) (notices : List Notice) (call : Call) :
    (frame.run (call.tells frame.capacity notices)).SamePads
      (other.replay (call.lines (callbacks.called notices))) := by
  have marked : (frame.run (call.own frame.capacity)).SamePads
      (other.replay (call.mark? (τ := τ)).toList) := by
    cases call with
    | play | start => exact same
    | handle event => exact same.of_handle event
    | flush => exact same.perform .flush
    | shutdown =>
      rw [Call.own, Call.mark?, Option.toList_some, Frame.replay_shutdown, ← same.capacity_eq]
      exact same.run _
  rw [Call.tells, Call.lines, Frame.run_append, Frame.replay_append, Frame.replay_heard,
    Callbacks.map_called registered, ← Frame.run_hear]
  exact marked.run _

variable {input : Input VirtualBackend τ} (same : input.frame.SamePads frame)
  (registered : ∀ kind, (input.pads.callbacks.get? kind).isSome)
  (idle : input.pads.inFlight = false)
include same registered idle

/-- A frame that shows the gamepads before a call shows them after it, by its lines. -/
theorem performWritten_follows (call : HostCall) :
    ∃ after lines, input.performWritten call = .ok (after, lines) ∧
      after.pads.callbacks = input.pads.callbacks ∧ after.pads.inFlight = false ∧
      (∀ line ∈ lines, line.Fits input.pads.callbacks) ∧
      after.frame.SamePads (frame.replay lines) := by
  cases call with
  | aside call => exact ⟨_, [], rfl, rfl, idle, by simp, same⟩
  | ask call =>
    obtain ⟨effect, performed, does⟩ := perform_splits idle call
    refine ⟨effect.input, call.lines effect.called, ?_, does.callbacks_eq, does.idle, ?_, ?_⟩
    · rw [performWritten, performed]
      rfl
    · rw [does.called_eq]
      exact call.lines_fit input.pads.callbacks _
    · rw [does.frame_eq, does.called_eq]
      exact samePads_lines same registered _ call

/-- A frame that shows the gamepads at the start of a run shows them at its end, by the diary. -/
theorem runWritten_follows (calls : List HostCall) :
    ∃ after lines, input.runWritten calls = .ok (after, lines) ∧
      (∀ line ∈ lines, line.Fits input.pads.callbacks) ∧
      after.frame.SamePads (frame.replay lines) := by
  induction calls generalizing input frame with
  | nil => exact ⟨input, [], rfl, by simp, same⟩
  | cons call calls ih =>
    obtain ⟨there, lines, written, kept, free, fit, shows⟩ :=
      performWritten_follows same registered idle call
    obtain ⟨after, others, ran, rest, ends⟩ := ih shows (by rwa [kept]) free
    rw [kept] at rest
    refine ⟨after, lines ++ others, ?_, List.forall_mem_append.mpr ⟨fit, rest⟩, ?_⟩
    · simp only [runWritten, written, ran, bind, Except.bind, pure, Except.pure]
    · rw [Frame.replay_append]
      exact ends

end Following

/-- With a callback of every kind, each called with what it is registered for, the diary of any run
brings a fresh frame of the same capacity to the slots of the input's own. -/
theorem replay_diary (backend : VirtualBackend) {callbacks : Callbacks τ}
    (registered : ∀ kind, (callbacks.get? kind).isSome) (slots : Nat) (calls : List HostCall) :
    ∃ after diary,
      (withCallbacks backend callbacks slots).runWritten calls = .ok (after, diary) ∧
        (∀ line ∈ diary, line.Fits callbacks) ∧
        ((Frame.atRest after.frame.capacity).replay diary).slots.toList =
          after.frame.slots.toList := by
  have start : (withCallbacks backend callbacks slots).frame.SamePads (.atRest slots) := .refl _
  obtain ⟨after, diary, written, fit, shows⟩ := runWritten_follows start registered rfl calls
  have capacity : after.frame.capacity = (Frame.atRest slots).capacity := by
    rw [shows.capacity_eq, Frame.capacity_replay]
  have fresh : Frame.atRest after.frame.capacity = Frame.atRest slots := by
    rw [capacity, Frame.atRest_capacity]
  refine ⟨after, diary, written, fit, ?_⟩
  rw [fresh]
  exact shows.slots_eq.symm

/-- Two pads are there at the start and one is played.  A third one is announced past both
observers, so that it never has a slot; a fourth one comes after a shutdown, and is alone. -/
theorem replay_diary_restarted :
    let pad : HostCall :=
      .ask (.play (.attach ((VirtualPad.named "Pad").buttons 1) (.buttons 1 (.named "Pad"))) rfl)
    let calls := [pad, pad, .ask .start, .ask (.play (.press 0 0) rfl), .ask .flush, pad,
      .aside .detect, .ask .flush, .ask .shutdown, pad, .ask .flush]
    let callbacks : Callbacks NoticeKind :=
      ⟨some .attach, some .remove, some .buttonDown, some .buttonUp, some .axisMove⟩
    (∀ kind, (callbacks.get? kind).isSome) ∧
      ∃ after diary, (withCallbacks .empty callbacks 2).runWritten calls = .ok (after, diary) ∧
        (∀ line ∈ diary, line.Fits callbacks) ∧
        ((Frame.atRest after.frame.capacity).replay diary).slots.toList =
          after.frame.slots.toList ∧
        after.frame.slots.toList.map (·.map (·.device)) = [none, some 3] := by
  intro pad calls callbacks
  have registered (kind : NoticeKind) : (callbacks.get? kind).isSome := by
    cases kind <;> rfl
  obtain ⟨after, diary, ran, fit, same⟩ := replay_diary .empty registered 2 calls
  have ends : ((withCallbacks .empty callbacks 2).runWritten calls).map
      (fun written => written.1.frame.slots.toList.map (·.map (·.device))) = .ok [none, some 3] := by
    decide +kernel
  rw [ran] at ends
  exact ⟨registered, after, diary, ran, fit, same, Except.ok.inj ends⟩

/-- The diary of a pad that is there at the start, pressed and taken away. -/
example :
    let pad : HostCall :=
      .ask (.play (.attach ((VirtualPad.named "Pad").buttons 1) (.buttons 1 (.named "Pad"))) rfl)
    let calls := [pad, .ask .start, .ask (.play (.press 0 0) rfl), .ask .flush,
      .ask (.play (.unplug 0) rfl), .ask .flush, .ask .shutdown]
    ((withCallbacks .empty (.all ()) 2).runWritten calls).map (fun written =>
      written.2.map fun
        | .heard _ notice => some (notice.device.button 0, notice.kind)
        | .flush | .shutdown => none) =
      .ok [some (false, .attached), none, some (true, .button 0 true), none,
        some (true, .removed), none] := by
  decide +kernel

end Input

end GamepadInput
