import GamepadInput.Input
import GamepadInput.Proofs.Frame.History
import GamepadInput.Proofs.Virtual.Course

/-!
# Runs of a frame-based input

The host plays pads, passes its own events in, and starts, flushes and shuts down.  Every call asks
the backend something, and tells the callbacks and the frame what comes of it (`perform_splits`), so
a run is one of the backend beside one of each of its two observers.
-/

namespace GamepadInput

/-- A call that queues and delivers nothing. -/
def VirtualBackend.Call.plays : VirtualBackend.Call → Bool
  | .attach .. | .press .. | .release .. | .moveAxis .. | .setAxis .. | .detach _ | .unplug _ => true
  | .detect | .process | .shutdown => false

/-- Pads that are played say nothing by themselves. -/
theorem VirtualBackend.notices_perform_of_plays (backend : VirtualBackend)
    {call : VirtualBackend.Call} (plays : call.plays = true) :
    (backend.perform call).notices = [] := by
  cases call with
  | moveAxis id axis raw =>
    simp only [perform]
    split <;> rfl
  | attach | press | release | setAxis | detach | unplug => rfl
  | detect | process | shutdown => cases plays

namespace Input

variable {τ : Type}

inductive Call where
  /-- The host plays a pad. -/
  | play (call : VirtualBackend.Call) (plays : call.plays = true)
  | handle (event : HostEvent)
  | start
  | flush
  | shutdown

/-- What a call asks the backend. -/
def Call.asks (initialized : Bool) : Call → List VirtualBackend.Call
  | play call _ => [call]
  | handle _ => []
  | start => if initialized then [] else [.detect]
  | flush => [.detect, .process]
  | shutdown => [.shutdown]

/-- What calls did. -/
structure Effect (τ : Type) where
  input : Input VirtualBackend τ
  /-- The callbacks that were called. -/
  called : Called τ
  /-- What the backend delivers, asked what the calls ask it. -/
  notices : List Notice
  /-- The input that the backend reported as queued. -/
  accepted : List Event

/-- One call. -/
def perform (input : Input VirtualBackend τ) (call : Call) : Except StartError (Effect τ) := do
  let done := input.pads.backend.run (call.asks input.pads.initialized)
  let (input, called) ← match call with
    | .play call _ =>
      let backend := (input.pads.backend.perform call).backend
      pure ({ input with pads := { input.pads with backend } }, [])
    | .handle event => pure (input.handle event, [])
    | .start => input.start
    | .flush => input.flush.mapError .overflow
    | .shutdown => pure (input.shutdown, [])
  pure ⟨input, called, done.notices, done.accepted⟩

/-- Calls in order. -/
def run (input : Input VirtualBackend τ) : List Call → Except StartError (Effect τ)
  | [] => .ok ⟨input, [], [], []⟩
  | call :: rest => do
    let first ← input.perform call
    let others ← first.input.run rest
    pure ⟨others.input, first.called ++ others.called, first.notices ++ others.notices,
      first.accepted ++ others.accepted⟩

section Results

variable {input : Input VirtualBackend τ} {call : Call} {calls first second : List Call}
  {there next : Effect τ}

theorem run_cons (performed : input.perform call = .ok there)
    (ran : there.input.run calls = .ok next) :
    input.run (call :: calls) =
      .ok ⟨next.input, there.called ++ next.called, there.notices ++ next.notices,
        there.accepted ++ next.accepted⟩ := by
  simp only [run, performed, ran, bind, Except.bind, pure, Except.pure]

/-- Running on after a run. -/
theorem run_append (ran : input.run first = .ok there)
    (onward : there.input.run second = .ok next) :
    input.run (first ++ second) =
      .ok ⟨next.input, there.called ++ next.called, there.notices ++ next.notices,
        there.accepted ++ next.accepted⟩ := by
  induction first generalizing input there with
  | nil =>
    cases ran
    exact onward
  | cons call calls ih =>
    cases performed : input.perform call with
    | error cause => simp [run, performed, bind, Except.bind] at ran
    | ok done =>
      cases rest : done.input.run calls with
      | error cause => simp [run, performed, rest, bind, Except.bind] at ran
      | ok others =>
        rw [run_cons performed rest, Except.ok.injEq] at ran
        subst ran
        have whole := run_cons performed (ih rest onward)
        simpa only [List.cons_append, List.append_assoc] using whole

end Results

/-! ## What a call comes to -/

/-- What a call tells a frame of `capacity` slots by itself. -/
def Call.own (capacity : Nat) : Call → List Frame.Call
  | play .. | start => []
  | handle event => [.handle event]
  | flush => [.flush]
  | shutdown => (List.range capacity).map .disconnect

/-- What a call tells a frame, the pads delivering `notices`. -/
def Call.tells (capacity : Nat) (notices : List Notice) (call : Call) : List Frame.Call :=
  call.own capacity ++ notices.map .hear

theorem Call.hear_not_mem_own (capacity : Nat) (call : Call) (notice : Notice) :
    .hear notice ∉ call.own capacity := by
  cases call <;> simp [own]

end Input

namespace Frame

theorem run_append (frame : Frame) (first second : List Call) :
    frame.run (first ++ second) = (frame.run first).run second := by
  simp [run]

theorem run_hear (frame : Frame) (notices : List Notice) :
    frame.run (notices.map .hear) = frame.hearAll notices := by
  rw [run, hearAll, List.foldl_map]
  rfl

theorem hearAll_append (frame : Frame) (first second : List Notice) :
    frame.hearAll (first ++ second) = (frame.hearAll first).hearAll second := by
  simp [hearAll]

/-- Emptying every slot is emptying one after the other. -/
theorem run_disconnect (frame : Frame) :
    frame.run ((List.range frame.capacity).map .disconnect) = frame.disconnectAll := by
  have slots (indices : List Nat) : frame.run (indices.map .disconnect) =
      { frame with slots := indices.foldl (·.setIfInBounds · none) frame.slots } := by
    induction indices using List.reverseRecOn with
    | nil => rfl
    | append_singleton indices index ih =>
      rw [List.map_append, run_append, ih, List.foldl_append]
      rfl
  have emptied (indices : List Nat) (index : Nat) (inside : index < frame.capacity)
      (member : index ∈ indices) :
      (indices.foldl (·.setIfInBounds · none) frame.slots)[index] = none := by
    induction indices using List.reverseRecOn with
    | nil => cases member
    | append_singleton indices last ih =>
      rw [List.foldl_append, List.foldl_cons, List.foldl_nil, Vector.getElem_setIfInBounds inside]
      split
      · rfl
      · rename_i differ
        rcases List.mem_append.mp member with earlier | here
        · exact ih earlier
        · exact absurd (List.mem_singleton.mp here).symm differ
  rw [slots, disconnectAll]
  congr 1
  ext index inside : 1
  rw [emptied _ index inside (List.mem_range.mpr inside), Vector.getElem_replicate]

end Frame

namespace Input

variable {τ : Type}

/-! ## What the library calls do -/

section Calls

variable {input : Input VirtualBackend τ}

/-- What is delivered is heard by the callbacks and by the frame. -/
theorem hearAll_frame (callbacks : Callbacks τ) (frame : Frame) (notices : List Notice) :
    Listener.hearAll (⟨callbacks, frame⟩ : Fanout (Callbacks τ) Frame) notices =
      (⟨callbacks, frame.hearAll notices⟩, callbacks.called notices) :=
  Fanout.hearAll_callbacks Frame.hear_eq callbacks frame notices

theorem detectWith_eq (pads : Gamepads VirtualBackend τ) (frame : Frame) :
    pads.detectWith frame = .ok ({ pads with backend := pads.backend.detect.1 },
      frame.hearAll pads.backend.detect.2,
      pads.callbacks.called pads.backend.detect.2) := by
  have detected : Backend.detect pads.backend = .ok pads.backend.detect := rfl
  simp only [Gamepads.detectWith, Gamepads.deliver, detected, bind, Except.bind, hearAll_frame,
    pure, Except.pure]

theorem processWith_eq {pads : Gamepads VirtualBackend τ} (idle : pads.inFlight = false)
    (frame : Frame) :
    pads.processWith frame = .ok ({ pads with backend := pads.backend.process.1 },
      frame.hearAll pads.backend.process.2,
      pads.callbacks.called pads.backend.process.2) := by
  have processed : Backend.process pads.backend = .ok pads.backend.process := rfl
  simp only [Gamepads.processWith, idle, Gamepads.deliver, processed, bind, Except.bind,
    hearAll_frame, pure, Except.pure, Bool.false_eq_true, if_false]

/-- A virtual backend always starts; its pads take their slots. -/
theorem start_eq (fresh : input.pads.initialized = false) :
    input.start = .ok
      (⟨{ input.pads with backend := input.pads.backend.detect.1, initialized := true },
        input.frame.hearAll input.pads.backend.detect.2⟩,
        input.pads.callbacks.called input.pads.backend.detect.2) := by
  have begun : Backend.start input.pads.backend = .ok input.pads.backend := rfl
  simp only [Input.start, Gamepads.startWith, fresh, begun, detectWith_eq, Except.mapError, bind,
    Except.bind, pure, Except.pure, Bool.false_eq_true, if_false]

theorem start_again (started : input.pads.initialized = true) : input.start = .ok (input, []) := by
  simp only [Input.start, Gamepads.startWith, started, bind, Except.bind, pure, Except.pure,
    if_true]

/-- What is detected is delivered before what is processed. -/
theorem flush_eq (idle : input.pads.inFlight = false) :
    let detected := input.pads.backend.detect
    let processed := detected.1.process
    input.flush = .ok
      (⟨{ input.pads with backend := processed.1 },
        (input.frame.flush.hearAll detected.2).hearAll processed.2⟩,
        input.pads.callbacks.called detected.2 ++
          input.pads.callbacks.called processed.2) := by
  intro detected processed
  have free : { input.pads with backend := detected.1 }.inFlight = false := idle
  simp only [Input.flush, detectWith_eq, processWith_eq free, bind, Except.bind, pure, Except.pure,
    detected, processed]

end Calls

/-- A call is what it asks the backend, and what it tells the callbacks and the frame of the
answer. -/
structure Performed (input : Input VirtualBackend τ) (call : Call) (effect : Effect τ)
    (done : VirtualBackend.Effect) : Prop where
  backend_eq : effect.input.pads.backend = done.backend
  notices_eq : effect.notices = done.notices
  accepted_eq : effect.accepted = done.accepted
  callbacks_eq : effect.input.pads.callbacks = input.pads.callbacks
  called_eq : effect.called = input.pads.callbacks.called done.notices
  frame_eq : effect.input.frame = input.frame.run (call.tells input.frame.capacity done.notices)
  idle : effect.input.pads.inFlight = false

theorem perform_splits {input : Input VirtualBackend τ} (idle : input.pads.inFlight = false)
    (call : Call) :
    ∃ effect, input.perform call = .ok effect ∧
      Performed input call effect (input.pads.backend.run (call.asks input.pads.initialized)) := by
  have told (frame : Frame) (said : List Frame.Call) (notices : List Notice) :
      frame.run (said ++ notices.map .hear) = (frame.run said).hearAll notices := by
    rw [Frame.run_append, Frame.run_hear]
  cases call with
  | play call plays =>
    have silent := VirtualBackend.notices_perform_of_plays input.pads.backend plays
    refine ⟨_, rfl, ?_⟩
    constructor <;>
      simp [Call.asks, Call.tells, Call.own, VirtualBackend.run, Frame.run, silent, idle]
  | handle event => exact ⟨_, rfl, rfl, rfl, rfl, rfl, rfl, rfl, idle⟩
  | start =>
    rcases Bool.eq_false_or_eq_true input.pads.initialized with started | fresh
    · refine ⟨_, by simp only [perform, start_again started]; rfl, ?_⟩
      constructor <;>
        simp [started, Call.asks, Call.tells, Call.own, VirtualBackend.run, Frame.run, idle]
    · refine ⟨_, by simp only [perform, start_eq fresh]; rfl, ?_⟩
      constructor <;>
        simp [fresh, Call.asks, Call.tells, Call.own, VirtualBackend.run, VirtualBackend.perform,
          Frame.run_hear, idle]
  | flush =>
    refine ⟨_, by simp only [perform, flush_eq idle]; rfl, ?_⟩
    constructor <;>
      simp only [Call.asks, Call.tells, told, VirtualBackend.run, VirtualBackend.perform,
        List.append_nil, Frame.hearAll_append, Callbacks.called_append, idle]
    rfl
  | shutdown =>
    refine ⟨_, rfl, rfl, rfl, rfl, rfl, rfl, ?_, idle⟩
    rw [Call.tells, told]
    exact (Frame.run_disconnect input.frame).symm

end Input

end GamepadInput
