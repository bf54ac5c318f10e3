import GamepadInput.Proofs.Input.Holders
import GamepadInput.Proofs.Virtual.Delivery

/-!
# What a flush delivers

A flush leaves nothing waiting, and what it delivers of a pad in view is what was accepted for the
pad since the flush before (`inputsOf_flush`).  Between two flushes no input is delivered
(`Reaches.run`).
-/

namespace GamepadInput

namespace Standing

variable {α : Type}

theorem isDrained_processed (standing : Standing α) :
    standing.detected.processed.isDrained = true := by
  cases standing with
  | absent | unplugged | gone => rfl
  | present entry announced waiting =>
    simp only [detected, processed]
    split <;> rfl

end Standing

namespace VirtualBackend

variable {id : DeviceId} {standing : Standing VirtualPadState} {asked asks : List Call}

theorem pending_flushed (backend : VirtualBackend) : backend.detect.1.process.1.pending = 0 := by
  simp [pending, Hub.pending, detect, process, Hub.dispatchDevices, Hub.dispatchAnnounced,
    Hub.dispatchAll, EventQueue.take, EventQueue.takeAttaches_eq, EventQueue.empty, EventQueue.size]

/-- Where a device stands after a detection and a processing. -/
theorem Reaches.flushed (reaches : Reaches asked id standing) :
    Reaches (asked ++ [.detect, .process]) id standing.detected.processed := by
  obtain ⟨detected, announced⟩ := reaches.stands.dispatchDevices
  have picked : Reaches (asked ++ [.detect]) id standing.detected :=
    reaches.call detected (by
      have heard : heardOf ((empty.run asked).backend.perform .detect).notices id =
          standing.announcement := announced
      rw [heard]
      exact .detect)
  obtain ⟨processed, delivered⟩ := picked.stands.dispatchAnnounced picked.course.orderly
  have done : Reaches (asked ++ [.detect] ++ [.process]) id standing.detected.processed :=
    picked.call processed (by
      have heard : heardOf ((empty.run (asked ++ [.detect])).backend.perform .process).notices id =
          standing.detected.delivery := delivered
      rw [heard]
      exact .process)
  rwa [List.append_assoc] at done

/-- A drained device heard all the input that was accepted for it, unless it is gone. -/
theorem Reaches.inputsOf_drained (reaches : Reaches asked id standing)
    (drained : standing.isDrained = true) (here : standing.isAbsent = true ∨ standing.isShown = true) :
    inputsOf (heardOf (empty.run asked).notices id) = (empty.run asked).acceptedInput id := by
  have course := reaches.course
  cases standing with
  | absent =>
    generalize heardOf (empty.run asked).notices id = heard at course ⊢
    generalize (empty.run asked).acceptedInput id = accepted at course ⊢
    cases course
    rfl
  | present entry announced waiting =>
    have empty : waiting = [] := by
      simp only [Standing.isDrained, Bool.and_eq_true, List.isEmpty_iff] at drained
      exact drained.2
    exact course.drained empty
  | unplugged => cases drained
  | gone => simp [Standing.isAbsent, Standing.isShown] at here

theorem Reaches.unique {other : Standing VirtualPadState} (reaches : Reaches asked id standing)
    (elsewhere : Reaches asked id other) : standing = other :=
  reaches.stands.unique elsewhere.stands

/-- What is heard of a pad in view, once everything was delivered, is what was accepted since
everything was delivered the last time. -/
theorem inputsOf_flush {previous : Standing VirtualPadState} (rested : Reaches asked id previous)
    (drained : previous.isDrained = true) (elsewhere : .process ∉ asks)
    (reaches : Reaches (asked ++ asks ++ [.detect, .process]) id standing)
    (shown : standing.isShown = true) :
    inputsOf (heardOf ((empty.run (asked ++ asks)).backend.run [.detect, .process]).notices id) =
      kindsOf ((empty.run asked).backend.run asks).accepted id := by
  have known : previous.isAbsent = true ∨ previous.isShown = true := by
    cases previous with
    | absent => exact .inl rfl
    | present entry announced waiting =>
      simp only [Standing.isDrained, Bool.and_eq_true] at drained
      exact .inr drained.1
    | unplugged => cases drained
    | gone =>
      obtain ⟨after, passes, arrives⟩ := rested.onward (asks ++ [.detect, .process])
      rw [← List.append_assoc] at arrives
      rw [reaches.unique arrives, passes.of_gone.1] at shown
      cases shown
  have settled : standing.isDrained = true := by
    obtain ⟨before, there⟩ := exists_reaches (asked ++ asks) id
    rw [reaches.unique there.flushed]
    exact before.isDrained_processed
  have until_ := rested.inputsOf_drained drained known
  have whole := reaches.inputsOf_drained settled (.inr shown)
  have quiet : inputsOf (heardOf ((empty.run asked).backend.run asks).notices id) = [] := by
    obtain ⟨after, passes, -⟩ := rested.onward asks
    exact passes.no_input elsewhere
  have nothing (backend : VirtualBackend) :
      (backend.run [.detect, .process]).accepted = [] := rfl
  rw [run_append _ (asked ++ asks)] at whole
  simp only [Effect.acceptedInput, heardOf_append, inputsOf_append, nothing, List.append_nil,
    run_append _ asked asks, kindsOf_append, until_, quiet, List.append_cancel_left_eq] at whole
  simpa only [run_append] using whole

/-- Only processing delivers input. -/
theorem isInput_of_not_process (asked : List Call) (elsewhere : .process ∉ asks) {notice : Notice}
    (heard : notice ∈ ((empty.run asked).backend.run asks).notices) :
    notice.kind.isInput = false := by
  obtain ⟨standing, reaches⟩ := exists_reaches asked notice.device.id
  obtain ⟨after, passes, -⟩ := reaches.onward asks
  have mine : notice ∈
      heardOf ((empty.run asked).backend.run asks).notices notice.device.id :=
    List.mem_filter.mpr ⟨heard, by simp⟩
  have nothing := List.filter_eq_nil_iff.mp (passes.no_input elsewhere) notice.kind
    (List.mem_map_of_mem mine)
  simpa using nothing

end VirtualBackend

namespace Input

variable {τ : Type} {slots : Nat} {input : Input VirtualBackend τ}
  {asked : List VirtualBackend.Call} {told : List Frame.Call}

/-! ## Calls between two flushes -/

theorem Call.not_mem_asks {call : Call} (goes : call ≠ .flush) (initialized : Bool) :
    .process ∉ call.asks initialized := by
  cases call with
  | play call plays =>
    rw [asks, List.mem_singleton]
    rintro rfl
    cases plays
  | start => cases initialized <;> simp [asks]
  | flush => exact absurd rfl goes
  | handle | shutdown => simp [asks]

theorem Call.isQuiet_tells {call : Call} (goes : call ≠ .flush) (capacity : Nat)
    {notices : List Notice} (quiet : ∀ notice ∈ notices, notice.kind.isInput = false) :
    ∀ said ∈ call.tells capacity notices, said.isQuiet = true := by
  intro said member
  rcases List.mem_append.mp member with own | heard
  · cases call with
    | play | start => cases own
    | handle event =>
      cases List.mem_singleton.mp own
      rfl
    | flush => exact absurd rfl goes
    | shutdown =>
      obtain ⟨index, -, rfl⟩ := List.mem_map.mp own
      rfl
  · obtain ⟨notice, told, rfl⟩ := List.mem_map.mp heard
    simp [Frame.Call.isQuiet, quiet notice told]

/-- A frame hears of the pads what the backend delivers. -/
theorem Call.mem_of_tells {call : Call} {capacity : Nat} {notices : List Notice} {notice : Notice}
    (told : .hear notice ∈ call.tells capacity notices) : notice ∈ notices := by
  rcases List.mem_append.mp told with own | heard
  · exact absurd own (call.hear_not_mem_own capacity notice)
  · simpa using heard

/-- How a run goes on: without a flush no input is delivered, and no frame ends. -/
theorem Reaches.run (reaches : Reaches slots input asked told) (calls : List Call) :
    ∃ effect asks tells, input.run calls = .ok effect ∧
      effect.accepted = (input.pads.backend.run asks).accepted ∧
      Reaches slots effect.input (asked ++ asks) (told ++ tells) ∧
      (∀ notice, .hear notice ∈ tells → notice ∈ (input.pads.backend.run asks).notices) ∧
      (.flush ∉ calls → .process ∉ asks ∧ ∀ said ∈ tells, said.isQuiet = true) := by
  induction calls generalizing input asked told with
  | nil => exact ⟨_, [], [], rfl, rfl, by simpa using reaches, by simp, by simp⟩
  | cons call calls ih =>
    obtain ⟨first, performed, notices, accepted, onward⟩ := reaches.perform call
    obtain ⟨others, asks, tells, ran, more, there, heard, silent⟩ := ih onward
    have backend : first.input.pads.backend =
        (input.pads.backend.run (call.asks input.pads.initialized)).backend := by
      rw [onward.backend_eq, reaches.backend_eq, VirtualBackend.run_append]
    refine ⟨_, call.asks input.pads.initialized ++ asks, call.tells (max slots 1) _ ++ tells,
      run_cons performed ran, ?_, by simpa only [List.append_assoc] using there, ?_, ?_⟩
    · rw [VirtualBackend.run_append, accepted, more, backend]
    · rw [backend] at heard
      intro notice member
      rw [VirtualBackend.run_append]
      rcases List.mem_append.mp member with early | late
      · exact List.mem_append_left _ (call.mem_of_tells early)
      · exact List.mem_append_right _ (heard notice late)
    · intro goes
      rw [List.mem_cons, not_or] at goes
      obtain ⟨waits, still⟩ := silent goes.2
      have quiet := call.not_mem_asks (Ne.symm goes.1) input.pads.initialized
      refine ⟨by simp [quiet, waits], ?_⟩
      intro said member
      rcases List.mem_append.mp member with early | late
      · refine call.isQuiet_tells (Ne.symm goes.1) _ ?_ said early
        rw [reaches.backend_eq]
        exact fun notice heard => VirtualBackend.isInput_of_not_process asked quiet heard
      · exact still said late

/-- A run from the start that ends where a frame begins leaves nothing waiting. -/
theorem exists_rested (slots : Nat) {before : List Call}
    (framed : before = [] ∨ ∃ earlier, before = earlier ++ [.flush]) :
    ∃ (previous : Effect τ) (asked : List VirtualBackend.Call) (told : List Frame.Call),
      (ofBackend .empty slots).run before = .ok previous ∧ Reaches slots previous.input asked told ∧
      ∀ id, ∃ standing, VirtualBackend.Reaches asked id standing ∧ standing.isDrained = true := by
  rcases framed with rfl | ⟨earlier, rfl⟩
  · exact ⟨_, [], [], rfl, .start slots, fun id => ⟨.absent, .start id, rfl⟩⟩
  · obtain ⟨effect, asked, told, ran, -, there, -⟩ :=
      (Reaches.start slots : Reaches slots (ofBackend .empty slots : Input _ τ) [] []).run earlier
    obtain ⟨last, flushed, -, -, onward⟩ := there.perform .flush
    refine ⟨_, _, _, run_append ran (run_cons flushed rfl), onward, fun id => ?_⟩
    obtain ⟨standing, reaches⟩ := VirtualBackend.exists_reaches asked id
    exact ⟨_, reaches.flushed, standing.isDrained_processed⟩

end Input

end GamepadInput
