import GamepadInput.Proofs.Lifecycle
import GamepadInput.Proofs.Virtual.Moves

/-!
# The course of one device

The course of a device relates where it stands to its whole history: what was heard of it and the
input that was accepted for it.  Every call carries it on (`Course.step`), so every run has it
(`run_course`).
-/

namespace GamepadInput.VirtualBackend

/-- What follows the input of a pad in its queue. -/
def closing (state : VirtualPadState) : List EventKind := if state.ended then [.removed] else []

/-- Where a device stands, what was heard of it, and the input accepted for it. -/
inductive Course : Standing VirtualPadState → List Notice → List EventKind → Prop where
  | absent : Course .absent [] []
  /-- What was accepted is what was delivered and what waits, and it leads from rest to the state of
  the pad. -/
  | present {start : Device} {state : VirtualPadState} {announced : Bool}
      {delivered waiting : List EventKind} (rest : start.IsAtRest)
      (quiet : announced = false → delivered = [])
      (admitted : start.AdmitsAll (delivered ++ waiting))
      (mirrors : Mirrors (start.replay (delivered ++ waiting)) state) :
      Course (.present ⟨start.replay delivered, state⟩ announced (waiting ++ closing state))
        (if announced then start.hears (.attached :: delivered) else []) (delivered ++ waiting)
  /-- What had not been delivered is lost. -/
  | unplugged {start : Device} {state : VirtualPadState} {delivered lost : List EventKind}
      (rest : start.IsAtRest) (admitted : start.AdmitsAll (delivered ++ lost)) :
      Course (.unplugged ⟨start.replay delivered, state⟩) (start.hears (.attached :: delivered))
        (delivered ++ lost)
  /-- Gone before it was announced. -/
  | silent {lost : List EventKind} (isInput : ∀ kind ∈ lost, kind.isInput = true) :
      Course .gone [] lost
  /-- Gone by a shutdown. -/
  | dropped {start : Device} {delivered lost : List EventKind}
      (rest : start.IsAtRest) (admitted : start.AdmitsAll (delivered ++ lost)) :
      Course .gone (start.hears (.attached :: delivered)) (delivered ++ lost)
  | left {start : Device} {delivered lost : List EventKind}
      (rest : start.IsAtRest) (admitted : start.AdmitsAll (delivered ++ lost)) :
      Course .gone (start.hears (.attached :: delivered ++ [.removed])) (delivered ++ lost)

namespace Course

variable {id : DeviceId} {standing after : Standing VirtualPadState} {heard notices : List Notice}
  {accepted kinds : List EventKind} {call : Call}

theorem isInput (course : Course standing heard accepted) :
    ∀ kind ∈ accepted, kind.isInput = true := by
  cases course with
  | absent => simp
  | silent isInput => exact isInput
  | present _ _ admitted | unplugged _ admitted | dropped _ admitted | left _ admitted =>
    exact admitted.isInput

/-- A removal waits only behind the input. -/
theorem orderly (course : Course standing heard accepted) : standing.orderly := by
  cases course with
  | absent | unplugged | silent | dropped | left => trivial
  | @present start state announced delivered waiting rest quiet admitted mirrors =>
    have inputs := admitted.removed_not_mem
    rw [List.mem_append, not_or] at inputs
    simp only [Standing.orderly, closing]
    split
    · rw [List.dropLast_concat]
      exact inputs.2
    · rw [List.append_nil]
      exact fun member => inputs.2 (List.dropLast_subset _ member)

/-- Nothing happens to a device that is gone. -/
theorem of_gone (move : Moves id .gone call after notices kinds) :
    after = .gone ∧ notices = [] ∧ kinds = [] := by
  cases move with
  | stay | detect | process | shutdown => exact ⟨rfl, rfl, rfl⟩

/-- What was heard of a live device once its waiting events were processed. -/
theorem told_process {start : Device} {state : VirtualPadState} {announced : Bool}
    {delivered waiting : List EventKind} (quiet : announced = false → delivered = []) :
    (if announced then start.hears (.attached :: delivered) else []) ++
        (Standing.present (⟨start.replay delivered, state⟩ : Entry VirtualPadState) announced
          waiting).delivery =
      if announced || !waiting.isEmpty then start.hears (.attached :: delivered ++ waiting)
      else [] := by
  cases announced with
  | true =>
    have split : start.hears (.attached :: delivered ++ waiting) =
        start.hears (.attached :: delivered) ++ (start.replay delivered).hears waiting :=
      start.hears_append (.attached :: delivered) waiting
    rw [Bool.true_or, if_pos rfl, if_pos rfl, split]
    cases waiting <;> rfl
  | false =>
    cases quiet rfl
    cases waiting <;> simp [Standing.delivery, Standing.heralds]

/-- A call carries the course of a live device on. -/
theorem step_present {start : Device} {state : VirtualPadState} {announced : Bool}
    {delivered waiting : List EventKind} (rest : start.IsAtRest)
    (quiet : announced = false → delivered = [])
    (admitted : start.AdmitsAll (delivered ++ waiting))
    (mirrors : Mirrors (start.replay (delivered ++ waiting)) state)
    (move : Moves id (.present ⟨start.replay delivered, state⟩ announced (waiting ++ closing state))
      call after notices kinds) :
    Course after ((if announced then start.hears (.attached :: delivered) else []) ++ notices)
      (delivered ++ waiting ++ kinds) := by
  cases move with
  | stay quietly =>
    simpa using Course.present rest quiet admitted mirrors
  | @feed _ _ _ _ fed kinds target takes answer =>
    obtain ⟨more, mirrors, ended⟩ := answer?_leads mirrors answer
    have unclosed : closing state = [] := by simp [closing, show state.ended = false from takes]
    have still : closing fed = [] := by simp [closing, ended, show state.ended = false from takes]
    have onward : Course
        (.present ⟨start.replay delivered, fed⟩ announced ((waiting ++ kinds) ++ closing fed))
        (if announced then start.hears (.attached :: delivered) else [])
        (delivered ++ (waiting ++ kinds)) := by
      refine .present rest quiet ?_ ?_
      · rw [← List.append_assoc]
        exact (Device.admitsAll_append _ _).mpr ⟨admitted, more⟩
      · rwa [← List.append_assoc, Device.replay_append]
    simpa [unclosed, still] using onward
  | close takes =>
    have unclosed : closing state = [] := by simp [closing, show state.ended = false from takes]
    have onward := @Course.present start { state with ended := true } announced delivered waiting
      rest quiet admitted ⟨mirrors.axes_eq, mirrors.buttons_eq⟩
    rw [unclosed, List.append_nil, List.append_nil, List.append_nil]
    exact onward
  | unplug =>
    cases announced with
    | true => simpa using Course.unplugged rest admitted
    | false => simpa using Course.silent admitted.isInput
  | detect =>
    have onward := @Course.present start state true delivered waiting rest nofun admitted mirrors
    cases announced with
    | true => simpa [Standing.detected, Standing.announcement, Standing.heralds] using onward
    | false =>
      cases quiet rfl
      simpa [Standing.detected, Standing.announcement, Standing.heralds] using onward
  | process =>
    rw [List.append_nil]
    have told := @told_process start state announced delivered (waiting ++ closing state) quiet
    cases leaves : state.ended with
    | true =>
      have closes : closing state = [.removed] := by simp [closing, leaves]
      rw [closes] at told ⊢
      have onward := @Course.left start (delivered ++ waiting) [] rest (by simpa using admitted)
      have some_ : (announced || !(waiting ++ [EventKind.removed]).isEmpty) = true := by simp
      have last : EventKind.removed ∈ waiting ++ [EventKind.removed] := by simp
      rw [told, if_pos some_, Standing.processed, if_pos last]
      simpa only [List.cons_append, List.append_assoc, List.append_nil] using onward
    | false =>
      have unclosed : closing state = [] := by simp [closing, leaves]
      have onward := @Course.present start state (announced || !waiting.isEmpty)
        (delivered ++ waiting) [] rest ?_ (by simpa using admitted) (by simpa using mirrors)
      · rw [unclosed, List.append_nil] at told ⊢
        have inputs := admitted.removed_not_mem
        rw [List.mem_append, not_or] at inputs
        rw [told, Standing.processed, if_neg inputs.2]
        simpa [unclosed, Device.replay_append] using onward
      · intro silent
        simp_all
  | shutdown =>
    cases announced with
    | true => simpa [Standing.cleared] using Course.dropped rest admitted
    | false => simpa [Standing.cleared] using Course.silent admitted.isInput

/-- Every call carries the course of a device on. -/
theorem step (course : Course standing heard accepted)
    (move : Moves id standing call after notices kinds) :
    Course after (heard ++ notices) (accepted ++ kinds) := by
  cases course with
  | absent =>
    cases move with
    | join rest mirrors takes =>
      have onward := @Course.present _ _ false [] [] rest (fun _ => rfl) trivial mirrors
      simpa [closing, takes] using onward
    | stay | detect | process | shutdown => exact .absent
  | present rest quiet admitted mirrors => exact step_present rest quiet admitted mirrors move
  | @unplugged start state delivered lost rest admitted =>
    cases move with
    | stay => simpa using Course.unplugged rest admitted
    | process => simpa [Standing.processed, Standing.delivery] using Course.unplugged rest admitted
    | shutdown => simpa [Standing.cleared] using Course.dropped rest admitted
    | detect =>
      have told : start.hears (.attached :: delivered ++ [.removed]) =
          start.hears (.attached :: delivered) ++ (start.replay delivered).hears [.removed] :=
        start.hears_append (.attached :: delivered) [.removed]
      have onward := Course.left rest admitted
      rw [told] at onward
      simpa [Standing.detected, Standing.announcement] using onward
  | silent | dropped | left =>
    obtain ⟨rfl, rfl, rfl⟩ := of_gone move
    simp only [List.append_nil]
    constructor <;> assumption

/-- No removal of a live device was heard. -/
theorem removed_not_mem {entry : Entry VirtualPadState} {announced : Bool}
    {waiting : List EventKind} (course : Course (.present entry announced waiting) heard accepted) :
    .removed ∉ heard.map (·.kind) := by
  cases course with
  | @present start state announced delivered waiting rest quiet admitted mirrors =>
    have inputs := admitted.removed_not_mem
    rw [List.mem_append, not_or] at inputs
    cases announced <;> simp [inputs.1]

/-- A pad whose removal waits is told whole when its input is processed: its attach, everything that
was accepted, and the removal. -/
theorem process_closing {entry : Entry VirtualPadState} {announced : Bool}
    {waiting : List EventKind} (course : Course (.present entry announced waiting) heard accepted)
    (closes : .removed ∈ waiting) :
    (heard ++ (Standing.present entry announced waiting).delivery).map (·.kind) =
      .attached :: accepted ++ [.removed] := by
  cases course with
  | @present start state announced delivered waiting rest quiet admitted mirrors =>
    have inputs := admitted.removed_not_mem
    rw [List.mem_append, not_or] at inputs
    have ends : closing state = [.removed] := by
      have last : .removed ∈ closing state := (List.mem_append.mp closes).resolve_left inputs.2
      unfold closing at last ⊢
      split at last
      · rename_i ended
        rw [if_pos ended]
      · cases last
    have some_ : (announced || !(waiting ++ [EventKind.removed]).isEmpty) = true := by simp
    rw [told_process quiet, ends, if_pos some_]
    simp

end Course

/-! ## Runs -/

/-- What calls in order do to a device. -/
inductive Passes (id : DeviceId) : Standing VirtualPadState → List Call → Standing VirtualPadState →
    List Notice → List EventKind → Prop where
  | nil {standing : Standing VirtualPadState} : Passes id standing [] standing [] []
  | cons {standing next after : Standing VirtualPadState} {call : Call} {calls : List Call}
      {notices others : List Notice} {kinds more : List EventKind}
      (move : Moves id standing call next notices kinds)
      (rest : Passes id next calls after others more) :
      Passes id standing (call :: calls) after (notices ++ others) (kinds ++ more)

section Runs

variable {backend : VirtualBackend} {id : DeviceId} {standing : Standing VirtualPadState}
  {heard : List Notice} {accepted : List EventKind}

/-- A run takes a device from where it stands, and carries its course on. -/
theorem run_passes (stands : backend.hub.Stands id standing)
    (course : Course standing heard accepted) (calls : List Call) :
    ∃ after, Passes id standing calls after (heardOf (backend.run calls).notices id)
        ((backend.run calls).acceptedInput id) ∧
      (backend.run calls).backend.hub.Stands id after ∧
      Course after (heard ++ heardOf (backend.run calls).notices id)
        (accepted ++ (backend.run calls).acceptedInput id) := by
  induction calls generalizing backend standing heard accepted with
  | nil => exact ⟨standing, .nil, stands, by simpa [run, Effect.acceptedInput] using course⟩
  | cons call rest ih =>
    obtain ⟨next, move, there⟩ := perform_moves stands course.orderly call
    obtain ⟨after, passes, arrives, onward⟩ := ih there (course.step move)
    refine ⟨after, ?_, arrives, ?_⟩
    · simpa only [run, Effect.acceptedInput, heardOf_append, kindsOf_append] using
        Passes.cons move passes
    · simpa only [run, Effect.acceptedInput, heardOf_append, kindsOf_append, List.append_assoc]
        using onward

/-- Running on after a run. -/
theorem run_append (backend : VirtualBackend) (before rest : List Call) :
    backend.run (before ++ rest) =
      let there := backend.run before
      let onward := there.backend.run rest
      ⟨onward.backend, there.notices ++ onward.notices, there.accepted ++ onward.accepted,
        there.assigned ++ onward.assigned⟩ := by
  induction before generalizing backend with
  | nil => rfl
  | cons call before ih => simp [run, ih]

/-- A run from the start has brought a device to a standing, by the course that was heard. -/
structure Reaches (calls : List Call) (id : DeviceId) (standing : Standing VirtualPadState) :
    Prop where
  stands : (empty.run calls).backend.hub.Stands id standing
  course : Course standing (heardOf (empty.run calls).notices id)
    ((empty.run calls).acceptedInput id)

theorem Reaches.start (id : DeviceId) : Reaches [] id .absent := ⟨Hub.Stands.empty id, .absent⟩

variable {before : List Call}

/-- How a device goes on from where it is. -/
theorem Reaches.onward (reaches : Reaches before id standing) (rest : List Call) :
    ∃ after, Passes id standing rest after
        (heardOf ((empty.run before).backend.run rest).notices id)
        (((empty.run before).backend.run rest).acceptedInput id) ∧
      Reaches (before ++ rest) id after := by
  obtain ⟨after, passes, stands, course⟩ := run_passes reaches.stands reaches.course rest
  refine ⟨after, passes, ?_, ?_⟩
  · simpa only [run_append] using stands
  · simpa only [run_append, heardOf_append, Effect.acceptedInput, kindsOf_append] using course

/-- One call on from where a device is. -/
theorem Reaches.call {call : Call} {after : Standing VirtualPadState}
    (reaches : Reaches before id standing)
    (stands : ((empty.run before).backend.perform call).backend.hub.Stands id after)
    (move : Moves id standing call after
      (heardOf ((empty.run before).backend.perform call).notices id)
      (kindsOf ((empty.run before).backend.perform call).accepted id)) :
    Reaches (before ++ [call]) id after := by
  have course := reaches.course.step move
  refine ⟨?_, ?_⟩
  · simpa only [run_append, run] using stands
  · simpa only [run_append, run, heardOf_append, heardOf_nil, Effect.acceptedInput, kindsOf_append,
      kindsOf_nil, List.append_nil] using course

/-- Every device stands somewhere after every run. -/
theorem exists_reaches (calls : List Call) (id : DeviceId) :
    ∃ standing, Reaches calls id standing := by
  obtain ⟨standing, -, reaches⟩ := (Reaches.start id).onward calls
  exact ⟨standing, reaches⟩

end Runs

/-! ## Effects of runs that go on -/

section Effects

variable (before rest : List Call) (id : DeviceId)

theorem heard_append :
    (empty.run (before ++ rest)).heard id =
      (empty.run before).heard id ++ ((empty.run before).backend.run rest).heard id := by
  simp [run_append, Effect.heard]

theorem heardInput_append :
    (empty.run (before ++ rest)).heardInput id =
      (empty.run before).heardInput id ++ ((empty.run before).backend.run rest).heardInput id := by
  simp [Effect.heardInput, heard_append]

variable (call : Call)

theorem heard_call :
    (empty.run (before ++ [call])).heard id =
      (empty.run before).heard id ++
        (heardOf ((empty.run before).backend.perform call).notices id).map (·.kind) := by
  simp [run_append, run, Effect.heard]

theorem acceptedInput_call :
    (empty.run (before ++ [call])).acceptedInput id =
      (empty.run before).acceptedInput id ++
        kindsOf ((empty.run before).backend.perform call).accepted id := by
  simp [run_append, run, Effect.acceptedInput]

end Effects

end GamepadInput.VirtualBackend
