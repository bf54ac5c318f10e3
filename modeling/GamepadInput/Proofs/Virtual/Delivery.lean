import GamepadInput.Proofs.Virtual.Life

/-!
# Delivery of accepted input

Input is delivered in the order in which it was accepted, each event once and by processing alone.
All of it is delivered unless the pad is taken away or everything is shut down; what had not been
delivered by then never is.
-/

namespace GamepadInput.VirtualBackend

variable {id : DeviceId} {standing after : Standing VirtualPadState} {heard notices : List Notice}
  {accepted kinds : List EventKind} {call : Call} {calls : List Call}

/-- Buttons and axes among some notices. -/
def inputsOf (notices : List Notice) : List EventKind :=
  (notices.map (·.kind)).filter (·.isInput)

@[simp] theorem inputsOf_append (first second : List Notice) :
    inputsOf (first ++ second) = inputsOf first ++ inputsOf second := by
  simp [inputsOf]

/-- The attach aside, a device hears its input. -/
theorem inputsOf_hears (device : Device) (isInput : ∀ kind ∈ kinds, kind.isInput = true) :
    inputsOf (device.hears (.attached :: kinds)) = kinds := by
  rw [inputsOf, Device.kinds_hears, List.filter_cons_of_neg (by simp [EventKind.isInput])]
  exact List.filter_eq_self.mpr isInput

theorem inputsOf_removed (device : Device) : inputsOf (device.hears [.removed]) = [] := rfl

theorem inputsOf_heralds (device : Device) (announced : Bool) :
    inputsOf (device.hears (Standing.heralds announced)) = [] := by
  cases announced <;> rfl

/-! ## What is delivered is the beginning of what was accepted -/

theorem Course.inputs_begin (course : Course standing heard accepted) :
    inputsOf heard <+: accepted := by
  cases course with
  | absent | silent => exact List.nil_prefix
  | @present start state announced delivered waiting rest quiet admitted mirrors =>
    have inputs := ((Device.admitsAll_append _ _).mp admitted).1.isInput
    cases announced with
    | true =>
      rw [if_pos rfl, inputsOf_hears start inputs]
      exact List.prefix_append ..
    | false => exact List.nil_prefix
  | @unplugged start state delivered lost rest admitted
  | @dropped start delivered lost rest admitted =>
    have inputs := ((Device.admitsAll_append _ _).mp admitted).1.isInput
    rw [inputsOf_hears start inputs]
    exact List.prefix_append ..
  | @left start delivered lost rest admitted =>
    have inputs := ((Device.admitsAll_append _ _).mp admitted).1.isInput
    have told : start.hears (.attached :: delivered ++ [.removed]) =
        start.hears (.attached :: delivered) ++ (start.replay delivered).hears [.removed] :=
      start.hears_append (.attached :: delivered) [.removed]
    rw [told, inputsOf_append, inputsOf_hears start inputs, inputsOf_removed, List.append_nil]
    exact List.prefix_append ..

/-! ## Only processing delivers input -/

theorem Moves.no_input (move : Moves id standing call after notices kinds)
    (elsewhere : call ≠ .process) : inputsOf notices = [] := by
  cases move with
  | join | stay | feed | close | unplug | shutdown => rfl
  | detect =>
    cases standing with
    | absent | gone => rfl
    | present entry announced waiting => exact inputsOf_heralds entry.device announced
    | unplugged entry => exact inputsOf_removed entry.device
  | process => exact absurd rfl elsewhere

theorem Passes.no_input (passes : Passes id standing calls after notices kinds)
    (elsewhere : .process ∉ calls) : inputsOf notices = [] := by
  induction passes with
  | nil => rfl
  | cons move rest ih =>
    rw [List.mem_cons, not_or] at elsewhere
    rw [inputsOf_append, move.no_input (Ne.symm elsewhere.1), ih elsewhere.2]
    rfl

/-! ## Nothing is lost without an unplugging or a shutdown -/

/-- Nothing of the accepted input was lost. -/
def Whole : Standing VirtualPadState → List Notice → List EventKind → Prop
  | .absent, _, _ | .present .., _, _ => True
  | .unplugged _, _, _ => False
  | .gone, heard, accepted => heard.map (·.kind) = .attached :: accepted ++ [.removed]

theorem Whole.step (whole : Whole standing heard accepted)
    (course : Course standing heard accepted) (move : Moves id standing call after notices kinds)
    (stays : call ≠ .unplug id) (lasts : call ≠ .shutdown) :
    Whole after (heard ++ notices) (accepted ++ kinds) := by
  cases move with
  | join | feed | close => trivial
  | stay => simpa using whole
  | unplug => exact absurd rfl stays
  | shutdown => exact absurd rfl lasts
  | detect =>
    cases standing with
    | absent | present => trivial
    | unplugged => exact whole.elim
    | gone => simpa [Standing.detected, Standing.announcement] using whole
  | process =>
    cases standing with
    | absent => trivial
    | unplugged => exact whole.elim
    | gone => simpa [Standing.processed, Standing.delivery] using whole
    | present entry announced waiting =>
      simp only [Standing.processed]
      split
      · rename_i closes
        rw [List.append_nil]
        exact course.process_closing closes
      · trivial

theorem Whole.passes (whole : Whole standing heard accepted)
    (course : Course standing heard accepted)
    (passes : Passes id standing calls after notices kinds) (stays : .unplug id ∉ calls)
    (lasts : .shutdown ∉ calls) : Whole after (heard ++ notices) (accepted ++ kinds) := by
  induction passes generalizing heard accepted with
  | nil => simpa using whole
  | cons move rest ih =>
    rw [List.mem_cons, not_or] at stays lasts
    have next := whole.step course move (Ne.symm stays.1) (Ne.symm lasts.1)
    simpa using ih next (course.step move) stays.2 lasts.2

/-- A live device with an empty queue heard everything that was accepted for it. -/
theorem Course.drained {entry : Entry VirtualPadState} {announced : Bool} {queue : List EventKind}
    (course : Course (.present entry announced queue) heard accepted) (empty : queue = []) :
    inputsOf heard = accepted := by
  cases course with
  | @present start state announced delivered waiting rest quiet admitted mirrors =>
    have nothing : waiting = [] := (List.append_eq_nil_iff.mp empty).1
    subst nothing
    rw [List.append_nil] at admitted ⊢
    cases announced with
    | true => rw [if_pos rfl, inputsOf_hears start admitted.isInput]
    | false =>
      rw [quiet rfl]
      rfl

/-- Where nothing was lost, everything is delivered once the input is processed. -/
theorem Whole.processed (whole : Whole standing.processed heard accepted)
    (course : Course standing.processed heard accepted) : inputsOf heard = accepted := by
  have gone (told : heard.map (·.kind) = .attached :: accepted ++ [.removed]) :
      inputsOf heard = accepted := by
    have all : accepted.filter (·.isInput) = accepted := List.filter_eq_self.mpr course.isInput
    rw [inputsOf, told, List.filter_append, List.filter_cons_of_neg (by simp [EventKind.isInput]),
      all]
    simp [EventKind.isInput]
  cases standing with
  | absent =>
    cases course
    rfl
  | unplugged => exact whole.elim
  | gone => exact gone whole
  | present entry announced waiting =>
    simp only [Standing.processed] at whole course
    split at course
    · rename_i closes
      rw [if_pos closes] at whole
      exact gone whole
    · exact course.drained rfl

/-! ## Detaching -/

/-- The device is live and takes no more input. -/
def Closing (standing : Standing VirtualPadState) : Prop :=
  ∃ entry announced waiting, standing = .present entry announced waiting ∧
    entry.data.ended = true ∧ .removed ∈ waiting

/-- A pad that was detached waits for its removal to be processed. -/
theorem Moves.closing (move : Moves id standing call after notices kinds)
    (closing : Closing standing) (waits : call ≠ .process) (stays : call ≠ .unplug id)
    (lasts : call ≠ .shutdown) : Closing after := by
  obtain ⟨entry, announced, waiting, rfl, ended, last⟩ := closing
  cases move with
  | stay => exact ⟨entry, announced, waiting, rfl, ended, last⟩
  | feed target takes | close takes =>
    rw [ended] at takes
    cases takes
  | unplug => exact absurd rfl stays
  | detect => exact ⟨entry, true, waiting, rfl, ended, last⟩
  | process => exact absurd rfl waits
  | shutdown => exact absurd rfl lasts

theorem Passes.closing (passes : Passes id standing calls after notices kinds)
    (closing : Closing standing) (waits : .process ∉ calls) (stays : .unplug id ∉ calls)
    (lasts : .shutdown ∉ calls) : Closing after := by
  induction passes with
  | nil => exact closing
  | cons move rest ih =>
    rw [List.mem_cons, not_or] at waits stays lasts
    exact ih (move.closing closing (Ne.symm waits.1) (Ne.symm stays.1) (Ne.symm lasts.1))
      waits.2 stays.2 lasts.2

/-- Detaching a pad that takes input queues its removal behind the input. -/
theorem Reaches.detach (reaches : Reaches calls id standing)
    (detached : ((empty.run calls).backend.detach id).2 = true) :
    ∃ after, Reaches (calls ++ [.detach id]) id after ∧ Closing after := by
  cases accepting : (empty.run calls).backend.accepting? id with
  | none => simp [VirtualBackend.detach, accepting] at detached
  | some state =>
    obtain ⟨entry, announced, waiting, rfl, rfl, takes⟩ :=
      present_of_accepting reaches.stands accepting
    have done : (empty.run calls).backend.perform (.detach id) =
        ⟨(empty.run calls).backend.report id { entry.data with ended := true } [.removed],
          [], [], []⟩ := by
      simp [perform, VirtualBackend.detach, accepting]
    refine ⟨_, reaches.call ?_ (by rw [done]; exact .close takes), _, _, _, rfl, rfl, by simp⟩
    rw [done]
    exact report_self reaches.stands _ [.removed]

/-- Processing then tells the rest of the pad, and it is gone. -/
theorem Reaches.process_closing (reaches : Reaches calls id standing)
    (closing : Closing standing) :
    Reaches (calls ++ [.process]) id .gone ∧
      (empty.run (calls ++ [.process])).heard id =
        .attached :: (empty.run (calls ++ [.process])).acceptedInput id ++ [.removed] := by
  obtain ⟨entry, announced, waiting, rfl, -, last⟩ := closing
  obtain ⟨stands, told⟩ := reaches.stands.dispatchAnnounced reaches.course.orderly
  have delivered : heardOf ((empty.run calls).backend.perform .process).notices id =
      (Standing.present entry announced waiting).delivery := told
  have next : Reaches (calls ++ [.process]) id
      (Standing.present entry announced waiting).processed :=
    reaches.call stands (by rw [delivered]; exact .process)
  rw [Standing.processed, if_pos last] at next
  refine ⟨next, ?_⟩
  have whole := reaches.course.process_closing last
  have nothing : kindsOf ((empty.run calls).backend.perform .process).accepted id = [] := rfl
  rw [List.map_append] at whole
  rw [heard_call, acceptedInput_call, delivered, nothing, List.append_nil]
  exact whole

/-! ## Taking away -/

/-- The removal of a pad that was taken away waits for a detection. -/
theorem Passes.unplugged {entry : Entry VirtualPadState}
    (passes : Passes id (.unplugged entry) calls after notices kinds) (waits : .detect ∉ calls)
    (lasts : .shutdown ∉ calls) : after = .unplugged entry ∧ notices = [] := by
  induction calls generalizing notices kinds with
  | nil =>
    cases passes
    exact ⟨rfl, rfl⟩
  | cons call calls ih =>
    rw [List.mem_cons, not_or] at waits lasts
    cases passes with
    | cons move rest =>
      cases move with
      | stay | process =>
        obtain ⟨same, silent⟩ := ih rest waits.2 lasts.2
        exact ⟨same, by simpa [Standing.delivery] using silent⟩
      | detect => exact absurd rfl waits.1
      | shutdown => exact absurd rfl lasts.1

/-- A detection tells the removal, and the pad is gone. -/
theorem Reaches.detect_unplugged {entry : Entry VirtualPadState}
    (reaches : Reaches calls id (.unplugged entry)) :
    Reaches (calls ++ [.detect]) id .gone ∧
      (empty.run (calls ++ [.detect])).heard id = (empty.run calls).heard id ++ [.removed] := by
  obtain ⟨stands, told⟩ := reaches.stands.dispatchDevices
  have delivered : heardOf ((empty.run calls).backend.perform .detect).notices id =
      entry.device.hears [.removed] := told
  refine ⟨reaches.call stands (by rw [delivered]; exact .detect), ?_⟩
  rw [heard_call, delivered, Device.kinds_hears]

theorem heard_unplug (before : List Call) (id : DeviceId) :
    (empty.run (before ++ [.unplug id])).heard id = (empty.run before).heard id := by
  rw [heard_call]
  exact List.append_nil _

/-- No input of a pad that was taken away is delivered any more. -/
theorem Passes.no_input_of_unplugged {entry : Entry VirtualPadState}
    (passes : Passes id (.unplugged entry) calls after notices kinds) : inputsOf notices = [] := by
  induction calls generalizing notices kinds with
  | nil =>
    cases passes
    rfl
  | cons call calls ih =>
    cases passes with
    | cons move rest =>
      rw [inputsOf_append]
      cases move with
      | stay | process => exact ih rest
      | detect | shutdown =>
        rw [(rest.of_gone).2.1]
        rfl

/-! ## Delivery over runs -/

theorem Effect.heardInput_eq (effect : Effect) (id : DeviceId) :
    effect.heardInput id = inputsOf (heardOf effect.notices id) := rfl

/-- A run that gives the device its number, and neither takes it away nor shuts down, loses
nothing. -/
theorem whole_run {before since : List Call} (fresh : id ∉ (empty.run before).assigned)
    (stays : .unplug id ∉ since) (lasts : .shutdown ∉ since) :
    ∃ standing, Reaches (before ++ since) id standing ∧
      Whole standing (heardOf (empty.run (before ++ since)).notices id)
        ((empty.run (before ++ since)).acceptedInput id) := by
  obtain ⟨standing, reaches⟩ := exists_reaches before id
  have absent := reaches.absent_iff.mpr fresh
  cases standing with
  | present | unplugged | gone => cases absent
  | absent =>
    obtain ⟨after, passes, there⟩ := reaches.onward since
    have whole : Whole .absent (heardOf (empty.run before).notices id)
        ((empty.run before).acceptedInput id) := trivial
    refine ⟨after, there, ?_⟩
    have onward := whole.passes reaches.course passes stays lasts
    simpa only [run_append, heardOf_append, Effect.acceptedInput, kindsOf_append] using onward

theorem heardInput_since (before : List Call) {since : List Call} (elsewhere : .process ∉ since) :
    (empty.run (before ++ since)).heardInput id = (empty.run before).heardInput id := by
  obtain ⟨standing, reaches⟩ := exists_reaches before id
  obtain ⟨after, passes, -⟩ := reaches.onward since
  rw [heardInput_append, Effect.heardInput_eq _ id, Effect.heardInput_eq _ id,
    passes.no_input elsewhere, List.append_nil]

theorem heardInput_process {before since : List Call} (fresh : id ∉ (empty.run before).assigned)
    (stays : .unplug id ∉ since) (lasts : .shutdown ∉ since) :
    (empty.run (before ++ since ++ [.process])).heardInput id =
      (empty.run (before ++ since ++ [.process])).acceptedInput id := by
  obtain ⟨standing, reaches, whole⟩ := whole_run fresh stays lasts
  obtain ⟨stands, told⟩ := reaches.stands.dispatchAnnounced reaches.course.orderly
  have delivered : heardOf ((empty.run (before ++ since)).backend.perform .process).notices id =
      standing.delivery := told
  have move : Moves id standing .process standing.processed
      (heardOf ((empty.run (before ++ since)).backend.perform .process).notices id) [] := by
    rw [delivered]
    exact .process
  have next := whole.step reaches.course move (by simp) (by simp)
  have all := next.processed (reaches.course.step move)
  rw [acceptedInput_call, Effect.heardInput, heard_call, Effect.heard, ← List.map_append]
  exact all

theorem heard_detach {before between : List Call} (rest : List Call)
    (detached : ((empty.run before).backend.detach id).2 = true) (waits : .process ∉ between)
    (stays : .unplug id ∉ between) (lasts : .shutdown ∉ between) :
    let closed := before ++ .detach id :: between
    .removed ∉ (empty.run closed).heard id ∧
      (empty.run (closed ++ [.process])).heard id =
        .attached :: (empty.run (closed ++ [.process])).acceptedInput id ++ [.removed] ∧
      (empty.run (closed ++ .process :: rest)).heard id =
        (empty.run (closed ++ [.process])).heard id := by
  obtain ⟨standing, reaches⟩ := exists_reaches before id
  obtain ⟨closes, there, closing⟩ := reaches.detach detached
  obtain ⟨after, passes, arrives⟩ := there.onward between
  rw [← List.append_cons] at arrives
  have still := passes.closing closing waits stays lasts
  obtain ⟨gone, told⟩ := arrives.process_closing still
  have unheard : .removed ∉ (empty.run (before ++ .detach id :: between)).heard id := by
    obtain ⟨entry, announced, waiting, rfl, -, -⟩ := still
    exact arrives.course.removed_not_mem
  refine ⟨unheard, told, ?_⟩
  rw [List.append_cons _ Call.process rest]
  exact gone.heard_of_gone rest

/-- Taking an announced pad away leaves its removal behind. -/
theorem unplugged_of_announced {before : List Call}
    (unplugged : ((empty.run before).backend.unplug id).2 = true)
    (announced : .attached ∈ (empty.run before).heard id) :
    ∃ entry, Reaches (before ++ [.unplug id]) id (.unplugged entry) := by
  obtain ⟨standing, reaches⟩ := exists_reaches before id
  obtain ⟨entry, told, waiting, rfl, taken⟩ := reaches.unplug unplugged
  have known : told = true := reaches.course.announced_iff.mpr announced
  rw [if_pos known] at taken
  exact ⟨entry, taken⟩

theorem heardInput_unplug {before since : List Call} (rest : List Call)
    (elsewhere : .process ∉ since)
    (unplugged : ((empty.run (before ++ since)).backend.unplug id).2 = true)
    (announced : .attached ∈ (empty.run (before ++ since)).heard id) :
    (empty.run (before ++ since ++ .unplug id :: rest)).heardInput id =
      (empty.run before).heardInput id := by
  obtain ⟨entry, taken⟩ := unplugged_of_announced unplugged announced
  obtain ⟨after, passes, -⟩ := taken.onward rest
  have silent : ((empty.run (before ++ since ++ [.unplug id])).backend.run rest).heardInput id =
      [] := passes.no_input_of_unplugged
  rw [List.append_cons _ (Call.unplug id) rest, heardInput_append, silent, List.append_nil,
    Effect.heardInput, heard_unplug]
  exact heardInput_since before elsewhere

theorem heard_unplug_detect {before between : List Call} (rest : List Call)
    (unplugged : ((empty.run before).backend.unplug id).2 = true)
    (announced : .attached ∈ (empty.run before).heard id) (waits : .detect ∉ between)
    (lasts : .shutdown ∉ between) :
    let taken := before ++ .unplug id :: between
    (empty.run taken).heard id = (empty.run before).heard id ∧
      (empty.run (taken ++ .detect :: rest)).heard id =
        (empty.run before).heard id ++ [.removed] := by
  obtain ⟨entry, taken⟩ := unplugged_of_announced unplugged announced
  obtain ⟨after, passes, arrives⟩ := taken.onward between
  obtain ⟨rfl, silent⟩ := passes.unplugged waits lasts
  have nothing : ((empty.run (before ++ [.unplug id])).backend.run between).heard id = [] := by
    rw [Effect.heard, silent]
    rfl
  have quiet : (empty.run (before ++ .unplug id :: between)).heard id =
      (empty.run before).heard id := by
    rw [List.append_cons, heard_append, nothing, List.append_nil, heard_unplug]
  rw [← List.append_cons] at arrives
  obtain ⟨gone, told⟩ := arrives.detect_unplugged
  refine ⟨quiet, ?_⟩
  rw [List.append_cons _ Call.detect rest, gone.heard_of_gone rest, told, quiet]

/-- How the accepted input of a device is delivered over every run. -/
structure DeliversInOrder (id : DeviceId) : Prop where
  /-- At every point, what was delivered is the beginning of what was accepted. -/
  in_order : ∀ calls,
    (empty.run calls).heardInput id <+: (empty.run calls).acceptedInput id
  /-- Between two times of processing nothing is delivered. -/
  only_processed : ∀ before since, .process ∉ since →
    (empty.run (before ++ since)).heardInput id = (empty.run before).heardInput id
  /-- Everything is delivered by processing, as long as the pad was not taken away since it was
  given its number, and nothing was shut down. -/
  all_processed : ∀ before since, id ∉ (empty.run before).assigned → .unplug id ∉ since →
    .shutdown ∉ since →
    (empty.run (before ++ since ++ [.process])).heardInput id =
      (empty.run (before ++ since ++ [.process])).acceptedInput id
  /-- A pad that was detached is removed by the next processing, after all that was accepted. -/
  detached : ∀ before between rest, ((empty.run before).backend.detach id).2 = true →
    .process ∉ between → .unplug id ∉ between → .shutdown ∉ between →
    let closed := before ++ .detach id :: between
    .removed ∉ (empty.run closed).heard id ∧
      (empty.run (closed ++ [.process])).heard id =
        .attached :: (empty.run (closed ++ [.process])).acceptedInput id ++ [.removed] ∧
      (empty.run (closed ++ .process :: rest)).heard id =
        (empty.run (closed ++ [.process])).heard id
  /-- Of an announced pad that is taken away, only what was delivered by the last processing before
  is ever delivered. -/
  unplugged : ∀ before since rest, .process ∉ since →
    ((empty.run (before ++ since)).backend.unplug id).2 = true →
    .attached ∈ (empty.run (before ++ since)).heard id →
    (empty.run (before ++ since ++ .unplug id :: rest)).heardInput id =
      (empty.run before).heardInput id
  /-- Its removal is told by the next detection, and nothing after it. -/
  unplugged_removed : ∀ before between rest, ((empty.run before).backend.unplug id).2 = true →
    .attached ∈ (empty.run before).heard id → .detect ∉ between → .shutdown ∉ between →
    let taken := before ++ .unplug id :: between
    (empty.run taken).heard id = (empty.run before).heard id ∧
      (empty.run (taken ++ .detect :: rest)).heard id = (empty.run before).heard id ++ [.removed]

theorem delivers_in_order (id : DeviceId) : DeliversInOrder id where
  in_order calls := by
    obtain ⟨standing, reaches⟩ := exists_reaches calls id
    exact reaches.course.inputs_begin
  only_processed before _ elsewhere := heardInput_since before elsewhere
  all_processed _ _ fresh stays lasts := heardInput_process fresh stays lasts
  detached _ _ rest detached waits stays lasts := heard_detach rest detached waits stays lasts
  unplugged _ _ rest elsewhere unplugged announced :=
    heardInput_unplug rest elsewhere unplugged announced
  unplugged_removed _ _ rest unplugged announced waits lasts :=
    heard_unplug_detect rest unplugged announced waits lasts

/-- The release comes after the last processing and is lost with the pad. -/
example :
    let pad : Call := .attach ((VirtualPad.named "Pad").buttons 1) (.buttons 1 (.named "Pad"))
    let calls := [pad, .press 0 0, .process, .release 0 0, .unplug 0, .process, .detect]
    (empty.run calls).acceptedInput 0 = [.button 0 true, .button 0 false] ∧
      (empty.run calls).heard 0 = [.attached, .button 0 true, .removed] := by
  decide

end GamepadInput.VirtualBackend
