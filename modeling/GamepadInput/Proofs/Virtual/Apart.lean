import GamepadInput.Proofs.Virtual.Course

/-!
# Pads do not disturb one another

All pads of a backend share its registry and its two queues.  Still, a host sees of one pad what the
part of the run makes of it that concerns the pad: its attach, the calls that name it, and every
detection, processing and shutdown.  A backend with no other pad shows the same when it is asked
this part alone (`trace_alone`), so two runs that share the part are not told apart
(`sights_eq_of_part_eq`).

Two things of a pad do tell of others, its number and its path; both count pads.
-/

namespace GamepadInput

/-! ## Records without what counts pads -/

/-- The record without its number and its path. -/
def Device.uncounted (device : Device) : Device :=
  { device with id := 0, metadata := { device.metadata with path := none } }

def Notice.uncounted (notice : Notice) : Notice :=
  { notice with device := notice.device.uncounted }

def Entry.uncounted {α : Type} (entry : Entry α) : Entry α :=
  { entry with device := entry.device.uncounted }

namespace Device

theorem uncounted_apply (device : Device) (kind : EventKind) :
    (device.apply kind).uncounted = device.uncounted.apply kind := by
  cases kind <;> rfl

theorem uncounted_replay (device : Device) (kinds : List EventKind) :
    (device.replay kinds).uncounted = device.uncounted.replay kinds := by
  induction kinds generalizing device with
  | nil => rfl
  | cons kind kinds ih => rw [replay_cons, replay_cons, ih, uncounted_apply]

theorem uncounted_hears (device : Device) (kinds : List EventKind) :
    (device.hears kinds).map (·.uncounted) = device.uncounted.hears kinds := by
  induction kinds generalizing device with
  | nil => rfl
  | cons kind kinds ih =>
    rw [hears, List.map_cons, ih, uncounted_apply, hears]
    simp only [Notice.uncounted, uncounted_apply]

end Device

namespace Standing

variable {α : Type} (standing : Standing α)

def uncounted : Standing α → Standing α
  | absent => absent
  | present entry announced waiting => present entry.uncounted announced waiting
  | unplugged entry => unplugged entry.uncounted
  | gone => gone

/-- The standing of a live device after it has queued input. -/
def reported (data : α) (kinds : List EventKind) : Standing α → Standing α
  | present entry announced waiting => present { entry with data } announced (waiting ++ kinds)
  | standing => standing

/-- The standing of a live device after it was taken away. -/
def pulled : Standing α → Standing α
  | present entry announced _ => if announced then unplugged entry else gone
  | standing => standing

theorem live?_uncounted : standing.uncounted.live? = standing.live?.map (·.uncounted) := by
  cases standing <;> rfl

theorem kept?_uncounted : standing.uncounted.kept? = standing.kept?.map (·.uncounted) := by
  cases standing <;> rfl

theorem isAbsent_uncounted : standing.uncounted.isAbsent = standing.isAbsent := by
  cases standing <;> rfl

theorem orderly_uncounted : standing.uncounted.orderly ↔ standing.orderly := by
  cases standing <;> rfl

theorem reported_uncounted (data : α) (kinds : List EventKind) :
    standing.uncounted.reported data kinds = (standing.reported data kinds).uncounted := by
  cases standing <;> rfl

theorem pulled_uncounted : standing.uncounted.pulled = standing.pulled.uncounted := by
  cases standing with
  | present entry announced waiting => cases announced <;> rfl
  | absent | unplugged | gone => rfl

theorem detected_uncounted : standing.uncounted.detected = standing.detected.uncounted := by
  cases standing <;> rfl

theorem announcement_uncounted :
    standing.uncounted.announcement = standing.announcement.map (·.uncounted) := by
  cases standing with
  | absent | gone => rfl
  | present | unplugged => exact (Device.uncounted_hears _ _).symm

theorem processed_uncounted : standing.uncounted.processed = standing.processed.uncounted := by
  cases standing with
  | absent | unplugged | gone => rfl
  | present entry announced waiting =>
    simp only [uncounted, processed, Entry.uncounted]
    split
    · rfl
    · rw [← Device.uncounted_replay]

theorem delivery_uncounted :
    standing.uncounted.delivery = standing.delivery.map (·.uncounted) := by
  cases standing with
  | absent | unplugged | gone => rfl
  | present entry announced waiting =>
    cases waiting with
    | nil => rfl
    | cons => exact (Device.uncounted_hears _ _).symm

theorem cleared_uncounted : standing.uncounted.cleared = standing.cleared.uncounted := by
  cases standing <;> rfl

/-- What does not read the counts comes out the same, but for the counts, of two standings that are
the same but for theirs. -/
theorem congr_uncounted {β : Type} {f : Standing α → β} {blank : β → β}
    (blind : ∀ standing, f standing.uncounted = blank (f standing)) {here there : Standing α}
    (same : here.uncounted = there.uncounted) : blank (f here) = blank (f there) := by
  rw [← blind, same, blind]

end Standing

namespace VirtualBackend

/-! ## What a host is answered -/

inductive Answer where
  | number (id : DeviceId)
  | told (yes : Bool)
  | counted (events : Nat)
  | delivered (notices : List Notice)
  | done
  deriving DecidableEq

/-- One call and its answer. -/
def ask (backend : VirtualBackend) : Call → Except Overflow (VirtualBackend × Answer)
  | .attach pad _ => .ok ((backend.attach pad).1, .number (backend.attach pad).2)
  | .press id button => .ok ((backend.press id button).1, .told (backend.press id button).2)
  | .release id button => .ok ((backend.release id button).1, .told (backend.release id button).2)
  | .moveAxis id axis raw =>
    (backend.moveAxis id axis raw).map fun (after, count) => (after, .counted count)
  | .setAxis id axis value =>
    .ok ((backend.setAxis id axis value).1, .told (backend.setAxis id axis value).2)
  | .detach id => .ok ((backend.detach id).1, .told (backend.detach id).2)
  | .unplug id => .ok ((backend.unplug id).1, .told (backend.unplug id).2)
  | .detect => .ok (backend.detect.1, .delivered backend.detect.2)
  | .process => .ok (backend.process.1, .delivered backend.process.2)
  | .shutdown => .ok (backend.shutdown, .done)

/-- A call of a run. -/
structure Turn where
  before : VirtualBackend
  call : Call
  answer : Answer
  after : VirtualBackend

/-- Calls in order.  A run ends at a sample that overflows. -/
def trace (backend : VirtualBackend) : List Call → Except Overflow (List Turn × VirtualBackend)
  | [] => .ok ([], backend)
  | call :: rest => do
    let (there, answer) ← backend.ask call
    let (turns, last) ← there.trace rest
    pure (⟨backend, call, answer, there⟩ :: turns, last)

/-! ## What concerns one pad -/

/-- A call concerns a pad if it attaches the pad, names it once it was attached, or is about every
pad.  `next` is the number of the next pad. -/
def Call.concerns (id next : DeviceId) : Call → Bool
  | .attach .. => next = id
  | .press other _ | .release other _ | .moveAxis other .. | .setAxis other .. | .detach other
  | .unplug other => other = id && other < next
  | .detect | .process | .shutdown => true

/-- The same call, naming another pad if it names one. -/
def Call.renamed (id : DeviceId) : Call → Call
  | .press _ button => .press id button
  | .release _ button => .release id button
  | .moveAxis _ axis raw => .moveAxis id axis raw
  | .setAxis _ axis value => .setAxis id axis value
  | .detach _ => .detach id
  | .unplug _ => .unplug id
  | .attach pad made => .attach pad made
  | .detect => .detect
  | .process => .process
  | .shutdown => .shutdown

/-- What an answer says of a pad: of a number whether it is that of the pad, of what was delivered
what was heard of the pad. -/
def Answer.about (id : DeviceId) : Answer → Answer
  | .number other => .told (other = id)
  | .delivered notices => .delivered ((heardOf notices id).map (·.uncounted))
  | answer => answer

/-- The record of a pad, if it is live, and if it is live or retired. -/
structure Records where
  live : Option Device
  kept : Option Device
  deriving DecidableEq

def records (backend : VirtualBackend) (id : DeviceId) : Records where
  live := (backend.hub.registry.get? id).map (·.device.uncounted)
  kept := (backend.hub.registry.find? id).map (·.device.uncounted)

namespace Turn

def concerns (id : DeviceId) (turn : Turn) : Bool :=
  turn.call.concerns id turn.before.hub.registry.nextId

/-- What a host sees of a pad at a turn: what it is answered, and the records after it. -/
def sight (id : DeviceId) (turn : Turn) : Answer × Records :=
  (turn.answer.about id, turn.after.records id)

end Turn

/-- The calls of a run that concern a pad, whatever its number. -/
def part (id : DeviceId) (turns : List Turn) : List Call :=
  (turns.filter (·.concerns id)).map (·.call.renamed 0)

/-- What a host sees of a pad at these calls. -/
def sights (id : DeviceId) (turns : List Turn) : List (Answer × Records) :=
  (turns.filter (·.concerns id)).map (·.sight id)

section Parts

variable {id : DeviceId} {turn : Turn} (concerns : turn.concerns id = true) (turns : List Turn)
include concerns

theorem part_cons : part id (turn :: turns) = turn.call.renamed 0 :: part id turns := by
  simp [part, concerns]

theorem sights_cons : sights id (turn :: turns) = turn.sight id :: sights id turns := by
  simp [sights, concerns]

end Parts

/-! ## Calls that name a pad -/

/-- What a pad that takes input makes of a call other than its unplugging: its state after it, and
the events it queues. -/
def respond (state : VirtualPadState) : Call → Except Overflow (VirtualPadState × List EventKind)
  | .press _ button =>
    let (buttons, kinds) := state.buttons.press button true
    .ok ({ state with buttons }, kinds)
  | .release _ button =>
    let (buttons, kinds) := state.buttons.press button false
    .ok ({ state with buttons }, kinds)
  | .moveAxis _ axis raw =>
    (state.layout.feed axis raw).map fun (layout, changes) =>
      ({ state with layout }, changes.map .axis)
  | .setAxis _ axis value =>
    let (layout, change) := state.layout.setNormalized axis value
    .ok ({ state with layout }, change.toList.map .axis)
  | .detach _ => .ok ({ state with ended := true }, [.removed])
  | .attach .. | .unplug _ | .detect | .process | .shutdown => .ok (state, [])

/-- The answer to a call that queued these events. -/
def Call.verdict (kinds : List EventKind) : Call → Answer
  | .moveAxis .. => .counted kinds.length
  | _ => .told !kinds.isEmpty

section Naming

variable {backend : VirtualBackend} {id : DeviceId} {call : Call}

theorem respond_renamed (state : VirtualPadState) (call : Call) (id : DeviceId) :
    respond state (call.renamed id) = respond state call := by
  cases call <;> rfl

theorem verdict_renamed (kinds : List EventKind) (call : Call) (id : DeviceId) :
    (call.renamed id).verdict kinds = call.verdict kinds := by
  cases call <;> rfl

theorem target?_renamed (target : call.target? = some id) (other : DeviceId) :
    (call.renamed other).target? = some other := by
  cases call with
  | attach | detect | process | shutdown => cases target
  | press | release | moveAxis | setAxis | detach | unplug => rfl

theorem renamed_ne_unplug (target : call.target? = some id) (stays : call ≠ .unplug id)
    (other : DeviceId) : call.renamed other ≠ .unplug other := by
  cases call with
  | unplug named =>
    cases target
    exact absurd rfl stays
  | attach | detect | process | shutdown => cases target
  | press | release | moveAxis | setAxis | detach => simp [Call.renamed]

/-- A pad that takes input reports what it makes of a call. -/
theorem ask_accepting {state : VirtualPadState} (accepting : backend.accepting? id = some state)
    (target : call.target? = some id) (stays : call ≠ .unplug id) :
    backend.ask call = (respond state call).map fun (after, kinds) =>
      (backend.report id after kinds, call.verdict kinds) := by
  cases call with
  | attach | detect | process | shutdown => cases target
  | unplug other =>
    cases target
    exact absurd rfl stays
  | press other button | release other button =>
    cases target
    simp [ask, press, release, setButton, accepting, respond, Call.verdict, Except.map]
  | moveAxis other axis raw =>
    cases target
    cases fed : state.layout.feed axis raw <;>
      simp [ask, moveAxis, accepting, respond, Call.verdict, fed, bind, Except.bind, pure,
        Except.pure, Except.map]
  | setAxis other axis value =>
    cases target
    cases changed : (state.layout.setNormalized axis value).2 <;>
      simp [ask, setAxis, accepting, respond, Call.verdict, changed, Except.map]
  | detach other =>
    cases target
    simp [ask, detach, accepting, respond, Call.verdict, Except.map]

/-- A call that names no pad which takes input queues nothing. -/
theorem ask_refusing (refusing : backend.accepting? id = none) (target : call.target? = some id)
    (stays : call ≠ .unplug id) : backend.ask call = .ok (backend, call.verdict []) := by
  cases call with
  | attach | detect | process | shutdown => cases target
  | unplug other =>
    cases target
    exact absurd rfl stays
  | press | release | moveAxis | setAxis | detach =>
    cases target
    simp [ask, press, release, setButton, moveAxis, setAxis, detach, refusing, Call.verdict,
      Except.map]

end Naming

/-! ## A pad and its like -/

open Standing

/-- A backend holds of a pad what another one holds of its first pad. -/
def Alike (backend : VirtualBackend) (id : DeviceId) (lone : VirtualBackend) : Prop :=
  ∃ here there, backend.hub.Stands id here ∧ lone.hub.Stands 0 there ∧
    here.uncounted = there.uncounted

/-- The call is answered of a pad as it is of the other backend's first, and leaves the pads
alike. -/
def Answered (id : DeviceId) (lone : VirtualBackend) (call : Call) (after : VirtualBackend)
    (answer : Answer) : Prop :=
  ∃ next response, lone.ask (call.renamed 0) = .ok (next, response) ∧
    answer.about id = response.about 0 ∧ Alike after id next

section Steps

variable {backend lone after : VirtualBackend} {id : DeviceId} {call : Call} {answer : Answer}

theorem Alike.records_eq (alike : Alike backend id lone) : backend.records id = lone.records 0 := by
  obtain ⟨here, there, stands, stays, same⟩ := alike
  have live := congrArg (Option.map (·.device)) (congr_uncounted live?_uncounted same)
  have kept := congrArg (Option.map (·.device)) (congr_uncounted kept?_uncounted same)
  rw [Option.map_map, Option.map_map] at live kept
  rw [VirtualBackend.records, VirtualBackend.records, stands.get?_eq, stands.find?_eq,
    stays.get?_eq, stays.find?_eq]
  exact congrArg₂ Records.mk live kept

theorem Alike.accepting?_eq (alike : Alike backend id lone) :
    backend.accepting? id = lone.accepting? 0 := by
  obtain ⟨here, there, stands, stays, same⟩ := alike
  have data := congrArg (Option.map (·.data)) (congr_uncounted live?_uncounted same)
  rw [Option.map_map, Option.map_map] at data
  rw [VirtualBackend.accepting?_eq stands, VirtualBackend.accepting?_eq stays]
  exact congrArg _ data

/-- A report takes a live device on, and there is no other that takes input. -/
theorem stands_report {standing : Standing VirtualPadState} {state : VirtualPadState}
    (stands : backend.hub.Stands id standing) (accepting : backend.accepting? id = some state)
    (data : VirtualPadState) (kinds : List EventKind) :
    (backend.report id data kinds).hub.Stands id (standing.reported data kinds) := by
  obtain ⟨entry, announced, waiting, rfl, -, -⟩ := present_of_accepting stands accepting
  exact report_self stands data kinds

/-- Whether a device is there decides the answer to its unplugging. -/
theorem stands_unplug {standing : Standing VirtualPadState}
    (stands : backend.hub.Stands id standing) :
    (backend.unplug id).2 = standing.live?.isSome ∧
      (backend.unplug id).1.hub.Stands id standing.pulled := by
  cases standing with
  | present entry announced waiting =>
    obtain ⟨hub, unplugged, -, next⟩ := stands.unplug?_present
    simpa [unplug, unplugged, Standing.live?, Standing.pulled] using next
  | absent | unplugged | gone =>
    have refused := stands.unplug?_none rfl
    simpa [unplug, refused, Standing.live?, Standing.pulled] using stands

/-- A pad takes a call that names it, or refuses it, as its like does. -/
theorem answered_naming (alike : Alike backend id lone) (target : call.target? = some id)
    (stays : call ≠ .unplug id) (asked : backend.ask call = .ok (after, answer)) :
    Answered id lone call after answer := by
  have accepts := alike.accepting?_eq
  have named := target?_renamed target 0
  have kept := renamed_ne_unplug target stays 0
  cases accepting : backend.accepting? id with
  | none =>
    rw [accepting] at accepts
    rw [ask_refusing accepting target stays, Except.ok.injEq, Prod.mk.injEq] at asked
    obtain ⟨rfl, rfl⟩ := asked
    refine ⟨lone, call.verdict [], ?_, ?_, alike⟩
    · rw [ask_refusing accepts.symm named kept, verdict_renamed]
    · cases call <;> rfl
  | some state =>
    rw [accepting] at accepts
    rw [ask_accepting accepting target stays] at asked
    cases responded : respond state call with
    | error cause => simp [responded, Except.map] at asked
    | ok response =>
      obtain ⟨data, kinds⟩ := response
      simp only [responded, Except.map, Except.ok.injEq, Prod.mk.injEq] at asked
      obtain ⟨rfl, rfl⟩ := asked
      obtain ⟨here, there, stands, abides, same⟩ := alike
      refine ⟨lone.report 0 data kinds, call.verdict kinds, ?_, ?_, here.reported data kinds,
        there.reported data kinds, stands_report stands accepting data kinds,
        stands_report abides accepts.symm data kinds,
        congr_uncounted (reported_uncounted · data kinds) same⟩
      · rw [ask_accepting accepts.symm named kept, respond_renamed, responded]
        simp only [Except.map, verdict_renamed]
      · cases call <;> rfl

theorem answered_unplug (alike : Alike backend id lone)
    (asked : backend.ask (.unplug id) = .ok (after, answer)) :
    Answered id lone (.unplug id) after answer := by
  obtain ⟨here, there, stands, stays, same⟩ := alike
  obtain ⟨told, pulled⟩ := stands_unplug stands
  obtain ⟨reply, leaves⟩ := stands_unplug stays
  have known : here.live?.isSome = there.live?.isSome := by
    simpa using congrArg Option.isSome (congr_uncounted live?_uncounted same)
  cases asked
  refine ⟨(lone.unplug 0).1, .told (lone.unplug 0).2, rfl, ?_, _, _, pulled, leaves,
    congr_uncounted pulled_uncounted same⟩
  rw [told, reply, known]
  rfl

/-- Pads are put in alike, whatever their number is and whatever their path counts. -/
theorem answered_attach {pad : VirtualPad} {made : pad.Made} (alike : Alike backend id lone)
    (next : backend.hub.registry.nextId = id)
    (asked : backend.ask (.attach pad made) = .ok (after, answer)) :
    Answered id lone (.attach pad made) after answer := by
  obtain ⟨here, there, stands, stays, same⟩ := alike
  have absent : there.isAbsent = true := by
    rw [← isAbsent_uncounted, ← same, isAbsent_uncounted]
    exact stands.absent_iff.mpr (Nat.le_of_eq next)
  have first : lone.hub.registry.nextId = 0 := Nat.le_zero.mp (stays.absent_iff.mp absent)
  cases asked
  refine ⟨(lone.attach pad).1, .number (lone.attach pad).2, rfl, ?_, _, _,
    stands.attach_self next _ _, stays.attach_self first _ _, rfl⟩
  have here : (backend.attach pad).2 = id := next
  have there : (lone.attach pad).2 = 0 := first
  simp [Answer.about, here, there]

theorem answered_detect (alike : Alike backend id lone)
    (asked : backend.ask .detect = .ok (after, answer)) :
    Answered id lone .detect after answer := by
  obtain ⟨here, there, stands, stays, same⟩ := alike
  obtain ⟨next, heard⟩ := stands.dispatchDevices
  obtain ⟨follows, told⟩ := stays.dispatchDevices
  cases asked
  refine ⟨lone.detect.1, .delivered lone.detect.2, rfl, ?_, _, _, next, follows,
    congr_uncounted detected_uncounted same⟩
  have heard : heardOf backend.detect.2 id = here.announcement := heard
  have told : heardOf lone.detect.2 0 = there.announcement := told
  rw [Answer.about, Answer.about, heard, told, congr_uncounted announcement_uncounted same]

theorem answered_process (alike : Alike backend id lone)
    (orderly : ∀ standing, backend.hub.Stands id standing → standing.orderly)
    (asked : backend.ask .process = .ok (after, answer)) :
    Answered id lone .process after answer := by
  obtain ⟨here, there, stands, stays, same⟩ := alike
  have settled : there.orderly := by
    rw [← orderly_uncounted, ← same, orderly_uncounted]
    exact orderly here stands
  obtain ⟨next, heard⟩ := stands.dispatchAnnounced (orderly here stands)
  obtain ⟨follows, told⟩ := stays.dispatchAnnounced settled
  cases asked
  refine ⟨lone.process.1, .delivered lone.process.2, rfl, ?_, _, _, next, follows,
    congr_uncounted processed_uncounted same⟩
  have heard : heardOf backend.process.2 id = here.delivery := heard
  have told : heardOf lone.process.2 0 = there.delivery := told
  rw [Answer.about, Answer.about, heard, told, congr_uncounted delivery_uncounted same]

theorem answered_shutdown (alike : Alike backend id lone)
    (asked : backend.ask .shutdown = .ok (after, answer)) :
    Answered id lone .shutdown after answer := by
  obtain ⟨here, there, stands, stays, same⟩ := alike
  cases asked
  exact ⟨lone.shutdown, .done, rfl, rfl, _, _, stands.clear, stays.clear,
    congr_uncounted cleared_uncounted same⟩

/-- A call that concerns a pad is answered of it as of its like. -/
theorem answered_own (alike : Alike backend id lone)
    (orderly : ∀ standing, backend.hub.Stands id standing → standing.orderly)
    (concerns : call.concerns id backend.hub.registry.nextId = true)
    (asked : backend.ask call = .ok (after, answer)) : Answered id lone call after answer := by
  cases call with
  | attach pad made => exact answered_attach alike (of_decide_eq_true concerns) asked
  | detect => exact answered_detect alike asked
  | process => exact answered_process alike orderly asked
  | shutdown => exact answered_shutdown alike asked
  | unplug other =>
    obtain ⟨rfl, -⟩ : other = id ∧ other < backend.hub.registry.nextId := by
      simpa [Call.concerns] using concerns
    exact answered_unplug alike asked
  | press other | release other | moveAxis other | setAxis other | detach other =>
    obtain ⟨rfl, -⟩ : other = id ∧ other < backend.hub.registry.nextId := by
      simpa [Call.concerns] using concerns
    exact answered_naming alike rfl (by simp) asked

/-- Asking is performing, with the answer of the call. -/
theorem backend_perform_of_ask (asked : backend.ask call = .ok (after, answer)) :
    (backend.perform call).backend = after := by
  cases call with
  | moveAxis id axis raw =>
    cases moved : backend.moveAxis id axis raw with
    | error cause => simp [ask, moved, Except.map] at asked
    | ok result =>
      simp only [ask, moved, Except.map, Except.ok.injEq, Prod.mk.injEq] at asked
      simp only [perform, moved, reporting]
      exact asked.1
  | attach | press | release | setAxis | detach | unplug | detect | process | shutdown =>
    cases asked
    rfl

/-- A call that names a pad moves no other, and none that is not there yet. -/
theorem Moves.eq_of_target {standing next : Standing VirtualPadState} {notices : List Notice}
    {kinds : List EventKind} {other : DeviceId} (move : Moves id standing call next notices kinds)
    (target : call.target? = some other) (absent : other = id → standing.isAbsent = true) :
    next = standing := by
  cases move with
  | stay => rfl
  | join | detect | process | shutdown => cases target
  | feed here => cases absent (Option.some.inj (target.symm.trans here))
  | close | unplug => cases absent (Option.some.inj target).symm

/-- A call that does not concern a pad leaves it where it stands. -/
theorem stands_other {standing : Standing VirtualPadState}
    (stands : backend.hub.Stands id standing) (orderly : standing.orderly)
    (concerns : call.concerns id backend.hub.registry.nextId = false)
    (asked : backend.ask call = .ok (after, answer)) : after.hub.Stands id standing := by
  cases call with
  | detect | process | shutdown => cases concerns
  | attach pad made =>
    cases asked
    exact stands.attach_other (of_decide_eq_false concerns) _ _
  | press other | release other | moveAxis other | setAxis other | detach other | unplug other =>
    have early : other = id → standing.isAbsent = true := by
      rintro rfl
      refine stands.absent_iff.mpr ?_
      simpa [Call.concerns] using concerns
    obtain ⟨next, move, follows⟩ := perform_moves stands orderly _
    rw [backend_perform_of_ask asked, move.eq_of_target rfl early] at follows
    exact follows

end Steps

/-! ## Runs -/

section Runs

variable {backend last : VirtualBackend} {id : DeviceId} {calls : List Call} {turns : List Turn}

/-- Runs from the start lead to nothing else. -/
theorem orderly_run {standing : Standing VirtualPadState} (before : List Call)
    (stands : (empty.run before).backend.hub.Stands id standing) : standing.orderly := by
  obtain ⟨reached, reaches⟩ := exists_reaches before id
  rw [stands.unique reaches.stands]
  exact reaches.course.orderly

theorem trace_cons {call : Call} {rest : List Call}
    (ran : backend.trace (call :: rest) = .ok (turns, last)) :
    ∃ there answer others, backend.ask call = .ok (there, answer) ∧
      there.trace rest = .ok (others, last) ∧ turns = ⟨backend, call, answer, there⟩ :: others := by
  cases asked : backend.ask call with
  | error cause => simp [trace, asked, bind, Except.bind] at ran
  | ok result =>
    obtain ⟨there, answer⟩ := result
    cases onward : there.trace rest with
    | error cause => simp [trace, asked, onward, bind, Except.bind] at ran
    | ok others =>
      simp only [trace, asked, onward, bind, Except.bind, pure, Except.pure, Except.ok.injEq,
        Prod.mk.injEq] at ran
      obtain ⟨rfl, rfl⟩ := ran
      exact ⟨there, answer, others.1, rfl, onward, rfl⟩

/-- A run from where a pad has its like shows of it what its part shows of the like. -/
theorem trace_alike (before : List Call) {lone : VirtualBackend}
    (alike : Alike (empty.run before).backend id lone)
    (ran : (empty.run before).backend.trace calls = .ok (turns, last)) :
    ∃ others stop, lone.trace (part id turns) = .ok (others, stop) ∧
      sights id turns = others.map (·.sight 0) ∧ last.records id = stop.records 0 := by
  induction calls generalizing before lone turns with
  | nil =>
    cases ran
    exact ⟨[], lone, rfl, rfl, alike.records_eq⟩
  | cons call rest ih =>
    obtain ⟨there, answer, others, asked, onward, rfl⟩ := trace_cons ran
    have reached : (empty.run (before ++ [call])).backend = there := by
      rw [run_append]
      exact backend_perform_of_ask asked
    rw [← reached] at onward
    cases concerns : call.concerns id (empty.run before).backend.hub.registry.nextId with
    | false =>
      obtain ⟨here, likes, stands, stays, same⟩ := alike
      have alike : Alike (empty.run (before ++ [call])).backend id lone := by
        refine ⟨here, likes, ?_, stays, same⟩
        rw [reached]
        exact stands_other stands (orderly_run before stands) concerns asked
      obtain ⟨lones, stop, alone, seen, ends⟩ := ih _ alike onward
      refine ⟨lones, stop, ?_, ?_, ends⟩
      · simpa [part, Turn.concerns, concerns] using alone
      · simpa [sights, Turn.concerns, concerns] using seen
    | true =>
      obtain ⟨next, response, replied, agrees, alike⟩ :=
        answered_own alike (fun _ => orderly_run before) concerns asked
      rw [← reached] at alike
      obtain ⟨lones, stop, alone, seen, ends⟩ := ih _ alike onward
      have mine : Turn.concerns id ⟨(empty.run before).backend, call, answer, there⟩ = true :=
        concerns
      refine ⟨⟨lone, call.renamed 0, response, next⟩ :: lones, stop, ?_, ?_, ends⟩
      · rw [part_cons mine, trace, replied]
        simp only [bind, Except.bind, alone, pure, Except.pure]
      · have records : there.records id = next.records 0 := reached ▸ alike.records_eq
        rw [sights_cons mine, seen, List.map_cons, Turn.sight, Turn.sight, agrees, records]

/-- A backend asked the part that concerns a pad, and nothing else, shows of its first pad what the
whole run showed of this one. -/
theorem trace_alone (id : DeviceId) (ran : empty.trace calls = .ok (turns, last)) :
    ∃ others stop, empty.trace (part id turns) = .ok (others, stop) ∧
      sights id turns = others.map (·.sight 0) ∧ last.records id = stop.records 0 :=
  trace_alike [] ⟨.absent, .absent, .empty id, .empty 0, rfl⟩ ran

/-- Two runs that share the part that concerns a pad show the same of it: each of these calls is
answered the same, with the same events of the pad, and leaves the same buttons and axes, and so
does the end of the run.  A run cut short is a run too, so this holds wherever two runs have come by
the same part. -/
theorem sights_eq_of_part_eq {first second : List Call} {other : DeviceId} {others : List Turn}
    {stop : VirtualBackend} (ran : empty.trace first = .ok (turns, last))
    (again : empty.trace second = .ok (others, stop)) (same : part id turns = part other others) :
    sights id turns = sights other others ∧ last.records id = stop.records other := by
  obtain ⟨lones, lone, alone, seen, ends⟩ := trace_alone id ran
  obtain ⟨mates, mate, likewise, shown, closes⟩ := trace_alone other again
  rw [same, likewise, Except.ok.injEq, Prod.mk.injEq] at alone
  obtain ⟨rfl, rfl⟩ := alone
  exact ⟨seen.trans shown.symm, ends.trans closes.symm⟩

/-- A pad on its own, and the same pad between two others that are played and leave. -/
theorem sights_eq_of_part_eq_crowded :
    let attach : Call := .attach ((VirtualPad.named "Pad").buttons 2) (.buttons 2 (.named "Pad"))
    let first := [attach, .detect, .press 0 1, .process, .unplug 0, .detect]
    let second := [.press 1 0, attach, .press 0 0, attach, .detect, attach, .press 1 1, .detach 0,
      .process, .press 2 1, .unplug 1, .unplug 2, .detect]
    ∃ turns last others stop, empty.trace first = .ok (turns, last) ∧
      empty.trace second = .ok (others, stop) ∧ part 0 turns = part 1 others ∧
      sights 0 turns = sights 1 others ∧ last.records 0 = stop.records 1 := by
  intro attach first second
  have ran : empty.trace first = .ok (_, _) := rfl
  have again : empty.trace second = .ok (_, _) := rfl
  refine ⟨_, _, _, _, ran, again, rfl, ?_⟩
  exact sights_eq_of_part_eq ran again rfl

/-- The second of two pads: a button of it is down once its input was processed, and the record is
gone from the live ones once the pad is unplugged. -/
example :
    let attach : Call := .attach ((VirtualPad.named "Pad").buttons 2) (.buttons 2 (.named "Pad"))
    let calls := [attach, .press 0 0, attach, .detect, .press 1 1, .detach 0, .process, .unplug 1,
      .press 1 1]
    (empty.trace calls).map (fun ran =>
      (sights 1 ran.1).map fun sight => sight.2.live.map (·.button 1)) =
      .ok [some false, some false, some false, some true, none, none] := by
  decide +kernel

end Runs

end VirtualBackend

end GamepadInput
