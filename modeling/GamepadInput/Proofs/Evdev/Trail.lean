import GamepadInput.Proofs.Evdev.Turns
import Mathlib.Data.List.Nodup

/-!
# What is heard of readers

The trail of a device relates where it stands to what was heard of it and what its reader queued.
Every step carries it on (`Trail.step`), so every run has it, however the steps of the consumer and
of the readers are mixed.
-/

namespace GamepadInput.Evdev

namespace Effect

/-- What the listeners received of a device. -/
def heard (effect : Effect) (id : DeviceId) : List EventKind :=
  (heardOf effect.notices id).map (·.kind)

/-- What the reader of a device queued. -/
def sent (effect : Effect) (id : DeviceId) : List EventKind := kindsOf effect.queued id

end Effect

/-- Where a device stands, what was heard of it, what its reader queued, and whether its reader was
started. -/
inductive Trail : Stage → List EventKind → List EventKind → Bool → Prop where
  | absent : Trail .absent [] [] false
  /-- What the reader queued was delivered, is being delivered, or waits. -/
  | live {entry : Entry Node} {announced : Bool} {delivered batch queue : List EventKind}
      (follows : entry.data.reader.Follows (delivered ++ batch ++ queue))
      (isInput : ∀ kind ∈ delivered, kind.isInput = true)
      (quiet : announced = false → delivered = []) :
      Trail (.live entry announced batch queue)
        (if announced then .attached :: delivered else []) (delivered ++ batch ++ queue) true
  | stopping {entry : Entry Node} {delivered sent : List EventKind}
      (isInput : ∀ kind ∈ delivered, kind.isInput = true) (begins : delivered <+: sent) :
      Trail (.stopping entry) (.attached :: delivered) sent true
  /-- Its reader could not be started. -/
  | failed : Trail .gone [] [] false
  /-- Gone by a shutdown. -/
  | dropped {delivered sent : List EventKind}
      (isInput : ∀ kind ∈ delivered, kind.isInput = true) (begins : delivered <+: sent) :
      Trail .gone (.attached :: delivered) sent true
  | left {inputs : List EventKind} (isInput : ∀ kind ∈ inputs, kind.isInput = true) :
      Trail .gone (.attached :: inputs ++ [.removed]) (inputs ++ [.removed]) true

namespace Trail

variable {id : DeviceId} {stage after : Stage} {move : Step} {heard sent kinds : List EventKind}
  {notices : List Notice} {started starts : Bool}

/-- Every step carries the trail of a device on. -/
theorem step (trail : Trail stage heard sent started)
    (turns : Turns id stage move after notices kinds starts) :
    Trail after (heard ++ notices.map (·.kind)) (sent ++ kinds) (started || starts) := by
  cases turns with
  | stay => simpa using trail
  | @opens listed entry decoder fresh =>
    cases trail
    have follows := Reader.follows_ofDecoder decoder
    rw [← fresh] at follows
    exact @live entry false [] [] [] follows nofun fun _ => rfl
  | fails =>
    cases trail
    exact .failed
  | @announced entry batch queue =>
    cases trail with
    | @live _ _ delivered _ _ follows isInput quiet =>
      cases quiet rfl
      simpa using @live entry true [] batch queue follows nofun nofun
  | @taken entry announced queue =>
    cases trail with
    | @live _ _ delivered _ _ follows isInput quiet =>
      have same : delivered ++ [] ++ queue = delivered ++ queue ++ [] := by simp
      rw [same] at follows ⊢
      simpa using live follows isInput quiet
  | @delivered entry kind batch queue stays =>
    cases trail with
    | @live _ _ delivered _ _ follows isInput quiet =>
      have same : delivered ++ kind :: batch ++ queue = delivered ++ [kind] ++ batch ++ queue := by
        simp
      have input : kind.isInput = true := follows.isInput (by simp) stays
      have onward := @live { entry with device := entry.device.apply kind } true
        (delivered ++ [kind]) batch queue (same ▸ follows) ?_ nofun
      · rw [same]
        simpa using onward
      · intro other member
        rcases List.mem_append.mp member with early | last
        · exact isInput other early
        · rwa [List.mem_singleton.mp last]
  | @removed entry batch queue =>
    cases trail with
    | @live _ _ delivered _ _ follows isInput quiet =>
      rw [List.append_assoc] at follows
      have nothing : batch = [] ∧ queue = [] := by
        simpa using follows.removed_ends.1
      rw [nothing.1, nothing.2]
      simpa using left isInput
  | @goes entry announced batch queue kinds _ reader goes =>
    cases trail with
    | @live _ _ delivered _ _ follows isInput quiet =>
      have onward := follows.goes goes
      have same : delivered ++ batch ++ queue ++ kinds =
          delivered ++ batch ++ (queue ++ kinds) := by
        simp
      rw [same] at onward ⊢
      simpa using @live { entry with data := { entry.data with reader } } announced delivered batch
        (queue ++ kinds) onward isInput quiet
  | goesStopping goes =>
    cases trail with
    | stopping isInput begins =>
      simpa using stopping isInput (begins.trans (List.prefix_append ..))
  | @takenOut entry queue =>
    cases trail with
    | @live _ _ delivered _ _ follows isInput quiet =>
      have begins : delivered <+: delivered ++ [] ++ queue := by simp
      simpa using stopping isInput begins
  | stopped =>
    cases trail with
    | stopping isInput begins => simpa using dropped isInput begins

end Trail

/-! ## Runs -/

namespace Session

variable {session : Session} {id : DeviceId} {stage : Stage} {effect : Effect} {steps : List Step}
  {heard sent : List EventKind} {started : Bool}

/-- A relation that the steps of a run keep is kept by the run. -/
theorem run?_keeps {P : Stage → List EventKind → List EventKind → Bool → Prop}
    (keeps : ∀ {stage move after heard sent started notices kinds starts}, move ∈ steps →
      P stage heard sent started → Turns id stage move after notices kinds starts →
      P after (heard ++ notices.map (·.kind)) (sent ++ kinds) (started || starts))
    (holds : session.Holds id stage) (kept : P stage heard sent started)
    (ran : session.run? steps = some effect) :
    ∃ after, effect.session.Holds id after ∧
      P after (heard ++ effect.heard id) (sent ++ effect.sent id)
        (started || decide (id ∈ effect.started)) := by
  induction steps generalizing session stage heard sent started effect with
  | nil =>
    cases ran
    exact ⟨stage, holds, by simpa [Effect.silent, Effect.heard, Effect.sent] using kept⟩
  | cons move rest ih =>
    simp only [run?, bind, Option.bind_eq_some_iff, pure, Option.some.injEq] at ran
    obtain ⟨first, taken, others, went, rfl⟩ := ran
    obtain ⟨next, turns, there⟩ := step?_turns holds taken
    have onward := keeps (List.mem_cons_self ..) kept turns
    obtain ⟨after, arrives, last⟩ :=
      ih (fun member => keeps (List.mem_cons_of_mem _ member)) there onward went
    refine ⟨after, arrives, ?_⟩
    simpa [Effect.heard, Effect.sent, List.append_assoc, Bool.or_assoc] using last

/-- Before the first step there is nothing of any device. -/
theorem holds_ofDirectory (directory : String) (id : DeviceId) :
    (ofBackend (.ofDirectory directory)).Holds id .absent where
  registry := rfl
  entries := rfl
  pending := by
    intro _ is_
    cases is_
    rfl
  opened := unopened_iff rfl rfl
  absent_iff := ⟨fun _ => Nat.zero_le id, fun _ => rfl⟩
  settled := unless_stopping rfl

theorem run?_trail {directory : String}
    (ran : (ofBackend (.ofDirectory directory)).run? steps = some effect) (id : DeviceId) :
    ∃ stage, effect.session.Holds id stage ∧
      Trail stage (effect.heard id) (effect.sent id) (decide (id ∈ effect.started)) :=
  run?_keeps (P := Trail) (fun _ trail turns => trail.step turns) (holds_ofDirectory directory id)
    .absent ran

/-! ## Live devices -/

theorem Holds.mem_live_iff (holds : session.Holds id stage) :
    id ∈ session.backend.registry.devices.map (·.id) ↔ stage.live?.isSome = true := by
  rw [← holds.get?_eq, Registry.get?, List.find?_isSome]
  simp only [Registry.devices, List.map_map, List.mem_map, Function.comp_apply, decide_eq_true_eq]
  rfl

/-- No number is given to two live devices. -/
theorem nodup_live (holds : ∀ id, ∃ stage, session.Holds id stage) :
    (session.backend.registry.devices.map (·.id)).Nodup := by
  rw [List.nodup_iff_count_le_one]
  intro id
  obtain ⟨stage, here⟩ := holds id
  have live := congrArg (fun registry => registry.live.length) here.registry
  have count : (session.backend.registry.devices.map (·.id)).count id =
      (session.backend.registry.live.filter (·.id = id)).length := by
    simp only [Registry.devices, List.count, List.countP_eq_length_filter, List.map_map,
      List.filter_map, List.length_map]
    rfl
  simp only [Registry.only] at live
  rw [count, live]
  cases stage.live? <;> simp

/-- A device that is gone was told to be, unless nothing was heard of it. -/
def Told : Stage → List EventKind → Prop
  | .absent, _ | .live .., _ => True
  | .stopping _, _ => False
  | .gone, heard => heard = [] ∨ .removed ∈ heard

/-- Only a shutdown lets devices go without a word. -/
theorem Told.step {after : Stage} {move : Step} {kinds : List EventKind} {notices : List Notice}
    {starts : Bool} (told : Told stage heard) (trail : Trail stage heard sent started)
    (turns : Turns id stage move after notices kinds starts) (lasts : move ≠ .beginShutdown) :
    Told after (heard ++ notices.map (·.kind)) := by
  cases turns with
  | stay => simpa using told
  | opens | announced | taken | delivered | goes => trivial
  | fails =>
    cases trail
    exact .inl rfl
  | removed => exact .inr (by simp)
  | goesStopping => exact told
  | takenOut => exact absurd rfl lasts
  | stopped => exact told.elim

/-! ## What the listeners hear -/

end Session

/-- What is heard of a device against what its reader queued. -/
inductive HearsReader : List EventKind → List EventKind → Prop where
  /-- The attach, then the beginning of what was queued, in which there is no removal. -/
  | connected {delivered sent : List EventKind}
      (isInput : ∀ kind ∈ delivered, kind.isInput = true) (begins : delivered <+: sent) :
      HearsReader (.attached :: delivered) sent
  /-- The attach, then everything that was queued, the removal being the last of it. -/
  | disconnected {inputs : List EventKind} (isInput : ∀ kind ∈ inputs, kind.isInput = true) :
      HearsReader (.attached :: inputs ++ [.removed]) (inputs ++ [.removed])

/-- A device whose reader was started is heard in order, unless it is to be announced next. -/
theorem Trail.hearsReader {stage : Stage} {heard sent : List EventKind}
    (trail : Trail stage heard sent true) :
    stage.isOpened = true ∧ heard = [] ∨ HearsReader heard sent := by
  cases trail with
  | @live entry announced delivered batch queue follows isInput quiet =>
    cases announced with
    | false => exact .inl ⟨rfl, rfl⟩
    | true => exact .inr (.connected isInput (by simp [List.append_assoc]))
  | stopping isInput begins | dropped isInput begins => exact .inr (.connected isInput begins)
  | left isInput => exact .inr (.disconnected isInput)

namespace Session

variable {session : Session} {id : DeviceId} {stage : Stage} {effect : Effect} {steps : List Step}
  {heard sent : List EventKind} {started : Bool}

/-- Between two calls a device is live just if it was announced and not told to be gone. -/
theorem Holds.live_iff_heard (holds : session.Holds id stage)
    (trail : Trail stage heard sent started) (told : Told stage heard)
    (settled : session.consumer.opened? = none) :
    stage.live?.isSome = true ↔ .attached ∈ heard ∧ .removed ∉ heard := by
  cases trail with
  | absent | failed => simp [Stage.live?]
  | stopping => exact told.elim
  | @live entry announced delivered batch queue follows isInput quiet =>
    have known : announced = true := by
      have iff := holds.opened
      rw [settled] at iff
      simpa [Stage.isOpened] using iff
    have stays : .removed ∉ delivered := fun member => by cases isInput _ member
    simp [Stage.live?, known, stays]
  | @dropped delivered sent isInput begins =>
    have stays : .removed ∉ delivered := fun member => by cases isInput _ member
    rcases told with nothing | last
    · cases nothing
    · simp [stays] at last
  | left => simp [Stage.live?]

theorem of_run?_append {move : Step} (ran : session.run? (steps ++ [move]) = some effect) :
    ∃ there last, session.run? steps = some there ∧ there.session.step? move = some last ∧
      effect.session = last.session := by
  induction steps generalizing session effect with
  | nil =>
    simp only [List.nil_append, run?, bind, Option.bind_eq_some_iff, pure, Option.some.injEq,
      exists_eq_left'] at ran
    obtain ⟨last, taken, rfl⟩ := ran
    exact ⟨_, last, rfl, taken, rfl⟩
  | cons first rest ih =>
    simp only [List.cons_append, run?, bind, Option.bind_eq_some_iff, pure,
      Option.some.injEq] at ran
    obtain ⟨begun, taken, others, went, rfl⟩ := ran
    obtain ⟨there, last, came, ends, same⟩ := ih went
    refine ⟨⟨there.session, begun.notices ++ there.notices, begun.queued ++ there.queued,
      begun.started ++ there.started⟩, last, ?_, ends, same⟩
    simp [run?, taken, came]

/-- A shutdown leaves no device behind. -/
theorem Holds.after_shutdown {directory : String} {earlier : List Step}
    (ran : (ofBackend (.ofDirectory directory)).run? (earlier ++ [.endShutdown]) = some effect)
    (holds : effect.session.Holds id stage) : stage = .absent ∨ stage = .gone := by
  obtain ⟨there, last, came, ends, same⟩ := of_run?_append ran
  obtain ⟨before, held, -⟩ := run?_trail came id
  rw [same] at holds
  obtain ⟨⟨backend, consumer⟩, notices, queued, started⟩ := there
  simp only [step?, endShutdown?] at ends
  split at ends
  · cases ends
    have only := holds.registry.symm.trans held.registry
    have nowhere : stage.live? = none := by
      have lives := congrArg Registry.live only
      simp only [held.settled rfl] at lives
      cases live : stage.live? with
      | none => rfl
      | some entry => simp [live] at lives
    cases stage with
    | absent => exact .inl rfl
    | gone => exact .inr rfl
    | live => cases nowhere
    | stopping => cases holds.entries
  all_goals cases ends

/-- Nothing more is heard of a device that is gone, and nothing is queued for it. -/
theorem Holds.run?_gone (holds : session.Holds id .gone) (ran : session.run? steps = some effect) :
    effect.session.Holds id .gone ∧ effect.heard id = [] ∧ effect.sent id = [] := by
  obtain ⟨stage, arrives, rfl, silent⟩ := @run?_keeps session id .gone effect steps [] [] false
    (fun stage heard sent _ => stage = .gone ∧ heard = [] ∧ sent = [])
    (fun _ kept turns => by
      obtain ⟨rfl, rfl, rfl⟩ := kept
      cases turns
      exact ⟨rfl, rfl, rfl⟩)
    holds ⟨rfl, rfl, rfl⟩ ran
  exact ⟨arrives, silent⟩

/-- Before the first step and after a shutdown, every device is yet to come or gone. -/
theorem Holds.of_fresh {directory : String}
    (came : (ofBackend (.ofDirectory directory)).run? steps = some effect)
    (fresh : steps = [] ∨ ∃ earlier, steps = earlier ++ [.endShutdown])
    (holds : effect.session.Holds id stage) : stage = .absent ∨ stage = .gone := by
  rcases fresh with rfl | ⟨earlier, rfl⟩
  · cases came
    have absent := holds.absent_iff.mpr (Nat.zero_le id)
    cases stage with
    | absent => exact .inl rfl
    | live | stopping | gone => cases absent
  · exact holds.after_shutdown came

/-- Between two calls, a device is live just if it was heard to come, and not to go, since the last
shutdown. -/
theorem live_iff_heard_since {directory : String} {before since : List Step} {there : Effect}
    (came : (ofBackend (.ofDirectory directory)).run? before = some there)
    (fresh : before = [] ∨ ∃ earlier, before = earlier ++ [.endShutdown])
    (went : there.session.run? since = some effect) (lasts : .beginShutdown ∉ since)
    (idle : effect.session.consumer = .idle) (id : DeviceId) :
    ∃ stage, effect.session.Holds id stage ∧
      (stage.live?.isSome = true ↔ .attached ∈ effect.heard id ∧ .removed ∉ effect.heard id) := by
  obtain ⟨start, holds, -⟩ := run?_trail came id
  rcases holds.of_fresh came fresh with rfl | rfl
  · obtain ⟨stage, arrives, trail, told⟩ := run?_keeps
      (P := fun stage heard sent started => Trail stage heard sent started ∧ Told stage heard)
      (fun member kept turns => ⟨kept.1.step turns, kept.2.step kept.1 turns
        fun same => lasts (same ▸ member)⟩)
      holds ⟨.absent, trivial⟩ went
    exact ⟨stage, arrives, arrives.live_iff_heard trail told (by rw [idle]; rfl)⟩
  · obtain ⟨arrives, silent, -⟩ := holds.run?_gone went
    exact ⟨.gone, arrives, by simp [silent, Stage.live?]⟩

/-- However the steps of the consumer and of the readers are mixed: a device whose reader was
started is heard in the order of its reader, and it is announced before the consumer does anything
else.  Between two calls, the live devices are those of which the attach was heard since the last
shutdown and the removal was not. -/
theorem hears_readers (directory : String) :
    (∀ steps effect, (ofBackend (.ofDirectory directory)).run? steps = some effect →
      ∀ id ∈ effect.started,
        effect.session.consumer.opened? = some id ∧ effect.heard id = [] ∨
          HearsReader (effect.heard id) (effect.sent id)) ∧
      ∀ before there since effect,
        (ofBackend (.ofDirectory directory)).run? before = some there →
        (before = [] ∨ ∃ earlier, before = earlier ++ [.endShutdown]) →
        there.session.run? since = some effect → .beginShutdown ∉ since →
        effect.session.consumer = .idle →
        (effect.session.backend.registry.devices.map (·.id)).Nodup ∧
          ∀ id, id ∈ effect.session.backend.registry.devices.map (·.id) ↔
            .attached ∈ effect.heard id ∧ .removed ∉ effect.heard id := by
  refine ⟨?_, ?_⟩
  · intro steps effect ran id starts
    obtain ⟨stage, holds, trail⟩ := run?_trail ran id
    rw [decide_eq_true starts] at trail
    rcases trail.hearsReader with ⟨opened, nothing⟩ | hears
    · exact .inl ⟨holds.opened.mpr opened, nothing⟩
    · exact .inr hears
  · intro before there since effect came fresh went lasts idle
    have each := live_iff_heard_since came fresh went lasts idle
    refine ⟨nodup_live fun id => ?_, fun id => ?_⟩
    · obtain ⟨stage, holds, -⟩ := each id
      exact ⟨stage, holds⟩
    · obtain ⟨stage, holds, iff⟩ := each id
      rw [holds.mem_live_iff, iff]

/-- Answers of a controller with one stick and one button. -/
def stick : Answers where
  kinds? := some (.ofCodes kindBits [keyKind, axisKind])
  keys? := some (.ofCodes keyBits [0x130])
  axes? := some (.ofCodes axisBits [axisX, axisY])
  ranges := [⟨axisX, 0, 255⟩, ⟨axisY, 0, 255⟩]
  name? := none
  ids? := none

/-- A stick whose button goes down before it is announced, and which ends while its input is being
delivered. -/
def eager : List Step :=
  [.start, .beginDetect 1 true, .examine ⟨"event0", some 1, some ⟨0, stick, true⟩⟩,
    .read 0 (.sample ⟨keyKind, 0x130, 1⟩), .send 0, .announce, .endDetect,
    .beginProcess, .read 0 .ended, .send 0, .deliver, .endProcess]

theorem hears_readers_eager :
    ∃ effect, (ofBackend (.ofDirectory "/dev/input")).run? eager = some effect ∧
      effect.heard 0 = [.attached, .button 0 true] ∧
      effect.sent 0 = [.button 0 true, .removed] ∧
      HearsReader (effect.heard 0) (effect.sent 0) ∧
      0 ∈ effect.session.backend.registry.devices.map (·.id) := by
  have known : ((ofBackend (.ofDirectory "/dev/input")).run? eager).map (fun effect =>
      (effect.heard 0, effect.sent 0, effect.started, effect.session.consumer)) =
      some ([.attached, .button 0 true], [.button 0 true, .removed], [0], .idle) := by
    decide +kernel
  obtain ⟨effect, ran, is_⟩ := Option.map_eq_some_iff.mp known
  simp only [Prod.mk.injEq] at is_
  obtain ⟨heard, sent, started, idle⟩ := is_
  have begun : (ofBackend (.ofDirectory "/dev/input")).run? [] =
      some (.silent (ofBackend (.ofDirectory "/dev/input"))) := rfl
  have hears := (hears_readers "/dev/input").1 eager effect ran 0 (by simp [started])
  have live := (hears_readers "/dev/input").2 [] _ eager effect begun (.inl rfl) ran
    (by simp [eager]) idle
  refine ⟨effect, ran, heard, sent, hears.resolve_left (by simp [heard]), ?_⟩
  rw [live.2, heard]
  simp

end Session

end GamepadInput.Evdev
