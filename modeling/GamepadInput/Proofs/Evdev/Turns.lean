import GamepadInput.Proofs.Evdev.Reader
import GamepadInput.Proofs.Evdev.Stage

/-!
# What a step does to one device

Every step, of the consumer or of any reader, takes a device from one stage to the next, lets
something be heard of it, and may queue an event of it.  `Turns` lists what can happen;
`step?_turns` says that nothing else does.
-/

namespace GamepadInput.Evdev

/-- What a step can do to a device: its stage before and after, what is heard of it, what its reader
queues, and whether its reader is started. -/
inductive Turns (id : DeviceId) :
    Stage → Step → Stage → List Notice → List EventKind → Bool → Prop where
  /-- The step does not concern the device. -/
  | stay {stage : Stage} {step : Step} : Turns id stage step stage [] [] false
  | opens {listed : Listed} {entry : Entry Node} {decoder : Decoder}
      (fresh : entry.data.reader = .ofDecoder decoder) :
      Turns id .absent (.examine listed) (.live entry false [] []) [] [] true
  /-- The reader could not be started. -/
  | fails {listed : Listed} : Turns id .absent (.examine listed) .gone [] [] false
  | announced {entry : Entry Node} {batch queue : List EventKind} :
      Turns id (.live entry false batch queue) .announce (.live entry true batch queue)
        [⟨entry.device, .attached⟩] [] false
  | taken {entry : Entry Node} {announced : Bool} {queue : List EventKind} :
      Turns id (.live entry announced [] queue) .beginProcess (.live entry announced queue [])
        [] [] false
  | delivered {entry : Entry Node} {kind : EventKind} {batch queue : List EventKind}
      (stays : kind ≠ .removed) :
      Turns id (.live entry true (kind :: batch) queue) .deliver
        (.live { entry with device := entry.device.apply kind } true batch queue)
        [⟨entry.device.apply kind, kind⟩] [] false
  | removed {entry : Entry Node} {batch queue : List EventKind} :
      Turns id (.live entry true (.removed :: batch) queue) .deliver .gone
        [⟨entry.device, .removed⟩] [] false
  | goes {entry : Entry Node} {announced : Bool} {batch queue kinds : List EventKind} {step : Step}
      {reader : Reader} (goes : entry.data.reader.Goes reader kinds) :
      Turns id (.live entry announced batch queue) step
        (.live { entry with data := { entry.data with reader } } announced batch (queue ++ kinds))
        [] kinds false
  | goesStopping {entry : Entry Node} {kinds : List EventKind} {step : Step} {reader : Reader}
      (goes : entry.data.reader.Goes reader kinds) :
      Turns id (.stopping entry) step
        (.stopping { entry with data := { entry.data with reader } }) [] kinds false
  | takenOut {entry : Entry Node} {queue : List EventKind} :
      Turns id (.live entry true [] queue) .beginShutdown (.stopping entry) [] [] false
  | stopped {entry : Entry Node} : Turns id (.stopping entry) .stop .gone [] [] false

namespace Session

variable {session : Session} {id : DeviceId} {stage : Stage} {effect : Effect}

/-- A device after a step: what the step did to it, and where it stands now. -/
def Turned (effect : Effect) (id : DeviceId) (stage : Stage) (step : Step) : Prop :=
  ∃ after, Turns id stage step after (heardOf effect.notices id) (kindsOf effect.queued id)
    (decide (id ∈ effect.started)) ∧ effect.session.Holds id after

theorem Turned.intro {after : Stage} {step : Step} {heard : List Notice} {queued : List EventKind}
    {started : Bool} (turns : Turns id stage step after heard queued started)
    (told : heardOf effect.notices id = heard) (sent : kindsOf effect.queued id = queued)
    (starts : decide (id ∈ effect.started) = started) (holds : effect.session.Holds id after) :
    Turned effect id stage step := by
  subst told sent starts
  exact ⟨after, turns, holds⟩

theorem Turned.silent {next : Session} {after : Stage} {step : Step}
    (turns : Turns id stage step after [] [] false) (holds : next.Holds id after) :
    Turned (.silent next) id stage step :=
  ⟨after, by simpa [Effect.silent] using turns, holds⟩

/-! ## Calls -/

theorem of_call? {f : Backend → Session} (taken : session.call? f = some effect) :
    session.consumer = .idle ∧ effect = .silent (f session.backend) := by
  unfold call? at taken
  split at taken
  · rename_i idle
    exact ⟨idle, (Option.some.inj taken).symm⟩
  all_goals cases taken

theorem of_startedCall? {f : Backend → Session} (taken : session.startedCall? f = some effect) :
    session.consumer = .idle ∧
      effect = .silent (if session.backend.initialized then f session.backend else session) := by
  unfold startedCall? at taken
  exact of_call? taken

theorem start_turns (holds : session.Holds id stage)
    (taken : session.call? (fun backend => ⟨backend.start, .idle⟩) = some effect) :
    Turned effect id stage .start := by
  obtain ⟨idle, rfl⟩ := of_call? taken
  obtain ⟨backend, consumer⟩ := session
  subst idle
  exact .silent .stay (holds.same rfl rfl rfl rfl .rfl (unless_stopping rfl))

theorem beginDetect_turns (holds : session.Holds id stage) {now : Time} {listable : Bool}
    (taken : session.beginDetect? now listable = some effect) :
    Turned effect id stage (.beginDetect now listable) := by
  unfold beginDetect? at taken
  obtain ⟨idle, rfl⟩ := of_startedCall? taken
  obtain ⟨backend, consumer⟩ := session
  subst idle
  refine .silent .stay ?_
  split
  · split <;> exact holds.same rfl rfl rfl rfl .rfl nofun
  · exact holds

theorem endDetect_turns (holds : session.Holds id stage)
    (taken : session.endDetect? = some effect) : Turned effect id stage .endDetect := by
  obtain ⟨backend, consumer⟩ := session
  unfold endDetect? at taken
  split at taken
  · rename_i now retry detecting
    subst detecting
    cases taken
    exact .silent .stay (holds.same rfl rfl rfl rfl .rfl (unless_stopping rfl))
  all_goals cases taken

theorem beginProcess_turns (holds : session.Holds id stage)
    (taken : session.beginProcess? = some effect) : Turned effect id stage .beginProcess := by
  unfold beginProcess? at taken
  obtain ⟨idle, rfl⟩ := of_startedCall? taken
  obtain ⟨backend, consumer⟩ := session
  subst idle
  split
  · cases stage with
    | absent =>
      have nothing := (Prod.mk.inj (holds.pending _ rfl)).2
      refine .silent .stay (holds.stepped holds.registry holds.entries ?_ holds.opened rfl
        (unless_stopping rfl))
      intro _ is_
      cases is_
      exact Prod.ext nothing rfl
    | live entry announced batch queue =>
      obtain ⟨rfl, rfl⟩ := Prod.mk.inj (holds.pending _ rfl)
      refine .silent .taken (holds.stepped holds.registry holds.entries ?_ holds.opened rfl
        (unless_stopping rfl))
      intro _ is_
      cases is_
      rfl
    | stopping entry | gone =>
      exact .silent .stay (holds.stepped holds.registry holds.entries (unless_pending rfl)
        holds.opened rfl (unless_stopping rfl))
  · exact .silent .stay holds

theorem endProcess_turns (holds : session.Holds id stage)
    (taken : session.endProcess? = some effect) : Turned effect id stage .endProcess := by
  obtain ⟨backend, consumer⟩ := session
  unfold endProcess? at taken
  split at taken
  · rename_i processing
    subst processing
    cases taken
    exact .silent .stay (holds.same rfl rfl rfl rfl .rfl (unless_stopping rfl))
  all_goals cases taken

/-! ## Looking at an entry -/

/-- What looking at an entry does to the registry: nothing, or a device more with a new reader, or a
number used up. -/
theorem look_cases (directory : String) (lastScan : Option Time) (retry : List String)
    (scan : Backend.Scan) (listed : Listed) :
    let looked := scan.look directory lastScan retry listed
    looked.1.notices = scan.notices ∧
      ((looked.1.registry = scan.registry ∧ looked.2 = none) ∨
        ∃ device node, (∃ decoder, node.reader = .ofDecoder decoder) ∧
          ((looked.1.registry = (scan.registry.insert device node).1 ∧
              looked.2 = some scan.registry.nextId) ∨
            (looked.1.registry =
                ((scan.registry.insert device node).1.release scan.registry.nextId).1 ∧
              looked.2 = none))) := by
  simp only [Backend.Scan.look]
  split
  · exact ⟨rfl, .inl ⟨rfl, rfl⟩⟩
  · split
    · exact ⟨rfl, .inl ⟨rfl, rfl⟩⟩
    · split
      · exact ⟨rfl, .inl ⟨rfl, rfl⟩⟩
      · unfold Backend.Scan.openNode
        split
        · exact ⟨rfl, .inl ⟨rfl, rfl⟩⟩
        · rename_i profile accepted
          split
          · exact ⟨rfl, .inr ⟨_, _, ⟨profile.decoder, rfl⟩, .inl ⟨rfl, rfl⟩⟩⟩
          · exact ⟨rfl, .inr ⟨_, _, ⟨profile.decoder, rfl⟩, .inr ⟨rfl, rfl⟩⟩⟩

/-- A device that is not the next one stays in place while another is numbered. -/
theorem Holds.numbered {next : Session} (holds : session.Holds id stage)
    (differ : session.backend.registry.nextId ≠ id)
    (only : next.backend.registry.only id =
      { session.backend.registry.only id with nextId := session.backend.registry.nextId + 1 })
    (queue : next.backend.queue = session.backend.queue)
    (batch : next.consumer.batch = session.consumer.batch)
    (entries : next.consumer.entries = session.consumer.entries)
    (opened : session.consumer.opened? = none)
    (opens : next.consumer.opened? = none ∨
      next.consumer.opened? = some session.backend.registry.nextId)
    (going : next.consumer.isStopping = false) : next.Holds id stage := by
  have count : next.backend.registry.nextId = session.backend.registry.nextId + 1 :=
    congrArg Registry.nextId only
  have unopened : stage.isOpened = false := by
    have iff := holds.opened
    rw [opened] at iff
    simpa using iff
  refine ⟨?_, ?_, ?_, ?_, ?_, ?_⟩
  · rw [only, holds.registry, count]
  · rw [entries, holds.entries]
  · rw [batch, queue]
    exact holds.pending
  · rw [unopened]
    rcases opens with none_ | next_
    · simp [none_]
    · simpa [next_] using differ
  · rw [count, holds.absent_iff]
    exact ⟨fun le => Nat.lt_of_le_of_ne le differ, Nat.le_of_lt⟩
  · exact unless_stopping going

/-- The next device joins with its reader, or its number is used up. -/
theorem examine_next {scan : Backend.Scan} {opened? : Option DeviceId} {device : Device}
    {node : Node} {decoder : Decoder} {now : Time} (listed : Listed)
    (holds : session.Holds session.backend.registry.nextId .absent)
    (fresh : node.reader = .ofDecoder decoder)
    (looked : (scan.registry = (session.backend.registry.insert device node).1 ∧
        opened? = some session.backend.registry.nextId) ∨
      (scan.registry = ((session.backend.registry.insert device node).1.release
          session.backend.registry.nextId).1 ∧ opened? = none)) :
    ∃ after, Turns session.backend.registry.nextId .absent (.examine listed) after [] []
        (decide (session.backend.registry.nextId ∈ opened?.toList)) ∧
      Session.Holds ⟨{ session.backend with registry := scan.registry },
        .detecting now scan.retry opened?⟩ session.backend.registry.nextId after := by
  have joined := session.backend.registry.only_insert_self device node holds.registry
  have nothing := (Prod.mk.inj (holds.pending _ rfl)).2
  rcases looked with ⟨inserted, rfl⟩ | ⟨released, rfl⟩
  · have count : scan.registry.nextId = session.backend.registry.nextId + 1 := by
      rw [inserted]
      rfl
    refine ⟨.live ⟨{ device with id := session.backend.registry.nextId }, node⟩ false [] [], ?_,
      ?_, rfl, ?_, ?_, ?_, unless_stopping rfl⟩
    · simpa using Turns.opens fresh
    · simp only [count]
      rw [inserted, joined]
      rfl
    · intro _ is_
      cases is_
      rw [nothing]
      rfl
    · simp [Consumer.opened?, Stage.isOpened]
    · simp only [count]
      simp [Stage.isAbsent]
  · have only := congrArg Prod.fst
      ((session.backend.registry.insert device node).1.only_release_self
        session.backend.registry.nextId)
    simp only [joined] at only
    have count : scan.registry.nextId = session.backend.registry.nextId + 1 := by
      rw [released, Registry.nextId_release]
      rfl
    refine ⟨.gone, .fails, ?_, rfl, unless_pending rfl, ?_, ?_, unless_stopping rfl⟩
    · simp only [count]
      rw [released, only]
      simp [Registry.release, Registry.get?, Stage.live?]
    · simp [Consumer.opened?, Stage.isOpened]
    · simp only [count]
      simp [Stage.isAbsent]

theorem examine_turns (holds : session.Holds id stage) {listed : Listed}
    (taken : session.examine? listed = some effect) :
    Turned effect id stage (.examine listed) := by
  obtain ⟨backend, consumer⟩ := session
  unfold examine? at taken
  split at taken
  · rename_i now retry detecting
    subst detecting
    have looked := look_cases backend.directory backend.lastScan backend.retry
      ⟨backend.registry, retry, []⟩ listed
    dsimp only at taken
    generalize Backend.Scan.look _ _ _ _ _ = result at taken looked
    obtain ⟨scan, opened?⟩ := result
    cases taken
    obtain ⟨quiet, looked⟩ := looked
    have silent : heardOf scan.notices id = [] := by
      rw [show scan.notices = [] from quiet]
      rfl
    obtain ⟨same, unopened⟩ | ⟨device, node, ⟨decoder, fresh⟩, looked⟩ := looked
    · simp only at same unopened
      subst unopened
      exact .intro .stay silent rfl rfl
        (holds.same (congrArg (·.only id) same) rfl rfl rfl .rfl (unless_stopping rfl))
    · by_cases next : backend.registry.nextId = id
      · subst next
        have absent : stage = .absent := by
          have is_ := holds.absent_iff.mpr (Nat.le_refl _)
          cases stage with
          | absent => rfl
          | live | stopping | gone => cases is_
        subst absent
        obtain ⟨after, turns, there⟩ := examine_next listed holds fresh looked
        exact .intro turns silent rfl rfl there
      · rcases looked with ⟨inserted, opens⟩ | ⟨released, unopened⟩
        · simp only at inserted opens
          subst opens
          refine .intro .stay silent rfl (by simpa using Ne.symm next)
            (holds.numbered next ?_ rfl rfl rfl rfl (.inr rfl) rfl)
          simp only [inserted]
          exact Registry.only_insert_other _ device node next
        · simp only at released unopened
          subst unopened
          refine .intro .stay silent rfl rfl
            (holds.numbered next ?_ rfl rfl rfl rfl (.inl rfl) rfl)
          simp only [released]
          rw [Registry.only_release_other _ next]
          exact Registry.only_insert_other _ device node next
  all_goals cases taken

/-! ## Dispatching -/

/-- A dispatched event of a live device is heard with the record it makes. -/
theorem Holds.dispatch_live {entry : Entry Node} {announced : Bool} {batch queue : List EventKind}
    {kind : EventKind} (holds : session.Holds id (.live entry announced batch queue))
    (stays : kind ≠ .removed) :
    (session.backend.registry.dispatch ⟨id, kind⟩).registry.only id =
        ⟨[{ entry with device := entry.device.apply kind }], [],
          session.backend.registry.nextId⟩ ∧
      heardOf (session.backend.registry.dispatch ⟨id, kind⟩).notice.toList id =
        [⟨entry.device.apply kind, kind⟩] := by
  have mine : entry.id = id := holds.live_id rfl
  have mine' : entry.device.id = id := mine
  obtain ⟨registry, notice⟩ := session.backend.registry.only_dispatch_self ⟨id, kind⟩
  have alone := Registry.dispatch_live session.backend.registry.nextId mine stays
  rw [holds.registry] at registry notice
  simp only [Stage.live?, Option.toList_some, alone] at registry notice
  refine ⟨registry, ?_⟩
  rw [notice]
  simp [heardOf, mine']

theorem Holds.dispatch_live_removed {entry : Entry Node} {announced : Bool}
    {batch queue : List EventKind} (holds : session.Holds id (.live entry announced batch queue)) :
    (session.backend.registry.dispatch ⟨id, .removed⟩).registry.only id =
        ⟨[], [], session.backend.registry.nextId⟩ ∧
      heardOf (session.backend.registry.dispatch ⟨id, .removed⟩).notice.toList id =
        [⟨entry.device, .removed⟩] := by
  have mine : entry.id = id := holds.live_id rfl
  have mine' : entry.device.id = id := mine
  obtain ⟨registry, notice⟩ := session.backend.registry.only_dispatch_self ⟨id, .removed⟩
  have alone := Registry.dispatch_live_removed session.backend.registry.nextId mine
  rw [holds.registry] at registry notice
  simp only [Stage.live?, Option.toList_some, alone] at registry notice
  refine ⟨registry, ?_⟩
  rw [notice]
  simp [heardOf, mine']

/-- Nobody hears an event of a device that is not registered. -/
theorem Holds.dispatch_none (holds : session.Holds id stage) (nowhere : stage.live? = none)
    (kind : EventKind) :
    (session.backend.registry.dispatch ⟨id, kind⟩).registry.only id =
        ⟨[], [], session.backend.registry.nextId⟩ ∧
      heardOf (session.backend.registry.dispatch ⟨id, kind⟩).notice.toList id = [] := by
  obtain ⟨registry, notice⟩ := session.backend.registry.only_dispatch_self ⟨id, kind⟩
  rw [holds.registry, nowhere] at registry notice
  simp only [Option.toList_none, Registry.dispatch_empty] at registry notice
  refine ⟨registry, ?_⟩
  rw [notice]
  rfl

theorem heardOf_dispatch_other (registry : Registry Node) {event : Event}
    (differ : event.device ≠ id) : heardOf (registry.dispatch event).notice.toList id = [] := by
  have elsewhere := (registry.only_dispatch_other event differ).2
  simpa [heardOf] using elsewhere

theorem announce_turns (holds : session.Holds id stage)
    (taken : session.announce? = some effect) : Turned effect id stage .announce := by
  obtain ⟨backend, consumer⟩ := session
  unfold announce? at taken
  split at taken
  · rename_i now retry other detecting
    subst detecting
    cases taken
    by_cases mine : other = id
    · subst mine
      have opened : stage.isOpened = true := holds.opened.mp rfl
      cases stage with
      | absent | stopping | gone => cases opened
      | live entry announced batch queue =>
        cases announced with
        | true => cases opened
        | false =>
          have attach : EventKind.attached ≠ .removed := by simp
          obtain ⟨only, told⟩ := holds.dispatch_live attach
          exact .intro .announced told rfl rfl
            (holds.stepped only holds.entries holds.pending (unopened_iff rfl rfl) rfl
              (unless_stopping rfl))
    · have only := (backend.registry.only_dispatch_other (.attached other) mine).1
      have differ : (Event.attached other).device ≠ id := mine
      have told := heardOf_dispatch_other backend.registry differ
      refine .intro .stay told rfl rfl (holds.same only rfl rfl rfl ?_ (unless_stopping rfl))
      simpa [Consumer.opened?] using mine
  all_goals cases taken

theorem deliver_turns (holds : session.Holds id stage)
    (taken : session.deliver? = some effect) : Turned effect id stage .deliver := by
  obtain ⟨backend, consumer⟩ := session
  unfold deliver? at taken
  split at taken
  · rename_i event rest processing
    subst processing
    cases taken
    by_cases mine : event.device = id
    · obtain ⟨device, kind⟩ := event
      cases mine
      have split : kindsOf (⟨device, kind⟩ :: rest) device = kind :: kindsOf rest device := by
        simp [kindsOf]
      cases stage with
      | absent =>
        have nothing := (Prod.mk.inj (holds.pending _ rfl)).1
        simp [Consumer.batch, split] at nothing
      | stopping entry => cases holds.entries
      | gone =>
        obtain ⟨only, told⟩ := holds.dispatch_none rfl kind
        exact .intro .stay told rfl rfl
          (holds.stepped only holds.entries (unless_pending rfl) (unopened_iff rfl rfl) rfl
            (unless_stopping rfl))
      | live entry announced batch queue =>
        obtain ⟨taken, queued⟩ := Prod.mk.inj (holds.pending _ rfl)
        have known : announced = true := by
          have iff := holds.opened
          simpa [Consumer.opened?, Stage.isOpened] using iff
        have front : batch = kind :: kindsOf rest device := by
          rw [← taken, ← split]
          rfl
        subst known front
        by_cases leaves : kind = .removed
        · subst leaves
          obtain ⟨only, told⟩ := holds.dispatch_live_removed
          exact .intro .removed told rfl rfl
            (holds.stepped only rfl (unless_pending rfl) (unopened_iff rfl rfl) rfl
            (unless_stopping rfl))
        · obtain ⟨only, told⟩ := holds.dispatch_live leaves
          refine .intro (.delivered leaves) told rfl rfl
            (holds.stepped only rfl ?_ (unopened_iff rfl rfl) rfl
              (unless_stopping rfl))
          intro _ is_
          cases is_
          exact Prod.ext rfl queued
    · have only := (backend.registry.only_dispatch_other event mine).1
      have told := heardOf_dispatch_other backend.registry mine
      refine .intro .stay told rfl rfl (holds.same only rfl ?_ rfl .rfl (unless_stopping rfl))
      simp [Consumer.batch, kindsOf, mine]
  all_goals cases taken

/-! ## Shutting down -/

theorem beginShutdown_turns (holds : session.Holds id stage)
    (taken : session.beginShutdown? = some effect) : Turned effect id stage .beginShutdown := by
  unfold beginShutdown? at taken
  obtain ⟨idle, rfl⟩ := of_call? taken
  obtain ⟨backend, consumer⟩ := session
  subst idle
  have live := congrArg Registry.live holds.registry
  have retired := congrArg Registry.retired holds.registry
  simp only [Registry.only] at live retired
  have entries : (backend.registry.live ++ backend.registry.retired).filter (·.id = id) =
      stage.live?.toList := by
    rw [List.filter_append, live, retired, List.append_nil]
  have nothing : backend.registry.drain.1.only id = ⟨[], [], backend.registry.nextId⟩ := rfl
  cases stage with
  | absent =>
    exact .silent .stay (holds.stepped nothing entries holds.pending holds.opened rfl
      fun _ => rfl)
  | gone =>
    exact .silent .stay (holds.stepped nothing entries (unless_pending rfl) holds.opened rfl
      fun _ => rfl)
  | stopping entry => cases holds.entries
  | live entry announced batch queue =>
    have known : announced = true := by
      have iff := holds.opened
      simpa [Consumer.opened?, Stage.isOpened] using iff
    obtain ⟨rfl, -⟩ := Prod.mk.inj (holds.pending _ rfl)
    subst known
    exact .silent .takenOut (holds.stepped nothing entries (unless_pending rfl)
      (unopened_iff rfl rfl) rfl fun _ => rfl)

theorem stop_turns (holds : session.Holds id stage) (taken : session.stop? = some effect) :
    Turned effect id stage .stop := by
  obtain ⟨backend, consumer⟩ := session
  unfold stop? at taken
  split at taken
  · rename_i entry rest stopping
    subst stopping
    cases taken
    have entries : (entry :: rest).filter (·.id = id) = stage.stopping?.toList := holds.entries
    by_cases mine : entry.id = id
    · rw [List.filter_cons_of_pos (by simpa using mine)] at entries
      cases stage with
      | absent | live | gone => cases entries
      | stopping other =>
        have nothing := (List.cons.inj entries).2
        exact .silent .stopped (holds.stepped holds.registry nothing (unless_pending rfl)
          holds.opened rfl fun _ => rfl)
    · rw [List.filter_cons_of_neg (by simpa using mine)] at entries
      exact .silent .stay (holds.stepped holds.registry entries holds.pending holds.opened rfl
        fun stops => holds.settled stops)
  all_goals cases taken

theorem endShutdown_turns (holds : session.Holds id stage)
    (taken : session.endShutdown? = some effect) : Turned effect id stage .endShutdown := by
  obtain ⟨backend, consumer⟩ := session
  unfold endShutdown? at taken
  split at taken
  · rename_i stopping
    subst stopping
    cases taken
    have settled := holds.settled rfl
    cases stage with
    | live entry announced batch queue => cases settled
    | stopping entry => cases holds.entries
    | absent =>
      refine .silent .stay (holds.stepped holds.registry rfl ?_ holds.opened rfl
        (unless_stopping rfl))
      intro _ is_
      cases is_
      rfl
    | gone =>
      exact .silent .stay (holds.stepped holds.registry rfl (unless_pending rfl) holds.opened rfl
        (unless_stopping rfl))
  all_goals cases taken

/-! ## Readers -/

theorem Holds.advance {entry : Entry Node} {announced : Bool} {batch queue kinds : List EventKind}
    {reader : Reader} (holds : session.Holds id (.live entry announced batch queue)) :
    Session.Holds { session with backend := session.backend.advance entry reader kinds } id
      (.live { entry with data := { entry.data with reader } } announced batch
        (queue ++ kinds)) := by
  have mine : entry.id = id := holds.live_id rfl
  obtain ⟨taken, queued⟩ := Prod.mk.inj (holds.pending _ rfl)
  refine holds.stepped ?_ holds.entries ?_ holds.opened rfl fun stops => ?_
  · simp only [Backend.advance, mine, Registry.only_setData_self, holds.registry]
    simp [Registry.setData, Registry.update, Stage.live?, mine]
  · intro _ is_
    cases is_
    simp [Backend.advance, mine, taken, queued]
  · cases holds.settled stops

theorem Holds.advance_other {entry : Entry Node} {reader : Reader} {kinds : List EventKind}
    (holds : session.Holds id stage) (differ : entry.id ≠ id) :
    Session.Holds { session with backend := session.backend.advance entry reader kinds } id
      stage := by
  refine holds.same ?_ ?_ rfl rfl .rfl fun stops => stops
  · exact session.backend.registry.only_setData_other _ differ
  · simp [Backend.advance, kindsOf_other id kinds differ]

/-- A reader that a shutdown has not stopped goes on; nobody will hear of it. -/
theorem Holds.advanceStopping {entries : List (Entry Node)} {entry : Entry Node} {reader : Reader}
    {kinds : List EventKind} (holds : session.Holds id stage)
    (stopping : session.consumer = .stopping entries)
    (found : entries.find? (·.id = id) = some entry) :
    stage = .stopping entry ∧
      (session.advanceStopping entries id reader kinds).Holds id
        (.stopping { entry with data := { entry.data with reader } }) := by
  have held := holds.entries
  rw [stopping] at held
  have running : stage = .stopping entry := by
    rw [← List.head?_filter] at found
    simp only [Consumer.entries] at held
    rw [held] at found
    cases stage with
    | absent | live | gone => cases found
    | stopping other =>
      cases found
      rfl
  subst running
  have mine : entry.id = id := by simpa using List.find?_some found
  refine ⟨rfl, holds.stepped holds.registry ?_ (unless_pending rfl) ?_ rfl fun _ => rfl⟩
  · simp only [Session.advanceStopping, Consumer.entries] at held ⊢
    rw [Registry.filter_update_self (f := fun entry : Entry Node =>
      { entry with data := { entry.data with reader } }) fun _ same => same, held]
    simp [Registry.update, Stage.stopping?, mine]
  · simp [Session.advanceStopping, Consumer.opened?, Stage.isOpened]

theorem Holds.advanceStopping_other {entries : List (Entry Node)} {other : DeviceId}
    {reader : Reader} {kinds : List EventKind} (holds : session.Holds id stage)
    (stopping : session.consumer = .stopping entries) (differ : other ≠ id) :
    (session.advanceStopping entries other reader kinds).Holds id stage := by
  refine holds.same rfl ?_ ?_ ?_ ?_ ?_
  · simp [Session.advanceStopping, kindsOf_other id kinds differ]
  · rw [stopping]
    rfl
  · rw [stopping]
    exact Registry.filter_update_other (fun _ same => same) differ
  · rw [stopping]
    rfl
  · rw [stopping]
    exact fun stops => stops

theorem readerStep_turns (holds : session.Holds id stage) {other : DeviceId} {step : Step}
    {f : Reader → Option (Reader × List EventKind)}
    (goes : ∀ {reader after kinds}, f reader = some (after, kinds) → reader.Goes after kinds)
    (taken : session.readerStep? other f = some effect) : Turned effect id stage step := by
  unfold readerStep? at taken
  split at taken
  · rename_i entry found
    have theirs : entry.id = other := Registry.id_of_get? _ _ found
    cases result : f entry.data.reader with
    | none => simp [result] at taken
    | some moved =>
      obtain ⟨reader, kinds⟩ := moved
      simp only [result, bind, Option.bind, pure, Option.some.injEq] at taken
      subst taken
      by_cases mine : other = id
      · subst mine
        rw [holds.get?_eq] at found
        cases stage with
        | absent | stopping | gone => cases found
        | live here announced batch queue =>
          cases found
          exact .intro (.goes (goes result)) rfl (kindsOf_same other kinds) rfl holds.advance
      · have differ : entry.id ≠ id := by rwa [theirs]
        exact .intro .stay rfl (kindsOf_other id kinds mine) rfl (holds.advance_other differ)
  · split at taken
    · rename_i entries stopping
      cases found : entries.find? (·.id = other) with
      | none => simp [found] at taken
      | some entry =>
        cases result : f entry.data.reader with
        | none => simp [found, result] at taken
        | some moved =>
          obtain ⟨reader, kinds⟩ := moved
          simp only [found, result, bind, Option.bind, pure, Option.some.injEq] at taken
          subst taken
          by_cases mine : other = id
          · subst mine
            obtain ⟨rfl, there⟩ := holds.advanceStopping stopping found
            exact .intro (.goesStopping (goes result)) rfl (kindsOf_same other kinds) rfl there
          · exact .intro .stay rfl (kindsOf_other id kinds mine) rfl
              (holds.advanceStopping_other stopping mine)
    all_goals cases taken

theorem read_turns (holds : session.Holds id stage) {other : DeviceId} {reading : Reading}
    (taken : session.read? other reading = some effect) :
    Turned effect id stage (.read other reading) := by
  refine readerStep_turns holds ?_ taken
  intro reader after kinds moved
  split at moved
  · rename_i waiting
    cases moved
    exact .read waiting reading
  · cases moved

theorem send_turns (holds : session.Holds id stage) {other : DeviceId}
    (taken : session.send? other = some effect) : Turned effect id stage (.send other) := by
  refine readerStep_turns holds ?_ taken
  intro reader after kinds moved
  obtain ⟨⟨kind, next⟩, sends, is_⟩ := Option.map_eq_some_iff.mp moved
  cases is_
  exact .send sends

/-! ## Every step -/

theorem step?_turns (holds : session.Holds id stage) {step : Step}
    (taken : session.step? step = some effect) : Turned effect id stage step := by
  cases step with
  | start => exact start_turns holds taken
  | beginDetect now listable => exact beginDetect_turns holds taken
  | examine listed => exact examine_turns holds taken
  | announce => exact announce_turns holds taken
  | endDetect => exact endDetect_turns holds taken
  | beginProcess => exact beginProcess_turns holds taken
  | deliver => exact deliver_turns holds taken
  | endProcess => exact endProcess_turns holds taken
  | beginShutdown => exact beginShutdown_turns holds taken
  | stop => exact stop_turns holds taken
  | endShutdown => exact endShutdown_turns holds taken
  | read other reading => exact read_turns holds taken
  | send other => exact send_turns holds taken

end Session

end GamepadInput.Evdev
