import GamepadInput.Proofs.Evdev.Barrier
import GamepadInput.Proofs.Evdev.Rescan

/-!
# Who holds a path

A device holds the path of its node until its reader has finished, even if its removal is delivered
much later.  A step makes a holder only by opening an entry whose path nobody holds
(`Holder.of_step?`), so two devices never hold one path.  A path that was held when a detection came
to it is noted, and it is opened when a detection comes to it again after its reader has finished
(`paths_reopened`).
-/

namespace GamepadInput

/-- Taking out the device that was numbered last leaves the others. -/
theorem Registry.live_release_insert {α : Type} (registry : Registry α) (device : Device) (data : α)
    (unused : registry.get? registry.nextId = none) :
    ((registry.insert device data).1.release registry.nextId).1.live = registry.live := by
  have others : ∀ entry ∈ registry.live, ¬decide (entry.id = registry.nextId) = true := by
    simpa [get?] using unused
  have found : (registry.insert device data).1.get? registry.nextId =
      some ⟨{ device with id := registry.nextId }, data⟩ := by
    simp only [get?] at unused
    simp [get?, insert, List.find?_append, unused]
  simp only [release, found]
  simp only [insert]
  rw [List.eraseP_append_right _ others]
  simp [Entry.id]

/-- Entries of one directory at one path have one name. -/
theorem Path.child_inj {directory first second : String}
    (same : child directory first = child directory second) : first = second := by
  unfold child at same
  split at same
  · exact String.append_right_inj _ |>.mp same
  · exact String.append_right_inj _ |>.mp same

namespace Evdev

/-- The directory was listed and the entry was in it, or the directory was not listed. -/
def Detection.Lists (detection : Detection) (name : String) : Prop :=
  detection.visits?.isSome = true → ∃ visit ∈ detection.visits, visit.listed.name = name

instance (detection : Detection) (name : String) : Decidable (detection.Lists name) :=
  inferInstanceAs (Decidable (_ → _))

theorem Detection.Lists.shows {detection : Detection} {name : String}
    (lists : detection.Lists name) : detection.Shows name 0 :=
  ⟨lists, fun _ _ _ time _ => Nat.zero_le time⟩

/-- A reader that goes on has not finished. -/
theorem Reader.Goes.unfinished {reader after : Reader} {kinds : List EventKind}
    (goes : reader.Goes after kinds) : reader.isFinished = false := by
  cases goes with
  | read waiting reading =>
    simp only [isWaiting, Bool.and_eq_true, Bool.not_eq_true'] at waiting
    simp [isFinished, waiting.1]
  | send sends =>
    unfold send? at sends
    split at sends
    · cases sends
    · rename_i unsent
      simp [isFinished, unsent]

/-- The reader of a live device was started. -/
theorem Trail.started {stage : Stage} {heard sent : List EventKind} {started : Bool}
    {entry : Entry Node} (trail : Trail stage heard sent started)
    (live : stage.live? = some entry) : started = true := by
  cases trail with
  | live | stopping | dropped | left => rfl
  | absent | failed => cases live

namespace Session

/-- The path of a device's node is held by its reader, which has not finished. -/
def Holder (session : Session) (id : DeviceId) (path : String) : Prop :=
  ∃ entry, session.backend.registry.get? id = some entry ∧ entry.data.path = path ∧
    entry.data.reader.isFinished = false

/-- The path of an entry of the directory. -/
def pathOf (session : Session) (listed : Listed) : String :=
  Path.child session.backend.directory listed.name

/-- The entry that a step looks at. -/
def visit? (session : Session) : Step → Option Visit
  | .examine listed => some ⟨listed, session.backend.opens listed⟩
  | _ => none

/-- The entries that some steps look at, in order. -/
def visits (session : Session) : List Step → List Visit
  | [] => []
  | step :: rest =>
    match session.step? step with
    | some effect => (session.visit? step).toList ++ effect.session.visits rest
    | none => []

/-- What trying to open an entry comes to. -/
inductive Tried (session : Session) (listed : Listed) (effect : Effect) : Prop where
  /-- It joins the devices that there are, under the next number and with a reader of its own. -/
  | joins {opening : Opening} {profile : Profile} (opened : listed.opening? = some opening)
      (controller : Profile.ofAnswers? opening.answers = some profile)
      (starts : opening.readerStarts = true)
      (live : effect.session.backend.registry.live = session.backend.registry.live ++
        [⟨{ profile.device (session.pathOf listed) with id := session.backend.registry.nextId },
          ⟨session.pathOf listed, opening.ref, .ofDecoder profile.decoder⟩⟩])
      (started : effect.started = [session.backend.registry.nextId])
  | refused {opening : Opening} (opened : listed.opening? = some opening)
      (controller : Profile.ofAnswers? opening.answers = none)
      (live : effect.session.backend.registry.live = session.backend.registry.live)
      (started : effect.started = [])
  /-- It cannot be opened, or its reader cannot be started.  It is noted. -/
  | fails (hindered : ∀ opening ∈ listed.opening?, opening.readerStarts = false)
      (live : effect.session.backend.registry.live = session.backend.registry.live)
      (started : effect.started = [])
      (noted : ∃ retry ∈ effect.session.consumer.noted?, session.pathOf listed ∈ retry)

variable {session : Session} {id : DeviceId} {path : String} {stage : Stage} {effect : Effect}
  {step : Step} {steps : List Step} {listed : Listed}

/-! ## Live entries -/

theorem Holds.get?_of_mem {entry : Entry Node} (holds : session.Holds entry.id stage)
    (live : entry ∈ session.backend.registry.live) :
    session.backend.registry.get? entry.id = some entry := by
  have mine : entry ∈ session.backend.registry.live.filter (·.id = entry.id) := by simp [live]
  have only : session.backend.registry.live.filter (·.id = entry.id) = stage.live?.toList :=
    congrArg Registry.live holds.registry
  rw [only, Option.mem_toList] at mine
  rw [holds.get?_eq, Option.mem_def.mp mine]

/-- A path is held just if a device holds it. -/
theorem isHeld_iff (holds : ∀ id, ∃ stage, session.Holds id stage) :
    Backend.isHeld session.backend.registry path = true ↔ ∃ id, session.Holder id path := by
  simp only [Backend.isHeld, List.any_eq_true, Bool.and_eq_true, decide_eq_true_eq,
    Bool.not_eq_true']
  constructor
  · rintro ⟨entry, live, same, runs⟩
    obtain ⟨stage, here⟩ := holds entry.id
    exact ⟨entry.id, entry, here.get?_of_mem live, same, runs⟩
  · rintro ⟨id, entry, found, same, runs⟩
    exact ⟨entry, List.mem_of_find?_eq_some found, same, runs⟩

/-! ## Looking at an entry -/

/-- What looking at an entry comes to is where the session goes. -/
theorem of_examine? (taken : session.examine? listed = some effect) :
    ∃ now retry, session.consumer = .detecting now retry none ∧
      ∀ scan opened?, Backend.Scan.look session.backend.directory session.backend.lastScan
          session.backend.retry ⟨session.backend.registry, retry, []⟩ listed = (scan, opened?) →
        effect = ⟨⟨{ session.backend with registry := scan.registry },
          .detecting now scan.retry opened?⟩, scan.notices, [], opened?.toList⟩ := by
  unfold examine? at taken
  split at taken
  · rename_i now retry detecting
    refine ⟨now, retry, detecting, fun scan opened? looked => ?_⟩
    simp only [looked] at taken
    exact (Option.some.inj taken).symm
  all_goals cases taken

/-- An entry that is not opened leaves the devices as they are. -/
theorem registry_of_examine? (closed : session.backend.opens listed = false)
    (taken : session.examine? listed = some effect) :
    effect.session.backend.registry = session.backend.registry := by
  obtain ⟨now, retry, -, goes⟩ := of_examine? taken
  have looked := session.backend.look_eq retry [] listed
  simp only [closed, Bool.false_eq_true, if_false] at looked
  split at looked
  · rw [goes _ _ looked]
    rfl
  · rw [goes _ _ looked]

/-- Opening an entry is tried if it is due and nobody holds its path. -/
theorem tried_of_examine? (holds : session.Holds session.backend.registry.nextId stage)
    (opens : session.backend.opens listed = true)
    (taken : session.examine? listed = some effect) : Tried session listed effect := by
  have unused : session.backend.registry.get? session.backend.registry.nextId = none := by
    rw [holds.get?_eq]
    have absent := holds.absent_iff.mpr (Nat.le_refl _)
    cases stage with
    | absent => rfl
    | live | stopping | gone => cases absent
  have noted (retry : List String) (path : String) : path ∈ retry ++ [path] := by simp
  obtain ⟨now, retry, -, goes⟩ := of_examine? taken
  have looked := session.backend.look_eq retry [] listed
  simp only [opens, if_true] at looked
  cases opened : listed.opening? with
  | none =>
    simp only [opened, Option.elim_none] at looked
    rw [goes _ _ looked]
    exact .fails (by simp [opened]) rfl rfl ⟨_, rfl, noted _ _⟩
  | some opening =>
    simp only [opened, Option.elim_some, Backend.Scan.openNode] at looked
    cases controller : Profile.ofAnswers? opening.answers with
    | none =>
      simp only [controller] at looked
      rw [goes _ _ looked]
      exact .refused opened controller rfl rfl
    | some profile =>
      cases starts : opening.readerStarts with
      | true =>
        simp only [controller, starts, if_true] at looked
        rw [goes _ _ looked]
        exact .joins opened controller starts rfl rfl
      | false =>
        simp only [controller, starts, Bool.false_eq_true, if_false] at looked
        rw [goes _ _ looked]
        refine .fails (by simp [opened, starts]) ?_ rfl ⟨_, rfl, noted _ _⟩
        exact session.backend.registry.live_release_insert _ _ unused

/-! ## Holders -/

/-- An entry that an examination adds is of the next device, at the path that was opened. -/
theorem entry_of_examine? {entry : Entry Node}
    (holds : session.Holds session.backend.registry.nextId stage)
    (unknown : session.backend.registry.get? id = none)
    (taken : session.examine? listed = some effect)
    (found : effect.session.backend.registry.get? id = some entry) :
    session.backend.opens listed = true ∧ entry.data.path = session.pathOf listed ∧
      id = session.backend.registry.nextId := by
  have closed (same : effect.session.backend.registry.live = session.backend.registry.live) :
      False := by
    rw [Registry.get?, same, ← Registry.get?, unknown] at found
    cases found
  cases opens : session.backend.opens listed with
  | false => exact (closed (congrArg Registry.live (registry_of_examine? opens taken))).elim
  | true =>
    cases tried_of_examine? holds opens taken with
    | refused _ _ same | fails _ same => exact (closed same).elim
    | joins _ _ _ live =>
      rw [Registry.get?, live, List.find?_append, ← Registry.get?, unknown, Option.none_or,
        List.find?_singleton] at found
      split at found
      · rename_i mine
        cases found
        exact ⟨rfl, rfl, (of_decide_eq_true mine).symm⟩
      · cases found

/-- A step makes a holder only by opening an entry. -/
theorem Holder.of_step? (holds : ∀ id, ∃ stage, session.Holds id stage)
    (taken : session.step? step = some effect) (holder : effect.session.Holder id path) :
    session.Holder id path ∨
      ∃ listed, step = .examine listed ∧ session.backend.opens listed = true ∧
        path = session.pathOf listed ∧ id = session.backend.registry.nextId := by
  obtain ⟨entry, found, same, runs⟩ := holder
  obtain ⟨stage, here⟩ := holds id
  obtain ⟨after, turns, there⟩ := step?_turns here taken
  have live := there.get?_eq.symm.trans found
  have known := here.get?_eq
  generalize heardOf effect.notices id = notices, kindsOf effect.queued id = kinds,
    decide (id ∈ effect.started) = starts at turns
  cases turns with
  | fails | removed | goesStopping | takenOut | stopped => cases live
  | stay => exact .inl ⟨entry, known.trans live, same, runs⟩
  | announced | taken =>
    cases live
    exact .inl ⟨entry, known, same, runs⟩
  | delivered =>
    cases live
    exact .inl ⟨_, known, same, runs⟩
  | goes goes =>
    cases live
    exact .inl ⟨_, known, same, goes.unfinished⟩
  | @opens listed =>
    obtain ⟨next, numbered⟩ := holds session.backend.registry.nextId
    obtain ⟨opens, at_, is_⟩ := entry_of_examine? numbered known taken found
    exact .inr ⟨listed, rfl, opens, same.symm.trans at_, is_⟩

/-- No two devices hold one path. -/
def Exclusive (session : Session) : Prop :=
  ∀ path first second, session.Holder first path → session.Holder second path → first = second

theorem Exclusive.step? (exclusive : session.Exclusive)
    (holds : ∀ id, ∃ stage, session.Holds id stage) (taken : session.step? step = some effect) :
    effect.session.Exclusive := by
  -- An entry whose path is held is not opened.
  have held {listed : Listed} {id : DeviceId} (opens : session.backend.opens listed = true)
      (holder : session.Holder id (session.pathOf listed)) : False := by
    have isHeld := (isHeld_iff holds).mpr ⟨id, holder⟩
    simp only [Backend.opens, Bool.and_eq_true, Bool.not_eq_true'] at opens
    exact Bool.false_ne_true (opens.2.symm.trans isHeld)
  intro path first second one other
  rcases one.of_step? holds taken with old | ⟨listed, rfl, opens, rfl, new⟩
  · rcases other.of_step? holds taken with old' | ⟨listed, rfl, opens, rfl, -⟩
    · exact exclusive path first second old old'
    · exact (held opens old).elim
  · rcases other.of_step? holds taken with old | ⟨_, -, -, -, new'⟩
    · exact (held opens old).elim
    · exact new.trans new'.symm

/-! ## Runs -/

theorem of_run?_cons (ran : session.run? (step :: steps) = some effect) :
    ∃ first others, session.step? step = some first ∧ first.session.run? steps = some others ∧
      effect = ⟨others.session, first.notices ++ others.notices, first.queued ++ others.queued,
        first.started ++ others.started⟩ := by
  simp only [run?, bind, Option.bind_eq_some_iff, pure, Option.some.injEq] at ran
  obtain ⟨first, taken, others, went, is_⟩ := ran
  exact ⟨first, others, taken, went, is_.symm⟩

theorem run?_append {more : List Step} {there : Effect} (came : session.run? steps = some there)
    (went : there.session.run? more = some effect) :
    session.run? (steps ++ more) = some ⟨effect.session, there.notices ++ effect.notices,
      there.queued ++ effect.queued, there.started ++ effect.started⟩ := by
  induction steps generalizing session there with
  | nil =>
    cases came
    exact went
  | cons step rest ih =>
    obtain ⟨first, others, taken, onward, rfl⟩ := of_run?_cons came
    simp [run?, taken, ih onward went]

theorem holds_run? {directory : String}
    (ran : (ofBackend (.ofDirectory directory)).run? steps = some effect) (id : DeviceId) :
    ∃ stage, effect.session.Holds id stage := by
  obtain ⟨stage, holds, -⟩ := run?_trail ran id
  exact ⟨stage, holds⟩

theorem holds_later {directory : String} {before : List Step} {there : Effect}
    (came : (ofBackend (.ofDirectory directory)).run? before = some there)
    (ran : there.session.run? steps = some effect) (id : DeviceId) :
    ∃ stage, effect.session.Holds id stage := by
  have holds := holds_run? (run?_append came ran) id
  exact holds

theorem exclusive_run? {directory : String}
    (ran : (ofBackend (.ofDirectory directory)).run? steps = some effect) :
    effect.session.Exclusive := by
  induction steps using List.reverseRecOn generalizing effect with
  | nil =>
    cases ran
    rintro path first second ⟨entry, found, -⟩
    cases found
  | append_singleton steps step ih =>
    obtain ⟨there, last, came, taken, same⟩ := of_run?_append ran
    rw [same]
    exact (ih came).step? (holds_run? came) taken

/-- Whoever holds a path after some steps held it before, or the path was opened by one of them. -/
theorem Holder.of_run? (holds : ∀ id, ∃ stage, session.Holds id stage)
    (ran : session.run? steps = some effect) (holder : effect.session.Holder id path) :
    session.Holder id path ∨
      ∃ visit ∈ session.visits steps, visit.opened = true ∧ session.pathOf visit.listed = path := by
  induction steps generalizing session effect with
  | nil =>
    cases ran
    exact .inl holder
  | cons step rest ih =>
    obtain ⟨first, others, taken, went, rfl⟩ := of_run?_cons ran
    have alone : session.run? [step] = some first := by simp [run?, taken, Effect.silent]
    have directory := directory_run? alone
    have onward (id : DeviceId) : ∃ stage, first.session.Holds id stage := by
      obtain ⟨stage, here⟩ := holds id
      obtain ⟨after, -, there⟩ := step?_turns here taken
      exact ⟨after, there⟩
    simp only [visits, taken, List.mem_append, Option.mem_toList]
    rcases ih onward went holder with before | ⟨visit, member, opened, at_⟩
    · rcases before.of_step? holds taken with old | ⟨listed, rfl, opens, rfl, -⟩
      · exact .inl old
      · exact .inr ⟨⟨listed, true⟩, .inl (by simp [visit?, opens]), rfl, rfl⟩
    · refine .inr ⟨visit, .inr member, opened, ?_⟩
      rw [← at_, pathOf, pathOf, directory]

/-! ## Noted paths -/

/-- A detection under way forgets no path. -/
theorem noted_of_step? {retry : List String} (noted : session.consumer.noted? = some retry)
    (lasts : step ≠ .endDetect) (taken : session.step? step = some effect) :
    ∃ later, effect.session.consumer.noted? = some later ∧ retry ⊆ later := by
  obtain ⟨backend, consumer⟩ := session
  cases consumer with
  | idle | processing | stopping => cases noted
  | detecting now retry opened? =>
    cases noted
    cases step with
    | endDetect => exact absurd rfl lasts
    | examine listed =>
      obtain ⟨_, _, detecting, goes⟩ := of_examine? taken
      cases detecting
      have kept := (backend.retry_look retry [] listed).1
      rw [goes _ _ rfl]
      exact ⟨_, rfl, kept⟩
    | announce =>
      cases opened? with
      | none => cases taken
      | some id =>
        cases taken
        exact ⟨retry, rfl, List.Subset.refl _⟩
    | read id reading | send id =>
      simp only [step?, read?, send?, readerStep?] at taken
      split at taken
      · simp only [Option.bind_eq_bind, Option.bind_eq_some_iff, Option.pure_def,
          Option.some.injEq] at taken
        obtain ⟨moved, -, rfl⟩ := taken
        exact ⟨retry, rfl, List.Subset.refl _⟩
      · cases taken
    | start | beginDetect | beginProcess | deliver | endProcess | beginShutdown | stop
    | endShutdown => cases taken

/-- A path that was held when a detection came to it is noted when the detection ends. -/
theorem retry_of_held {retry : List String} (noted : session.consumer.noted? = some retry)
    (member : path ∈ retry) (under : .endDetect ∉ steps)
    (ran : session.run? (steps ++ [.endDetect]) = some effect) :
    path ∈ effect.session.backend.retry := by
  induction steps generalizing session retry effect with
  | nil =>
    obtain ⟨first, others, taken, went, rfl⟩ := of_run?_cons ran
    cases went
    obtain ⟨backend, consumer⟩ := session
    simp only [step?, endDetect?] at taken
    split at taken
    · cases taken
      cases noted
      exact member
    all_goals cases taken
  | cons step rest ih =>
    rw [List.mem_cons, not_or] at under
    obtain ⟨first, others, taken, went, rfl⟩ := of_run?_cons ran
    obtain ⟨later, still, kept⟩ := noted_of_step? noted (Ne.symm under.1) taken
    have last := ih still (kept member) under.2 went
    exact last

/-- An entry that is due and held is noted by looking at it. -/
theorem noted_of_held (due : Backend.isDue session.backend.directory session.backend.lastScan
      session.backend.retry listed = true)
    (held : Backend.isHeld session.backend.registry (session.pathOf listed) = true)
    (taken : session.examine? listed = some effect) :
    ∃ retry, effect.session.consumer.noted? = some retry ∧ session.pathOf listed ∈ retry := by
  obtain ⟨now, retry, -, goes⟩ := of_examine? taken
  rw [pathOf] at held
  have looked := session.backend.look_eq retry [] listed
  simp only [Backend.opens, due, held, Bool.not_true, Bool.and_false, Bool.false_eq_true, if_false,
    if_true] at looked
  rw [goes _ _ looked]
  exact ⟨_, rfl, by simp [Backend.Scan.again, pathOf]⟩

/-- A step adds the entry that it looks at to those that a detection under way came to. -/
theorem tally_visits (seen : List Visit) :
    (session.tally seen step).1 ⊆ seen ++ (session.visit? step).toList ∧
      ∀ detection ∈ (session.tally seen step).2, detection.visits ⊆ seen := by
  cases step with
  | examine listed => simp [tally, visit?]
  | beginDetect now listable =>
    simp only [tally]
    split <;> simp [Detection.visits]
  | endDetect =>
    simp only [tally]
    split <;> simp [Detection.visits]
  | start | announce | beginProcess | deliver | endProcess | beginShutdown | stop | endShutdown
  | read | send => simp [tally, visit?]

/-- Every entry that a detection came to was looked at. -/
theorem mem_visits_of_detections {seen : List Visit} {detection : Detection} {visit : Visit}
    (ended : detection ∈ session.detections seen steps) (member : visit ∈ detection.visits) :
    visit ∈ seen ∨ visit ∈ session.visits steps := by
  induction steps generalizing session seen with
  | nil => cases ended
  | cons step rest ih =>
    cases taken : session.step? step with
    | none => simp [detections, taken] at ended
    | some effect =>
      simp only [detections, visits, taken, List.mem_append, Option.mem_toList] at ended ⊢
      obtain ⟨adds, tells⟩ := @tally_visits session step seen
      rcases ended with now | later
      · exact .inl (tells detection now member)
      · rcases ih later with before | onward
        · rcases List.mem_append.mp (adds before) with known | last
          · exact .inl known
          · exact .inr (.inl (by simpa using last))
        · exact .inr (.inr onward)

/-! ## Opening again -/

/-- A due entry is opened if whoever held its path has let go of it. -/
theorem opens_of_due {there : Effect} (holds : ∀ id, ∃ stage, session.Holds id stage)
    (arrives : ∀ id, ∃ stage, there.session.Holds id stage)
    (ran : session.run? steps = some there)
    (untried : ∀ visit ∈ session.visits steps, visit.listed.name = listed.name →
      visit.opened = false)
    (due : Backend.isDue there.session.backend.directory there.session.backend.lastScan
      there.session.backend.retry listed = true)
    (released : ∀ id, session.Holder id (session.pathOf listed) →
      ¬there.session.Holder id (session.pathOf listed)) :
    there.session.backend.opens listed = true := by
  have free : Backend.isHeld there.session.backend.registry (there.session.pathOf listed) =
      false := by
    rw [Bool.eq_false_iff]
    intro held
    obtain ⟨id, holder⟩ := (isHeld_iff arrives).mp held
    rw [pathOf, directory_run? ran, ← pathOf] at holder
    rcases holder.of_run? holds ran with before | ⟨visit, member, opened, at_⟩
    · exact released id before holder
    · rw [untried visit member (Path.child_inj at_)] at opened
      cases opened
  rw [pathOf] at free
  simp [Backend.opens, due, free]

/-- A path to be looked at again is opened when a detection comes to it after its reader has
finished. -/
theorem opens_of_finished {there : Effect} {name : String}
    (holds : ∀ id, ∃ stage, session.Holds id stage)
    (arrives : ∀ id, ∃ stage, there.session.Holds id stage) (exclusive : session.Exclusive)
    (ran : session.run? steps = some there) (lasts : .endShutdown ∉ steps)
    (node : isEventNode name = true)
    (noted : Path.child session.backend.directory name ∈ session.backend.retry)
    (holder : session.Holder id (Path.child session.backend.directory name))
    (lists : ∀ detection ∈ session.detections [] steps, detection.Lists name)
    (untried : ∀ visit ∈ session.visits steps, visit.listed.name = name → visit.opened = false)
    (finished : ∀ entry ∈ there.session.backend.registry.get? id,
      entry.data.reader.isFinished = true) (named : listed.name = name) :
    there.session.backend.opens listed = true := by
  subst named
  refine opens_of_due holds arrives ran untried ?_ ?_
  · have scans := scans_of_run? looked_nil lasts ran
    rcases scans.opens_or_retry node noted fun detection ended => (lists detection ended).shows with
      ⟨detection, ended, visit, member, named, opened⟩ | again
    · rcases mem_visits_of_detections ended member with nothing | looked
      · cases nothing
      · rw [untried visit looked named] at opened
        cases opened
    · have due : there.session.backend.retry.contains
          (Path.child there.session.backend.directory listed.name) = true := by
        rw [directory_run? ran, List.contains_iff_mem]
        exact again
      rw [Backend.isDue, node, due]
      rfl
  · rintro other before ⟨entry, found, -, runs⟩
    cases exclusive _ _ _ before holder
    rw [finished entry found] at runs
    cases runs

/-- Nothing is remembered or held after a shutdown, so the first detection that ends after it tries
every entry that tells its time. -/
theorem opens_of_cleared {directory : String} {before : List Step} {there : Effect}
    (came : (ofBackend (.ofDirectory directory)).run? (before ++ [.endShutdown]) = some there)
    (ran : there.session.run? steps = some effect) (lasts : .endShutdown ∉ steps)
    (none_ : there.session.detections [] steps = []) (node : isEventNode listed.name = true)
    (told : listed.modified?.isSome = true)
    (untried : ∀ visit ∈ there.session.visits steps, visit.listed.name = listed.name →
      visit.opened = false) : effect.session.backend.opens listed = true := by
  refine opens_of_due (holds_run? came) (holds_later came ran) ran untried ?_ ?_
  · have scans := scans_of_run? looked_nil lasts ran
    obtain ⟨fresh, -⟩ := memory_of_closed (.inr ⟨before, rfl⟩) came
    rw [none_, fresh] at scans
    have nothing : effect.session.backend.memory = ⟨none, []⟩ := by
      generalize effect.session.backend.memory = last at scans
      cases scans
      rfl
    have lastScan := congrArg Memory.lastScan nothing
    simp only [Backend.memory] at lastScan
    simp only [Backend.isDue, node, lastScan, Backend.changedSince, Option.all_none]
    obtain ⟨time, is_⟩ := Option.isSome_iff_exists.mp told
    simp [is_]
  · rintro id ⟨entry, found, -⟩
    have live := (cleared_of_shutdown came).live
    simp [Registry.get?, live] at found

/-- What is tried would get a number that no device had. -/
theorem tried_anew {directory : String} {before : List Step} {there arrived : Effect}
    (came : (ofBackend (.ofDirectory directory)).run? before = some there)
    (ran : there.session.run? steps = some arrived)
    (opens : arrived.session.backend.opens listed = true)
    (taken : arrived.session.step? (.examine listed) = some effect) :
    Tried arrived.session listed effect ∧
      ∀ earlier ∈ there.started ++ arrived.started,
        earlier < arrived.session.backend.registry.nextId := by
  obtain ⟨stage, next⟩ := holds_later came ran arrived.session.backend.registry.nextId
  refine ⟨tried_of_examine? next opens taken, fun earlier starts => ?_⟩
  have numbered := started_lt (run?_append came ran) starts
  exact numbered

/-- However the steps of the consumer and of the readers are mixed: at any time no two devices of one
path both have a reader that has not finished, and every device has had its reader started.  An
entry that is due while a reader holds its path is noted once the detection has ended.  As long as
detections list it, it stays so, and when a detection comes to it after the reader has finished, it
is tried under a number that no device had, even if the removal of the device before it was not
delivered yet.  A shutdown stops every reader and forgets what was noted; after it the first
detection tries every entry that tells its time. -/
theorem paths_reopened (directory : String) :
    (∀ steps effect, (ofBackend (.ofDirectory directory)).run? steps = some effect →
      effect.session.backend.registry.retired = [] ∧
      effect.session.backend.registry.live.Pairwise (fun first second =>
        first.data.path = second.data.path →
          first.data.reader.isFinished = true ∨ second.data.reader.isFinished = true) ∧
      ∀ entry ∈ effect.session.backend.registry.live, entry.id ∈ effect.started) ∧
    (∀ before there listed rest effect,
      (ofBackend (.ofDirectory directory)).run? before = some there →
      Backend.isDue directory there.session.backend.lastScan there.session.backend.retry listed =
        true →
      Backend.isHeld there.session.backend.registry (Path.child directory listed.name) = true →
      .endDetect ∉ rest →
      there.session.run? (.examine listed :: rest ++ [.endDetect]) = some effect →
      Path.child directory listed.name ∈ effect.session.backend.retry) ∧
    (∀ before there name id since arrived listed effect,
      (ofBackend (.ofDirectory directory)).run? before = some there →
      isEventNode name = true →
      Path.child directory name ∈ there.session.backend.retry →
      there.session.Holder id (Path.child directory name) →
      .endShutdown ∉ since → there.session.run? since = some arrived →
      (∀ detection ∈ there.session.detections [] since, detection.Lists name) →
      (∀ visit ∈ there.session.visits since, visit.listed.name = name → visit.opened = false) →
      (∀ entry ∈ arrived.session.backend.registry.get? id, entry.data.reader.isFinished = true) →
      listed.name = name → arrived.session.step? (.examine listed) = some effect →
      arrived.session.backend.opens listed = true ∧ Tried arrived.session listed effect ∧
        ∀ earlier ∈ there.started ++ arrived.started,
          earlier < arrived.session.backend.registry.nextId) ∧
    ∀ before there since arrived listed effect,
      (ofBackend (.ofDirectory directory)).run? (before ++ [.endShutdown]) = some there →
      .endShutdown ∉ since → there.session.run? since = some arrived →
      there.session.detections [] since = [] →
      (∀ visit ∈ there.session.visits since, visit.listed.name = listed.name →
        visit.opened = false) →
      isEventNode listed.name = true → listed.modified?.isSome = true →
      arrived.session.step? (.examine listed) = some effect →
      arrived.session.backend.opens listed = true ∧ Tried arrived.session listed effect ∧
        ∀ earlier ∈ there.started ++ arrived.started,
          earlier < arrived.session.backend.registry.nextId := by
  refine ⟨?_, ?_, ?_, ?_⟩
  · intro steps effect ran
    have holds := holds_run? ran
    refine ⟨nil_of_filter fun id => ?_, ?_, fun entry live => ?_⟩
    · obtain ⟨stage, here⟩ := holds id
      exact congrArg Registry.retired here.registry
    · have ids := nodup_live holds
      rw [Registry.devices, List.map_map, List.Nodup, List.pairwise_map] at ids
      refine ids.imp_of_mem fun {first second} one other differ same => ?_
      by_contra running
      rw [not_or, Bool.not_eq_true, Bool.not_eq_true] at running
      obtain ⟨stage, here⟩ := holds first.id
      obtain ⟨stage', here'⟩ := holds second.id
      exact differ (exclusive_run? ran first.data.path first.id second.id
        ⟨first, here.get?_of_mem one, rfl, running.1⟩
        ⟨second, here'.get?_of_mem other, same.symm, running.2⟩)
    · obtain ⟨stage, here, trail⟩ := run?_trail ran entry.id
      exact of_decide_eq_true (trail.started (here.get?_eq.symm.trans (here.get?_of_mem live)))
  · intro before there listed rest effect came due held under ran
    obtain ⟨first, others, taken, went, rfl⟩ := of_run?_cons ran
    have at_ : there.session.pathOf listed = Path.child directory listed.name := by
      rw [pathOf, directory_run? came]
      rfl
    rw [← at_] at held ⊢
    have here : there.session.backend.directory = directory := directory_run? came
    obtain ⟨retry, noted, member⟩ := noted_of_held (by rwa [here]) held taken
    have last := retry_of_held noted member under went
    exact last
  · intro before there name id since arrived listed effect came node noted holder lasts ran lists
      untried finished named taken
    have here : there.session.backend.directory = directory := directory_run? came
    rw [← here] at noted holder
    have opens := opens_of_finished (holds_run? came) (holds_later came ran) (exclusive_run? came)
      ran lasts node noted holder lists untried finished named
    exact ⟨opens, tried_anew came ran opens taken⟩
  · intro before there since arrived listed effect came lasts ran none_ untried node told taken
    have opens := opens_of_cleared came ran lasts none_ node told untried
    exact ⟨opens, tried_anew came ran opens taken⟩

/-- Another stick in the place of `stick`. -/
def replaced : Listed := ⟨"event0", some 3, some ⟨1, stick, true⟩⟩

/-- A stick is opened and announced, and then replaced while its reader runs. -/
def replacing : List Step :=
  [.start, .beginDetect 1 true, .examine ⟨"event0", some 1, some ⟨0, stick, true⟩⟩, .announce,
    .endDetect, .beginDetect 2 true]

/-- The detection that finds the other stick. -/
def noting : List Step := [.examine replaced, .endDetect]

/-- The reader ends, and the next detection begins before the removal is delivered. -/
def ending : List Step := [.read 0 .ended, .send 0, .beginDetect 4 true]

/-- The reader is stopped by a shutdown instead. -/
def stopping : List Step := [.beginShutdown, .stop]

/-- The first detection after the shutdown begins. -/
def restarting : List Step := [.start, .beginDetect 4 true]

theorem paths_reopened_replaced :
    ∃ there noted,
      (ofBackend (.ofDirectory "/dev/input")).run? replacing = some there ∧
      there.session.run? noting = some noted ∧
      Path.child "/dev/input" "event0" ∈ noted.session.backend.retry ∧
      (∃ arrived effect, noted.session.run? ending = some arrived ∧
        arrived.session.step? (.examine replaced) = some effect ∧
        Tried arrived.session replaced effect ∧
        effect.session.backend.registry.live.map (·.id) = [0, 1]) ∧
      ∃ stopped arrived effect, noted.session.run? (stopping ++ [.endShutdown]) = some stopped ∧
        stopped.session.run? restarting = some arrived ∧
        arrived.session.step? (.examine replaced) = some effect ∧
        Tried arrived.session replaced effect ∧
        effect.session.backend.registry.live.map (·.id) = [1] := by
  obtain ⟨-, notes, reopens, restarts⟩ := paths_reopened "/dev/input"
  have known : ((ofBackend (.ofDirectory "/dev/input")).run? replacing).any (fun there =>
      Backend.isDue "/dev/input" there.session.backend.lastScan there.session.backend.retry
          replaced &&
        Backend.isHeld there.session.backend.registry (Path.child "/dev/input" "event0") &&
        (there.session.run? noting).any fun noted =>
          ((noted.session.backend.registry.get? 0).any fun entry =>
              entry.data.path = Path.child "/dev/input" "event0" &&
                !entry.data.reader.isFinished) &&
            (noted.session.visits ending).isEmpty &&
            (noted.session.detections [] ending).isEmpty &&
            ((noted.session.run? ending).any fun arrived =>
              (arrived.session.backend.registry.get? 0).all (·.data.reader.isFinished) &&
                (arrived.session.step? (.examine replaced)).any fun effect =>
                  effect.session.backend.registry.live.map (·.id) = [0, 1]) &&
            (noted.session.run? (stopping ++ [.endShutdown])).any fun stopped =>
              (stopped.session.visits restarting).isEmpty &&
                (stopped.session.detections [] restarting).isEmpty &&
                (stopped.session.run? restarting).any fun arrived =>
                  (arrived.session.step? (.examine replaced)).any fun effect =>
                    effect.session.backend.registry.live.map (·.id) = [1]) = true := by
    decide +kernel
  simp only [Option.any_eq_true, Option.all_eq_true, Bool.and_eq_true, Bool.not_eq_true',
    decide_eq_true_eq, List.isEmpty_iff] at known
  obtain ⟨there, came, ⟨due, held⟩, noted, went,
    ⟨⟨⟨⟨entry, live, same, runs⟩, unseen⟩, unended⟩, arrived, ends, finished, effect, opens, ids⟩,
    stopped, stops, ⟨unseen', unended'⟩, resumed, resumes, effect', opens', ids'⟩ := known
  have again := notes replacing there replaced [] noted came due held (by simp) went
  have whole := run?_append came went
  have tried := reopens _ _ "event0" 0 ending arrived replaced effect whole (by decide +kernel)
    again ⟨entry, live, same, runs⟩ (by decide) ends
    (fun detection ended => by simp [unended] at ended) (fun visit seen => by simp [unseen] at seen)
    finished rfl opens
  have closed := run?_append whole stops
  rw [← List.append_assoc] at closed
  have tried' := restarts _ _ restarting resumed replaced effect' closed (by decide) resumes
    unended' (fun visit seen => by simp [unseen'] at seen) (by decide +kernel) rfl opens'
  exact ⟨there, noted, came, went, again, ⟨arrived, effect, ends, opens, tried.2.1, ids⟩,
    stopped, resumed, effect', stops, resumes, opens', tried'.2.1, ids'⟩

end Session

end Evdev

end GamepadInput
