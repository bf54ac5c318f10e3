import GamepadInput.Proofs.Evdev.Trail
import Mathlib.Data.List.Induction

/-!
# What detections find

A detection opens each entry that is due and not held, or notes that it is to be looked at again
(`step?_scans`).  So a node whose first detection after it appeared could list the directory and
read the node's time is opened sooner or later, or is still noted (`detections_find`).

Where that first detection fails, it is remembered as a scan all the same, and a node modified
before it is passed over from then on (`unlisted_passed_over`).
-/

namespace GamepadInput.Evdev

/-- An entry that a detection came to. -/
structure Visit where
  listed : Listed
  /-- It was opened, or opening it was tried. -/
  opened : Bool
  deriving DecidableEq, Repr

/-- A detection that has ended. -/
structure Detection where
  now : Time
  /-- What the detection came to; absent if the directory could not be listed. -/
  visits? : Option (List Visit)
  deriving DecidableEq, Repr

namespace Detection

variable (detection : Detection) (name : String)

def visits : List Visit := detection.visits?.getD []

/-- Wherever the directory was listed, the entry was in it, and it told no time of modification
before `appeared`. -/
def Shows (appeared : Time) : Prop :=
  (detection.visits?.isSome = true → ∃ visit ∈ detection.visits, visit.listed.name = name) ∧
    ∀ visit ∈ detection.visits, visit.listed.name = name →
      ∀ time ∈ visit.listed.modified?, appeared ≤ time

/-- The directory was listed, and the entry told its time of modification. -/
def Succeeds : Prop :=
  detection.visits?.isSome = true ∧
    ∀ visit ∈ detection.visits, visit.listed.name = name → visit.listed.modified?.isSome = true

/-- The entry was opened, or opening it was tried. -/
def Opens : Prop := ∃ visit ∈ detection.visits, visit.listed.name = name ∧ visit.opened = true

instance (appeared : Time) : Decidable (detection.Shows name appeared) :=
  inferInstanceAs (Decidable (_ ∧ _))

instance : Decidable (detection.Succeeds name) := inferInstanceAs (Decidable (_ ∧ _))

instance : Decidable (detection.Opens name) :=
  inferInstanceAs (Decidable (∃ visit ∈ detection.visits, _))

end Detection

/-- What a backend remembers of its scans. -/
structure Memory where
  lastScan : Option Time
  retry : List String
  deriving DecidableEq, Repr

/-- Paths that a detection under way has noted. -/
def Consumer.noted? : Consumer → Option (List String)
  | detecting _ retry _ => some retry
  | idle | processing _ | stopping _ => none

namespace Backend

def memory (backend : Backend) : Memory := ⟨backend.lastScan, backend.retry⟩

/-- An entry is opened, or opening it is tried, if it is due and no reader holds its path. -/
def opens (backend : Backend) (listed : Listed) : Bool :=
  isDue backend.directory backend.lastScan backend.retry listed &&
    !isHeld backend.registry (Path.child backend.directory listed.name)

end Backend

namespace Session

/-- What a step adds to the entries that a detection under way came to, and the detection that it
ends. -/
def tally (session : Session) (seen : List Visit) : Step → List Visit × Option Detection
  | .beginDetect now listable =>
    ([], if session.backend.initialized && !listable then some ⟨now, none⟩ else none)
  | .examine listed => (seen ++ [⟨listed, session.backend.opens listed⟩], none)
  | .endDetect =>
    match session.consumer with
    | .detecting now _ _ => ([], some ⟨now, some seen⟩)
    | .idle | .processing _ | .stopping _ => ([], none)
  | _ => (seen, none)

/-- The detections that end in some steps, the one under way having come to `seen`. -/
def detections (session : Session) (seen : List Visit) : List Step → List Detection
  | [] => []
  | step :: rest =>
    match session.step? step with
    | some effect =>
      let (seen, ended?) := session.tally seen step
      ended?.toList ++ effect.session.detections seen rest
    | none => []

end Session

/-! ## Memory from one detection to the next -/

/-- An entry that was due is opened or noted among the paths in `retry`. -/
def Visit.Accounted (directory : String) (memory : Memory) (retry : List String) (visit : Visit) :
    Prop :=
  Backend.isDue directory memory.lastScan memory.retry visit.listed = true →
    visit.opened = true ∨ Path.child directory visit.listed.name ∈ retry

/-- What detections in order make of the memory. -/
inductive Scans (directory : String) : Memory → List Detection → Memory → Prop where
  | nil {memory : Memory} : Scans directory memory [] memory
  /-- The time is remembered even if the directory could not be listed. -/
  | unlisted {memory last : Memory} {now : Time} {later : List Detection}
      (rest : Scans directory { memory with lastScan := some now } later last) :
      Scans directory memory (⟨now, none⟩ :: later) last
  | listed {memory last : Memory} {now : Time} {visits : List Visit} {retry : List String}
      {later : List Detection}
      (accounted : ∀ visit ∈ visits, visit.Accounted directory memory retry)
      (rest : Scans directory ⟨some now, retry⟩ later last) :
      Scans directory memory (⟨now, some visits⟩ :: later) last

namespace Scans

variable {directory : String} {memory middle last : Memory} {first second : List Detection}

theorem append (scans : Scans directory memory first middle)
    (onward : Scans directory middle second last) :
    Scans directory memory (first ++ second) last := by
  induction scans with
  | nil => exact onward
  | unlisted _ ih => exact .unlisted (ih onward)
  | listed accounted _ ih => exact .listed accounted (ih onward)

theorem of_append (scans : Scans directory memory (first ++ second) last) :
    ∃ middle, Scans directory memory first middle ∧ Scans directory middle second last := by
  induction first generalizing memory with
  | nil => exact ⟨memory, .nil, scans⟩
  | cons detection first ih =>
    cases scans with
    | unlisted rest =>
      obtain ⟨middle, before, after⟩ := ih rest
      exact ⟨middle, .unlisted before, after⟩
    | listed accounted rest =>
      obtain ⟨middle, before, after⟩ := ih rest
      exact ⟨middle, .listed accounted before, after⟩

/-- The last scan is no later than every detection was. -/
theorem lastScan_le {appeared : Time} (scans : Scans directory memory first last)
    (start : ∀ time ∈ memory.lastScan, time ≤ appeared)
    (clock : ∀ detection ∈ first, detection.now ≤ appeared) :
    ∀ time ∈ last.lastScan, time ≤ appeared := by
  induction scans with
  | nil => exact start
  | unlisted rest ih | listed accounted rest ih =>
    rw [List.forall_mem_cons] at clock
    refine ih ?_ clock.2
    rintro time ⟨⟩
    exact clock.1

variable {name : String} {appeared : Time}

/-- What a later detection opens is opened. -/
theorem opens_cons {detection : Detection} {later : List Detection} {noted : Prop}
    (found : (∃ each ∈ later, each.Opens name) ∨ noted) :
    (∃ each ∈ detection :: later, each.Opens name) ∨ noted :=
  found.imp_left fun ⟨each, member, opens⟩ => ⟨each, List.mem_cons_of_mem _ member, opens⟩

/-- A path to be looked at again stays so until it is opened. -/
theorem opens_or_retry (scans : Scans directory memory first last)
    (node : isEventNode name = true) (noted : Path.child directory name ∈ memory.retry)
    (shown : ∀ detection ∈ first, detection.Shows name appeared) :
    (∃ detection ∈ first, detection.Opens name) ∨ Path.child directory name ∈ last.retry := by
  induction scans with
  | nil => exact .inr noted
  | unlisted rest ih =>
    rw [List.forall_mem_cons] at shown
    exact opens_cons (ih noted shown.2)
  | @listed memory last now visits retry later accounted rest ih =>
    rw [List.forall_mem_cons] at shown
    obtain ⟨visit, member, rfl⟩ := shown.1.1 rfl
    have due : Backend.isDue directory memory.lastScan memory.retry visit.listed = true := by
      simp [Backend.isDue, node, noted]
    rcases accounted visit member due with opened | again
    · exact .inl ⟨_, List.mem_cons_self, visit, member, rfl, opened⟩
    · exact opens_cons (ih again shown.2)

/-- A node that appeared after the last scan is found by the next one that succeeds. -/
theorem finds {detection : Detection} (scans : Scans directory memory (detection :: first) last)
    (node : isEventNode name = true) (before : ∀ time ∈ memory.lastScan, time ≤ appeared)
    (shown : ∀ each ∈ detection :: first, each.Shows name appeared)
    (succeeds : detection.Succeeds name) :
    (∃ each ∈ detection :: first, each.Opens name) ∨
      Path.child directory name ∈ last.retry := by
  rw [List.forall_mem_cons] at shown
  cases scans with
  | unlisted rest => cases succeeds.1
  | @listed _ _ now visits retry _ accounted rest =>
    obtain ⟨visit, member, rfl⟩ := shown.1.1 rfl
    obtain ⟨time, told⟩ := Option.isSome_iff_exists.mp (succeeds.2 visit member rfl)
    have since : appeared ≤ time := shown.1.2 visit member rfl time told
    have due : Backend.isDue directory memory.lastScan memory.retry visit.listed = true := by
      have changed : Backend.changedSince memory.lastScan visit.listed = true := by
        simp only [Backend.changedSince, told, Option.any_some, Option.all_eq_true,
          decide_eq_true_eq]
        exact fun last is_ => Nat.le_trans (before last is_) since
      simp [Backend.isDue, node, changed]
    rcases accounted visit member due with opened | again
    · exact .inl ⟨_, List.mem_cons_self, visit, member, rfl, opened⟩
    · exact opens_cons (rest.opens_or_retry node again shown.2)

end Scans

/-! ## Looking at one entry -/

namespace Backend

/-- An entry is looked at by opening it, if it is due and not held; a due entry that is held is
noted. -/
theorem look_eq (backend : Backend) (retry : List String) (notices : List Notice)
    (listed : Listed) :
    Scan.look backend.directory backend.lastScan backend.retry
        ⟨backend.registry, retry, notices⟩ listed =
      let scan : Scan := ⟨backend.registry, retry, notices⟩
      let path := Path.child backend.directory listed.name
      if backend.opens listed then
        listed.opening?.elim (scan.again path, none) (scan.openNode path)
      else if isDue backend.directory backend.lastScan backend.retry listed then
        (scan.again path, none)
      else (scan, none) := by
  simp only [Scan.look, opens]
  by_cases due : isDue backend.directory backend.lastScan backend.retry listed = true
  · by_cases held : isHeld backend.registry (Path.child backend.directory listed.name) = true
    · simp [due, held]
    · cases opening : listed.opening? <;> simp [due, held]
  · simp [due]

/-- Opening a node forgets no path. -/
theorem retry_openNode (scan : Scan) (path : String) (opening : Opening) :
    scan.retry ⊆ (scan.openNode path opening).1.retry := by
  unfold Scan.openNode
  split
  · exact List.Subset.refl _
  · split
    · exact List.Subset.refl _
    · exact List.subset_append_left ..

/-- An entry that was looked at is accounted for, and no path is forgotten. -/
theorem retry_look (backend : Backend) (retry : List String) (notices : List Notice)
    (listed : Listed) :
    let looked := (Scan.look backend.directory backend.lastScan backend.retry
      ⟨backend.registry, retry, notices⟩ listed).1.retry
    retry ⊆ looked ∧
      (⟨listed, backend.opens listed⟩ : Visit).Accounted backend.directory backend.memory
        looked := by
  have noted (scan : Scan) (path : String) : path ∈ (scan.again path).retry := by
    simp [Scan.again]
  rw [look_eq]
  dsimp only
  split
  · rename_i opened
    refine ⟨?_, fun _ => .inl opened⟩
    cases listed.opening? with
    | none => exact List.subset_append_left ..
    | some opening => exact retry_openNode ⟨backend.registry, retry, notices⟩ _ opening
  · split
    · exact ⟨List.subset_append_left .., fun _ => .inr (noted _ _)⟩
    · rename_i overdue
      exact ⟨List.Subset.refl _, fun due => absurd due overdue⟩

end Backend

/-! ## Steps -/

namespace Session

variable {session : Session} {effect : Effect} {step : Step} {seen : List Visit}

/-- What a detection under way came to is accounted for. -/
def Looked (session : Session) (seen : List Visit) : Prop :=
  ∀ retry ∈ session.consumer.noted?, ∀ visit ∈ seen,
    visit.Accounted session.backend.directory session.backend.memory retry

/-- What a step that tells of some visits, and of a detection that it ends, makes of the memory. -/
structure Tallied (session : Session) (told : List Visit × Option Detection) (next : Session) :
    Prop where
  directory : next.backend.directory = session.backend.directory
  scans : Scans session.backend.directory session.backend.memory told.2.toList
    next.backend.memory
  looked : next.Looked told.1

theorem looked_of_not_detecting (nothing : session.consumer.noted? = none) :
    session.Looked seen := by
  intro retry noted
  rw [nothing] at noted
  cases noted

/-- A detection under way has come to nothing yet. -/
theorem looked_nil : session.Looked [] := fun _ _ => List.forall_mem_nil _

/-- A step that has nothing to do with detections. -/
theorem Tallied.same {next : Session} (looked : session.Looked seen)
    (directory : next.backend.directory = session.backend.directory)
    (memory : next.backend.memory = session.backend.memory)
    (noted : next.consumer.noted? = none ∨
      next.consumer.noted? = session.consumer.noted?) :
    Tallied session (seen, none) next := by
  refine ⟨directory, ?_, ?_⟩
  · rw [memory]
    exact .nil
  · rcases noted with nothing | same
    · exact looked_of_not_detecting nothing
    · intro retry noted
      rw [same] at noted
      rw [directory, memory]
      exact looked retry noted

theorem beginDetect_tallied {now : Time} {listable : Bool}
    (taken : session.beginDetect? now listable = some effect) :
    Tallied session (session.tally seen (.beginDetect now listable)) effect.session := by
  unfold beginDetect? at taken
  obtain ⟨idle, rfl⟩ := of_startedCall? taken
  obtain ⟨backend, consumer⟩ := session
  subst idle
  simp only [tally, Effect.silent]
  cases backend.initialized with
  | false =>
    simp only [Bool.false_and, Bool.false_eq_true, if_false]
    exact ⟨rfl, .nil, looked_of_not_detecting rfl⟩
  | true =>
    cases listable with
    | true =>
      simp only [Bool.not_true, Bool.and_false, Bool.false_eq_true, if_false, if_true]
      exact ⟨rfl, .nil, looked_nil⟩
    | false =>
      simp only [Bool.not_false, Bool.and_true, Bool.false_eq_true, if_false, if_true]
      exact ⟨rfl, .unlisted .nil, looked_of_not_detecting rfl⟩

theorem examine_tallied (looked : session.Looked seen) {listed : Listed}
    (taken : session.examine? listed = some effect) :
    Tallied session (session.tally seen (.examine listed)) effect.session := by
  obtain ⟨backend, consumer⟩ := session
  unfold examine? at taken
  split at taken
  · rename_i now retry detecting
    subst detecting
    cases taken
    obtain ⟨kept, accounted⟩ := backend.retry_look retry [] listed
    refine ⟨rfl, .nil, ?_⟩
    rintro _ ⟨⟩ visit member
    rcases List.mem_append.mp member with earlier | last
    · intro due
      exact (looked retry rfl visit earlier due).imp_right fun noted => kept noted
    · rw [List.mem_singleton] at last
      subst last
      exact accounted
  all_goals cases taken

theorem endDetect_tallied (looked : session.Looked seen)
    (taken : session.endDetect? = some effect) :
    Tallied session (session.tally seen .endDetect) effect.session := by
  obtain ⟨backend, consumer⟩ := session
  unfold endDetect? at taken
  split at taken
  · rename_i now retry detecting
    subst detecting
    cases taken
    exact ⟨rfl, .listed (looked retry rfl) .nil, looked_of_not_detecting rfl⟩
  all_goals cases taken

theorem announce_tallied (looked : session.Looked seen) (taken : session.announce? = some effect) :
    Tallied session (seen, none) effect.session := by
  obtain ⟨backend, consumer⟩ := session
  unfold announce? at taken
  split at taken
  · rename_i now retry id detecting
    subst detecting
    cases taken
    exact .same looked rfl rfl (.inr rfl)
  all_goals cases taken

theorem readerStep_tallied (looked : session.Looked seen) {id : DeviceId}
    {f : Reader → Option (Reader × List EventKind)}
    (taken : session.readerStep? id f = some effect) :
    Tallied session (seen, none) effect.session := by
  unfold readerStep? at taken
  split at taken
  · simp only [Option.bind_eq_bind, Option.bind_eq_some_iff, Option.pure_def,
      Option.some.injEq] at taken
    obtain ⟨⟨reader, kinds⟩, -, rfl⟩ := taken
    exact .same looked rfl rfl (.inr rfl)
  · split at taken
    · simp only [Option.bind_eq_bind, Option.bind_eq_some_iff, Option.pure_def,
        Option.some.injEq] at taken
      obtain ⟨entry, -, ⟨reader, kinds⟩, -, rfl⟩ := taken
      exact .same looked rfl rfl (.inl rfl)
    all_goals cases taken

/-- What every step but the end of a shutdown makes of the memory. -/
theorem step?_tallied (looked : session.Looked seen) (lasts : step ≠ .endShutdown)
    (taken : session.step? step = some effect) :
    Tallied session (session.tally seen step) effect.session := by
  cases step with
  | endShutdown => exact absurd rfl lasts
  | beginDetect now listable => exact beginDetect_tallied taken
  | examine listed => exact examine_tallied looked taken
  | announce => exact announce_tallied looked taken
  | endDetect => exact endDetect_tallied looked taken
  | read | send =>
    simp only [step?, read?, send?] at taken
    exact readerStep_tallied looked taken
  | start | beginShutdown =>
    simp only [step?, beginShutdown?] at taken
    obtain ⟨-, rfl⟩ := of_call? taken
    exact .same looked rfl rfl (.inl rfl)
  | beginProcess =>
    simp only [step?, beginProcess?] at taken
    obtain ⟨idle, rfl⟩ := of_startedCall? taken
    obtain ⟨backend, consumer⟩ := session
    subst idle
    simp only [Effect.silent]
    split <;> exact .same looked rfl rfl (.inl rfl)
  | deliver | endProcess | stop =>
    obtain ⟨backend, consumer⟩ := session
    simp only [step?, deliver?, endProcess?, stop?] at taken
    split at taken
    · cases taken
      exact .same looked rfl rfl (.inl rfl)
    all_goals cases taken

/-- The memory after a run is what its detections make of the memory before. -/
theorem scans_of_run? {steps : List Step} (looked : session.Looked seen)
    (lasts : .endShutdown ∉ steps) (ran : session.run? steps = some effect) :
    Scans session.backend.directory session.backend.memory (session.detections seen steps)
      effect.session.backend.memory := by
  induction steps generalizing session seen effect with
  | nil =>
    cases ran
    exact .nil
  | cons step rest ih =>
    rw [List.mem_cons, not_or] at lasts
    cases taken : session.step? step with
    | none => simp [run?, taken] at ran
    | some first =>
      cases others : first.session.run? rest with
      | none => simp [run?, taken, others] at ran
      | some second =>
        simp only [run?, taken, others, Option.bind_eq_bind, Option.bind_some, Option.pure_def,
          Option.some.injEq] at ran
        subst ran
        have tallied := step?_tallied looked (Ne.symm lasts.1) taken
        have onward := ih tallied.looked lasts.2 others
        rw [tallied.directory] at onward
        simp only [detections, taken]
        exact tallied.scans.append onward

/-! ## Runs -/

/-- Nothing is remembered at the start and after a shutdown, and no detection is under way. -/
theorem memory_of_closed {directory : String} {before : List Step} {there : Effect}
    (closed : before = [] ∨ ∃ earlier, before = earlier ++ [.endShutdown])
    (ran : (ofBackend (.ofDirectory directory)).run? before = some there) :
    there.session.backend.memory = ⟨none, []⟩ ∧ there.session.consumer = .idle := by
  rcases closed with rfl | ⟨earlier, rfl⟩
  · cases ran
    exact ⟨rfl, rfl⟩
  · obtain ⟨arrived, last, -, ends, same⟩ := of_run?_append ran
    obtain ⟨⟨backend, consumer⟩, notices, queued, started⟩ := arrived
    simp only [step?, endShutdown?] at ends
    rw [same]
    split at ends
    · cases ends
      exact ⟨rfl, rfl⟩
    all_goals cases ends

theorem directory_run? {steps : List Step} (ran : session.run? steps = some effect) :
    effect.session.backend.directory = session.backend.directory := by
  induction steps using List.reverseRecOn generalizing effect with
  | nil =>
    cases ran
    rfl
  | append_singleton steps step ih =>
    obtain ⟨there, last, came, taken, same⟩ := of_run?_append ran
    rw [same, ← ih came]
    by_cases ends : step = .endShutdown
    · subst ends
      obtain ⟨⟨backend, consumer⟩, notices, queued, started⟩ := there
      simp only [step?, endShutdown?] at taken
      split at taken
      · cases taken
        rfl
      all_goals cases taken
    · exact (step?_tallied looked_nil ends taken).directory

/-- Since the start or a shutdown, a node is opened or is to be looked at again once a detection has
ended that began after the node appeared, if the first such detection could list the directory and
read the node's time.  Earlier detections began no later than the node appeared, and it was modified
no earlier. -/
theorem detections_find {directory name : String} {before steps : List Step}
    {there effect : Effect} {appeared : Time} {old recent : List Detection} {first : Detection}
    (closed : before = [] ∨ ∃ earlier, before = earlier ++ [.endShutdown])
    (began : (ofBackend (.ofDirectory directory)).run? before = some there)
    (lasts : .endShutdown ∉ steps) (ran : there.session.run? steps = some effect)
    (node : isEventNode name = true)
    (split : there.session.detections [] steps = old ++ first :: recent)
    (clock : ∀ detection ∈ old, detection.now ≤ appeared)
    (shown : ∀ detection ∈ first :: recent, detection.Shows name appeared)
    (succeeds : first.Succeeds name) :
    (∃ detection ∈ first :: recent, detection.Opens name) ∨
      Path.child directory name ∈ effect.session.backend.retry := by
  obtain ⟨fresh, -⟩ := memory_of_closed closed began
  have scans := scans_of_run? looked_nil lasts ran
  rw [split, fresh, directory_run? began] at scans
  obtain ⟨middle, until_, since⟩ := scans.of_append
  exact since.finds node (until_.lastScan_le nofun clock) shown succeeds

/-- A node that appeared between two scans and was there before the second. -/
theorem detections_find_second :
    let node : Listed := ⟨"event0", some 3, none⟩
    let steps : List Step :=
      [.start, .beginDetect 2 true, .endDetect, .beginDetect 4 true, .examine node, .endDetect]
    ∃ effect, (ofBackend (.ofDirectory "/dev/input")).run? steps = some effect ∧
      ((∃ detection ∈ [⟨4, some [⟨node, true⟩]⟩], Detection.Opens detection "event0") ∨
        Path.child "/dev/input" "event0" ∈ effect.session.backend.retry) := by
  intro node steps
  have split : (ofBackend (.ofDirectory "/dev/input")).detections [] steps =
      [⟨2, some []⟩] ++ ⟨4, some [⟨node, true⟩]⟩ :: [] := by
    decide +kernel
  obtain ⟨effect, ran⟩ := Option.isSome_iff_exists.mp
    (show ((ofBackend (.ofDirectory "/dev/input")).run? steps).isSome = true by decide +kernel)
  exact ⟨effect, ran, @detections_find "/dev/input" "event0" [] steps
    (.silent (ofBackend (.ofDirectory "/dev/input"))) effect 3 _ _ _ (.inl rfl) rfl
    (by decide) ran (by decide +kernel) split (by decide) (by decide) (by decide)⟩

/-- A detection that succeeds passes over a node if the one before could not list the directory: the
failed scan came after the node was modified. -/
theorem unlisted_passed_over :
    ¬∀ (directory name : String) (steps : List Step) (effect : Effect) (appeared : Time)
        (old recent : List Detection) (last : Detection), .endShutdown ∉ steps →
      (ofBackend (.ofDirectory directory)).run? steps = some effect → isEventNode name = true →
      (ofBackend (.ofDirectory directory)).detections [] steps = old ++ recent ++ [last] →
      ((old ++ recent ++ [last]).map (·.now)).Pairwise (· ≤ ·) →
      (∀ detection ∈ old, detection.now ≤ appeared) →
      (∀ detection ∈ recent ++ [last], appeared ≤ detection.now) →
      (∀ detection ∈ recent ++ [last], detection.Shows name appeared) → last.Succeeds name →
      (∃ detection ∈ recent ++ [last], detection.Opens name) ∨
        Path.child directory name ∈ effect.session.backend.retry := by
  intro claimed
  let node : Listed := ⟨"event0", some 1, none⟩
  let steps : List Step :=
    [.start, .beginDetect 2 false, .beginDetect 3 true, .examine node, .endDetect]
  have forgotten : ((ofBackend (.ofDirectory "/dev/input")).run? steps).map
      (·.session.backend.retry) = some [] := by
    decide +kernel
  obtain ⟨effect, ran, retry⟩ := Option.map_eq_some_iff.mp forgotten
  have refuted := claimed "/dev/input" "event0" steps effect 1 [] [⟨2, none⟩]
    ⟨3, some [⟨node, false⟩]⟩ (by decide) ran (by decide +kernel) (by decide +kernel) (by decide)
    (by decide) (by decide) (by decide) (by decide)
  rw [retry] at refuted
  revert refuted
  decide

end Session

end GamepadInput.Evdev
