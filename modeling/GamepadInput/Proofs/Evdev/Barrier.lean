import GamepadInput.Proofs.Evdev.Trail

/-!
# What a shutdown leaves behind

However long readers go on queueing while they are stopped one after the other, a shutdown ends with
no device, nothing in the queue and no reader, and what is heard later is of devices that came later
(`shutdown_barrier`).
-/

namespace GamepadInput.Evdev

namespace Trail

variable {stage : Stage} {heard sent : List EventKind}

/-- A reader whose removal is delivered next has finished. -/
theorem finished {entry : Entry Node} {announced started : Bool} {batch queue : List EventKind}
    (trail : Trail (.live entry announced (.removed :: batch) queue) heard sent started) :
    entry.data.reader.isFinished = true := by
  cases trail with
  | @live _ _ delivered _ _ follows _ _ =>
    rw [List.append_assoc] at follows
    exact follows.removed_ends.2.2

/-- A device whose reader was started is numbered. -/
theorem numbered (trail : Trail stage heard sent true) : stage.isAbsent = false := by
  cases trail <;> rfl

/-- Without its reader started, nothing is heard of a device and nothing queued. -/
theorem silent (trail : Trail stage heard sent false) : heard = [] ∧ sent = [] := by
  cases trail <;> exact ⟨rfl, rfl⟩

end Trail

namespace Session

variable {session : Session} {id : DeviceId} {stage : Stage} {effect : Effect} {steps : List Step}
  {directory : String}

/-- Before a device leaves with its removal its reader has finished, so nothing runs on behind the
devices that left. -/
theorem finished_of_removal (ran : (ofBackend (.ofDirectory directory)).run? steps = some effect)
    {rest : List Event} (next : effect.session.consumer = .processing (.removed id :: rest))
    {entry : Entry Node} (live : effect.session.backend.registry.get? id = some entry) :
    entry.data.reader.isFinished = true := by
  obtain ⟨stage, holds, trail⟩ := run?_trail ran id
  rw [holds.get?_eq] at live
  cases stage with
  | absent | stopping | gone => cases live
  | live here announced batch queue =>
    cases live
    have front : kindsOf effect.session.consumer.batch id = batch :=
      congrArg Prod.fst (holds.pending _ rfl)
    rw [next] at front
    have first : batch = .removed :: kindsOf rest id := by
      rw [← front]
      simp [Consumer.batch, kindsOf, Event.removed]
    subst first
    exact trail.finished

/-! ## After a shutdown -/

/-- Nothing is left: no device, no event and no reader. -/
structure Cleared (session : Session) : Prop where
  idle : session.consumer = .idle
  live : session.backend.registry.live = []
  retired : session.backend.registry.retired = []
  queue : session.backend.queue = .empty
  /-- Nothing can be read or queued. -/
  readers (id : DeviceId) : (∀ reading, session.read? id reading = none) ∧ session.send? id = none

/-- The end of a shutdown leaves the consumer idle and the queue empty. -/
theorem of_endShutdown? (ended : session.endShutdown? = some effect) :
    effect.session.consumer = .idle ∧ effect.session.backend.queue = .empty := by
  obtain ⟨backend, consumer⟩ := session
  unfold endShutdown? at ended
  split at ended
  · cases ended
    exact ⟨rfl, rfl⟩
  all_goals cases ended

theorem readerStep?_none (live : session.backend.registry.live = []) (idle : session.consumer = .idle)
    (f : Reader → Option (Reader × List EventKind)) : session.readerStep? id f = none := by
  have nowhere : session.backend.registry.get? id = none := by simp [Registry.get?, live]
  simp only [readerStep?, nowhere, idle]

/-- Entries of which none has any number are none. -/
theorem nil_of_filter {entries : List (Entry Node)}
    (none : ∀ id, entries.filter (·.id = id) = []) : entries = [] := by
  cases entries with
  | nil => rfl
  | cons entry rest => simpa using none entry.id

/-- When a shutdown ends, every device is yet to come or gone, and so nothing is left. -/
theorem cleared_of_shutdown
    (came : (ofBackend (.ofDirectory directory)).run? (steps ++ [.endShutdown]) = some effect) :
    effect.session.Cleared := by
  have registry (id : DeviceId) : effect.session.backend.registry.only id =
      ⟨[], [], effect.session.backend.registry.nextId⟩ := by
    obtain ⟨stage, holds, -⟩ := run?_trail came id
    rcases holds.after_shutdown came with rfl | rfl <;> exact holds.registry
  have live : effect.session.backend.registry.live = [] :=
    nil_of_filter fun id => congrArg Registry.live (registry id)
  obtain ⟨there, last, -, ends, same⟩ := of_run?_append came
  obtain ⟨idle, queue⟩ := of_endShutdown? ends
  rw [← same] at idle queue
  exact {
    idle, live, queue
    retired := nil_of_filter fun id => congrArg Registry.retired (registry id)
    readers := fun id =>
      ⟨fun _ => readerStep?_none live idle _, readerStep?_none live idle _⟩ }

/-- A device whose reader was started has its number. -/
theorem started_lt (ran : (ofBackend (.ofDirectory directory)).run? steps = some effect)
    (starts : id ∈ effect.started) : id < effect.session.backend.registry.nextId := by
  obtain ⟨stage, holds, trail⟩ := run?_trail ran id
  rw [decide_eq_true starts] at trail
  refine Nat.lt_of_not_le fun early => ?_
  have absent := holds.absent_iff.mpr early
  rw [trail.numbered] at absent
  cases absent

/-- Of a device that nothing is left of, something is heard or queued only if it comes later. -/
theorem Holds.later (holds : session.Holds id stage) (left : stage = .absent ∨ stage = .gone)
    (ran : session.run? steps = some effect)
    (told : effect.heard id ≠ [] ∨ effect.sent id ≠ []) :
    session.backend.registry.nextId ≤ id ∧ id ∈ effect.started := by
  rcases left with rfl | rfl
  · obtain ⟨after, -, trail⟩ :=
      run?_keeps (P := Trail) (fun _ trail turns => trail.step turns) holds .absent ran
    refine ⟨holds.absent_iff.mp rfl, ?_⟩
    by_contra never
    rw [decide_eq_false never] at trail
    obtain ⟨silent, nothing⟩ := trail.silent
    rw [List.nil_append] at silent nothing
    simp [silent, nothing] at told
  · obtain ⟨-, silent, nothing⟩ := holds.run?_gone ran
    simp [silent, nothing] at told

theorem heard_ne_nil {notice : Notice} (heard : notice ∈ effect.notices) :
    effect.heard notice.device.id ≠ [] := by
  have mine : notice ∈ heardOf effect.notices notice.device.id := by simp [heardOf, heard]
  simpa [Effect.heard] using List.ne_nil_of_mem mine

theorem sent_ne_nil {event : Event} (queued : event ∈ effect.queued) :
    effect.sent event.device ≠ [] := by
  have mine : event ∈ effect.queued.filter (·.device = event.device) := by simp [queued]
  simpa [Effect.sent, kindsOf] using List.ne_nil_of_mem mine

/-- However the steps of the consumer and of the readers are mixed, a shutdown leaves nothing behind,
and whatever is heard or queued after it is of a device that was opened after it and has a higher
number than all before.  A device that leaves by its removal leaves no reader behind either. -/
theorem shutdown_barrier (directory : String) :
    (∀ steps effect id rest entry, (ofBackend (.ofDirectory directory)).run? steps = some effect →
      effect.session.consumer = .processing (.removed id :: rest) →
      effect.session.backend.registry.get? id = some entry →
      entry.data.reader.isFinished = true) ∧
    ∀ before there, (ofBackend (.ofDirectory directory)).run? (before ++ [.endShutdown]) =
        some there →
      there.session.Cleared ∧
      (∀ id ∈ there.started, id < there.session.backend.registry.nextId) ∧
      ∀ later effect, there.session.run? later = some effect →
        (∀ notice ∈ effect.notices, there.session.backend.registry.nextId ≤ notice.device.id ∧
          notice.device.id ∈ effect.started) ∧
        ∀ event ∈ effect.queued, there.session.backend.registry.nextId ≤ event.device ∧
          event.device ∈ effect.started := by
  refine ⟨fun _ _ _ _ _ ran next live => finished_of_removal ran next live, ?_⟩
  intro before there came
  refine ⟨cleared_of_shutdown came, fun id starts => started_lt came starts, ?_⟩
  intro later effect ran
  have fresh (id : DeviceId) (told : effect.heard id ≠ [] ∨ effect.sent id ≠ []) :
      there.session.backend.registry.nextId ≤ id ∧ id ∈ effect.started := by
    obtain ⟨stage, holds, -⟩ := run?_trail came id
    exact holds.later (holds.after_shutdown came) ran told
  exact ⟨fun notice heard => fresh _ (.inl (heard_ne_nil heard)),
    fun event queued => fresh _ (.inr (sent_ne_nil queued))⟩

/-- Two sticks, one of which was pressed and the other of which ends, are shut down.  The first still
queues its press while it is being stopped, and then the removal of the second is queued. -/
def interrupted : List Step :=
  [.start, .beginDetect 1 true, .examine ⟨"event0", some 1, some ⟨0, stick, true⟩⟩, .announce,
    .examine ⟨"event1", some 1, some ⟨1, stick, true⟩⟩, .announce, .endDetect,
    .read 0 (.sample ⟨keyKind, 0x130, 1⟩), .beginShutdown, .send 0, .read 1 .ended, .stop, .send 1,
    .stop]

/-- The next session, in which the first stick is pressed again. -/
def resumed : List Step :=
  [.start, .beginDetect 2 true, .examine ⟨"event0", some 1, some ⟨0, stick, true⟩⟩, .announce,
    .endDetect, .read 2 (.sample ⟨keyKind, 0x130, 1⟩), .send 2, .beginProcess, .deliver,
    .endProcess]

/-- A stick ends, and its removal is delivered next. -/
def leaving : List Step :=
  [.start, .beginDetect 1 true, .examine ⟨"event0", some 1, some ⟨0, stick, true⟩⟩, .announce,
    .endDetect, .read 0 .ended, .send 0, .beginProcess]

theorem shutdown_barrier_interrupted :
    (∃ effect entry, (ofBackend (.ofDirectory "/dev/input")).run? leaving = some effect ∧
      effect.session.backend.registry.get? 0 = some entry ∧
      entry.data.reader.isFinished = true) ∧
    ∃ there effect,
      (ofBackend (.ofDirectory "/dev/input")).run? (interrupted ++ [.endShutdown]) = some there ∧
      there.queued = [⟨0, .button 0 true⟩, ⟨1, .removed⟩] ∧ there.session.Cleared ∧
      there.session.run? resumed = some effect ∧
      effect.notices.map (fun notice => (notice.device.id, notice.kind)) =
        [(2, .attached), (2, .button 0 true)] ∧
      ∀ notice ∈ effect.notices, there.session.backend.registry.nextId ≤ notice.device.id := by
  obtain ⟨finished, barrier⟩ := shutdown_barrier "/dev/input"
  have ends : ((ofBackend (.ofDirectory "/dev/input")).run? leaving).map (fun effect =>
      (effect.session.consumer, (effect.session.backend.registry.get? 0).isSome)) =
      some (.processing [.removed 0], true) := by
    decide +kernel
  obtain ⟨last, left, is_⟩ := Option.map_eq_some_iff.mp ends
  obtain ⟨next, live⟩ := Prod.mk.inj is_
  obtain ⟨entry, found⟩ := Option.isSome_iff_exists.mp live
  refine ⟨⟨last, entry, left, found, finished leaving last 0 [] entry left next found⟩, ?_⟩
  have known : ((ofBackend (.ofDirectory "/dev/input")).run? (interrupted ++ [.endShutdown])).map
      (fun there => (there.queued, (there.session.run? resumed).map fun effect =>
        effect.notices.map fun notice => (notice.device.id, notice.kind))) =
      some ([⟨0, .button 0 true⟩, ⟨1, .removed⟩],
        some [(2, .attached), (2, .button 0 true)]) := by
    decide +kernel
  obtain ⟨there, came, is_⟩ := Option.map_eq_some_iff.mp known
  obtain ⟨queued, heard⟩ := Prod.mk.inj is_
  obtain ⟨effect, ran, notices⟩ := Option.map_eq_some_iff.mp heard
  obtain ⟨cleared, -, onward⟩ := barrier interrupted there came
  exact ⟨there, effect, came, queued, cleared, ran, notices,
    fun notice member => ((onward resumed effect ran).1 notice member).1⟩

end Session

end GamepadInput.Evdev
