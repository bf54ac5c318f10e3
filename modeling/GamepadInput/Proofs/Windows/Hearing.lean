import GamepadInput.Proofs.Windows.Run

/-!
# What is heard of the devices of Windows

Whatever the system answers, a call leaves nothing waiting, and the life of every device is in
order.  A device whose read fails is let go within the same processing, after the input of the
others and without its own (`hears_polls`).
-/

namespace GamepadInput.Windows.Backend

/-- What listeners hear in a run from a backend that was never started on. -/
structure Hears (fresh : Backend) (calls : List Call) (whole : Outcome Backend) : Prop where
  /-- Nothing waits for another call. -/
  idle : whole.backend.hub.pending = 0
  lifecycle : ∀ id, Lifecycle ((heardOf whole.notices id).map (·.kind))
  nodup_live : (whole.backend.hub.registry.devices.map (·.id)).Nodup
  /-- Those devices are live that were heard to come, and not to go, since the last shutdown. -/
  live_iff : ∀ before since there done, calls = before ++ since →
    (before = [] ∨ ∃ earlier, before = earlier ++ [.shutdown]) → .shutdown ∉ since →
    fresh.run before = .ok there → there.backend.run since = .ok done →
    ∀ id, id ∈ whole.backend.hub.registry.devices.map (·.id) ↔
      .attached ∈ (heardOf done.notices id).map (·.kind) ∧
        .removed ∉ (heardOf done.notices id).map (·.kind)
  /-- A processing hears the input of the devices that answer, then lets go of those that fail:
  what these have queued is not heard, nor anything of them later. -/
  polled : ∀ before readings later there session, calls = before ++ .process readings :: later →
    fresh.run before = .ok there → there.backend.session = some session →
    ∃ done inputs removals,
      there.backend.perform (.process readings) = .ok ⟨done, inputs ++ removals⟩ ∧
      (∀ notice ∈ inputs, notice.kind.isInput = true) ∧
      (∀ notice ∈ removals, notice.kind = .removed) ∧
      ∀ entry ∈ there.backend.hub.registry.live, ∃ poll,
        pollPad there.backend.maxReports session.standard readings entry.data = .ok poll ∧
        (heardOf inputs entry.id).map (·.kind) = (if poll.failed then [] else poll.kinds) ∧
        (heardOf removals entry.id).map (·.kind) = (if poll.failed then [.removed] else []) ∧
        (poll.failed = true → heardOf whole.notices entry.id =
          heardOf there.notices entry.id ++ heardOf removals entry.id)
  /-- A backend that is not started hears and does nothing. -/
  unstarted : ∀ before call later there, calls = before ++ call :: later →
    fresh.run before = .ok there → there.backend.session = none →
    ((∃ sighting, call = .detect sighting) ∨ ∃ readings, call = .process readings) →
    there.backend.perform call = .ok ⟨there.backend, []⟩

section Runs

variable {standardGamepads : Bool} {maxReports : Nat} {calls before since : List Call}
  {there done : Outcome Backend}

theorem sound_new (standardGamepads : Bool) (maxReports : Nat) :
    Sound (ofSettings standardGamepads maxReports).hub := .empty

theorem absent_new (standardGamepads : Bool) (maxReports : Nat) (id : DeviceId) :
    (ofSettings standardGamepads maxReports).hub.Stands id .absent := .empty id

/-- Where devices stand after calls. -/
theorem story_run (fits : ∀ call ∈ calls, call.Fits)
    (ran : (ofSettings standardGamepads maxReports).run calls = .ok there) :
    Sound there.backend.hub ∧ ∀ id, ∃ standing, there.backend.hub.Stands id standing ∧
      Story standing ((heardOf there.notices id).map (·.kind)) := by
  obtain ⟨done, same, sound, path⟩ := (sound_new standardGamepads maxReports).run fits
  cases ran.symm.trans same
  exact ⟨sound, fun id => path.story (absent_new standardGamepads maxReports id) .absent⟩

/-- At first, and after a shutdown, a device did not come yet or is gone. -/
theorem unlive_of_stopped (fits : ∀ call ∈ before, call.Fits)
    (stopped : before = [] ∨ ∃ earlier, before = earlier ++ [.shutdown])
    (ran : (ofSettings standardGamepads maxReports).run before = .ok there) (id : DeviceId) :
    there.backend.hub.Stands id .absent ∨ there.backend.hub.Stands id .gone := by
  rcases stopped with rfl | ⟨earlier, rfl⟩
  · cases ran
    exact .inl (absent_new standardGamepads maxReports id)
  · obtain ⟨middle, first, -, path⟩ := (sound_new standardGamepads maxReports).run
      fun call member => fits call (List.mem_append_left _ member)
    have last : middle.backend.run [.shutdown] = .ok ⟨middle.backend.shutdown, [] ++ []⟩ := rfl
    cases ran.symm.trans (runAll_append first last)
    obtain ⟨standing, stands, -⟩ := path.story (absent_new standardGamepads maxReports id) .absent
    have cleared : middle.backend.shutdown.hub.Stands id standing.cleared := stands.clear
    cases standing with
    | absent => exact .inl cleared
    | present | unplugged | gone => exact .inr cleared

theorem live_iff_heard (fits : ∀ call ∈ before ++ since, call.Fits)
    (stopped : before = [] ∨ ∃ earlier, before = earlier ++ [.shutdown])
    (lasts : .shutdown ∉ since)
    (came : (ofSettings standardGamepads maxReports).run before = .ok there)
    (ran : there.backend.run since = .ok done) (id : DeviceId) :
    id ∈ done.backend.hub.registry.devices.map (·.id) ↔
      .attached ∈ (heardOf done.notices id).map (·.kind) ∧
        .removed ∉ (heardOf done.notices id).map (·.kind) := by
  have early : ∀ call ∈ before, call.Fits := fun call member => fits call (by simp [member])
  have late : ∀ call ∈ since, call.Fits := fun call member => fits call (by simp [member])
  obtain ⟨sound, -⟩ := story_run early came
  obtain ⟨same, lasting, ends, carries⟩ := sound.lasting late lasts
  cases ran.symm.trans lasting
  rcases unlive_of_stopped early stopped came id with stands | stands
  · obtain ⟨next, turns, arrives⟩ := carries id _ [] stands .absent
    rw [arrives.mem_live_iff]
    exact (Story.absent.turns turns).live_iff (arrives.isDrained ends.idle)
      fun goes => Story.absent.quits turns goes nofun
  · obtain ⟨next, turns, arrives⟩ := carries id _ [] stands .silent
    obtain ⟨rfl, silent⟩ := turns.of_gone
    rw [arrives.mem_live_iff, silent]
    simp [Standing.live?]

/-- What a processing lets be heard, then and later. -/
theorem hears_process {readings : Readings} {later : List Call} {session : Session}
    {whole : Outcome Backend} (fits : ∀ call ∈ before ++ .process readings :: later, call.Fits)
    (came : (ofSettings standardGamepads maxReports).run before = .ok there)
    (started : there.backend.session = some session)
    (ran : (ofSettings standardGamepads maxReports).run (before ++ .process readings :: later) =
      .ok whole) :
    ∃ done inputs removals,
      there.backend.perform (.process readings) = .ok ⟨done, inputs ++ removals⟩ ∧
      (∀ notice ∈ inputs, notice.kind.isInput = true) ∧
      (∀ notice ∈ removals, notice.kind = .removed) ∧
      ∀ entry ∈ there.backend.hub.registry.live, ∃ poll,
        pollPad there.backend.maxReports session.standard readings entry.data = .ok poll ∧
        (heardOf inputs entry.id).map (·.kind) = (if poll.failed then [] else poll.kinds) ∧
        (heardOf removals entry.id).map (·.kind) = (if poll.failed then [.removed] else []) ∧
        (poll.failed = true → heardOf whole.notices entry.id =
          heardOf there.notices entry.id ++ heardOf removals entry.id) := by
  have early : ∀ call ∈ before, call.Fits := fun call member => fits call (by simp [member])
  have late : ∀ call ∈ later, call.Fits := fun call member => fits call (by simp [member])
  have answers : (Call.process readings).Fits := fits (.process readings) (by simp)
  obtain ⟨sound, -⟩ := story_run early came
  obtain ⟨done, inputs, removals, processing⟩ := sound.processing started answers
  have ends : Sound done.hub :=
    sound.of_carries processing.carries processing.bounded processing.idle
  obtain ⟨last, rest, -, path⟩ := ends.run late
  cases ran.symm.trans (runAll_append came (runAll_cons processing.performed rest))
  refine ⟨done, inputs, removals, processing.performed, processing.isInput sound,
    processing.removed sound, fun entry live => ?_⟩
  obtain ⟨poll, polled, input, changes, arrives⟩ := processing.live sound live
  refine ⟨poll, polled, ?_, ?_, fun failed => ?_⟩
  · rw [input, kinds_delivery_polled]
  · rw [changes, kinds_announcement_polled]
  · -- it is gone when the processing ends, so the rest of the run does not tell of it
    have left : done.hub.Stands entry.id .gone := by
      simpa [Backend.polled, failed, Standing.processed, Standing.detected] using arrives
    have nothing : heardOf inputs entry.id = [] := by
      rw [input]
      simp [Backend.polled, failed, Standing.delivery]
    simp [heardOf_append, nothing, path.of_gone left]

end Runs

/-- Whatever the system answers, as long as it fits 32 bits. -/
theorem hears_polls (standardGamepads : Bool) (maxReports : Nat) (calls : List Call)
    (fits : ∀ call ∈ calls, call.Fits) :
    ∃ whole, (ofSettings standardGamepads maxReports).run calls = .ok whole ∧
      Hears (ofSettings standardGamepads maxReports) calls whole := by
  obtain ⟨whole, ran, sound, -⟩ := (sound_new standardGamepads maxReports).run fits
  obtain ⟨-, stories⟩ := story_run fits ran
  refine ⟨whole, ran, ?_⟩
  constructor
  · exact sound.idle
  · intro id
    obtain ⟨standing, -, story⟩ := stories id
    exact story.lifecycle
  · refine Hub.nodup_live _ fun id => ?_
    obtain ⟨standing, stands, -⟩ := stories id
    exact ⟨standing, stands⟩
  · intro before since there done split stopped lasts came went id
    subst split
    cases ran.symm.trans (runAll_append came went)
    exact live_iff_heard fits stopped lasts came went id
  · intro before readings later there session split came started
    subst split
    exact hears_process fits came started ran
  · rintro before call later there - - unstarted (⟨sighting, rfl⟩ | ⟨readings, rfl⟩)
    · simp only [perform, detect, unstarted]
    · simp only [perform, process, unstarted]
      rfl

/-- Two pads are pressed, and the second read of the left one fails: its press is not heard, and its
removal is, behind the press of the right one. -/
theorem hears_polls_failing :
    let pad (path : String) : Offer := ⟨⟨path, 1, 2, 1, 5, none, none⟩,
      some ⟨2, fun _ => .list [⟨0, 0, .single 9 1⟩], fun _ => .list []⟩, some .buffered⟩
    let queries : Hid.Queries := ⟨fun _ _ _ => some [1], fun _ _ _ _ => none⟩
    let readings : Readings :=
      ⟨fun path => ⟨if path = "left" then [some [1], none] else [some [1]], queries⟩,
        fun _ _ => none⟩
    let calls : List Call := [.start ⟨none, .plain, true⟩,
      .detect ⟨false, some [pad "left", pad "right"], fun _ => false⟩, .process readings]
    (∀ call ∈ calls, call.Fits) ∧
      ∃ whole, (ofSettings true 8).run calls = .ok whole ∧
        Hears (ofSettings true 8) calls whole ∧
        whole.notices.map (fun notice => (notice.device.id, notice.kind)) =
          [(0, .attached), (1, .attached), (1, .button 0 true), (0, .removed)] := by
  intro pad queries readings calls
  have seen : (⟨false, some [pad "left", pad "right"], fun _ => false⟩ : Sighting).Fits := by
    simp [Sighting.Fits, Offer.Fits, Hid.Description.Fits, pad]
  have read : readings.Fits := ⟨fun _ => by simp [Hid.Queries.Fits, readings, queries], nofun⟩
  have fits : ∀ call ∈ calls, call.Fits := by
    simp [calls, Call.Fits, seen, read]
  obtain ⟨whole, ran, hears⟩ := hears_polls true 8 calls fits
  have heard : ((ofSettings true 8).run calls).map
      (fun whole => whole.notices.map fun notice => (notice.device.id, notice.kind)) =
      .ok [(0, .attached), (1, .attached), (1, .button 0 true), (0, .removed)] := by
    decide +kernel
  rw [ran] at heard
  exact ⟨fits, whole, ran, hears, Except.ok.inj heard⟩

end GamepadInput.Windows.Backend
