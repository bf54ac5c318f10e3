import GamepadInput.Proofs.Windows.Interfaces

/-!
# When interfaces are enumerated

With notifications, the first detection after a start enumerates HID interfaces, and of the others
those that a notification came in for.  A detection that gets a listing brings the open devices in
line with it (`enumeration_schedule`).

A detection whose enumeration fails leaves the open devices as they are, but it uses up its
notification: nothing is enumerated before the next one comes in (`failed_enumeration_forgotten`).
-/

namespace GamepadInput.Windows

def Call.isDetect : Call → Bool
  | detect _ => true
  | start _ | process _ | shutdown => false

/-- The session after calls that do not end it. -/
def Session.after (session : Session) (calls : List Call) : Session :=
  { session with rescan := session.rescan && !calls.any Call.isDetect }

namespace Backend

variable {backend : Backend} {session : Session} {call : Call} {calls : List Call}
  {done : Outcome Backend}

/-! ## What calls leave alone -/

/-- A processing changes the hub only. -/
theorem process_frame {readings : Readings} {processed : Processed}
    (performed : backend.process readings = .ok processed) :
    processed.backend = { backend with hub := processed.backend.hub } := by
  unfold process at performed
  split at performed
  · cases performed
    rfl
  · obtain ⟨⟨hub, failed, taken⟩, -, performed⟩ := exists_of_bind_ok performed
    cases performed
    rfl

theorem session_process {readings : Readings}
    (performed : backend.perform (.process readings) = .ok done) :
    done.backend.session = backend.session := by
  obtain ⟨processed, finished, performed⟩ := exists_of_bind_ok performed
  cases performed
  rw [process_frame finished]

theorem start_of_session (started : backend.session = some session) (startup : Startup) :
    backend.start startup = .ok backend := by
  simp [start, started]

/-- A call that does not end a session leaves it as it is, but for what a detection remembers. -/
theorem session_perform (started : backend.session = some session) (goes : call ≠ .shutdown)
    (performed : backend.perform call = .ok done) :
    done.backend.session = some (session.after [call]) := by
  cases call with
  | shutdown => exact absurd rfl goes
  | start startup =>
    simp only [perform, start_of_session started, Except.ok.injEq] at performed
    rw [← performed]
    simp [started, Session.after, Call.isDetect]
  | detect sighting =>
    simp only [perform, detect_of_session started, Except.ok.injEq] at performed
    rw [← performed]
    simp [Session.after, Call.isDetect]
  | process readings =>
    rw [session_process performed, started]
    simp [Session.after, Call.isDetect]

theorem session_run (started : backend.session = some session) (lasts : .shutdown ∉ calls)
    (ran : backend.run calls = .ok done) :
    done.backend.session = some (session.after calls) := by
  induction calls generalizing backend session done with
  | nil =>
    cases ran
    simp [started, Session.after]
  | cons call rest ih =>
    obtain ⟨goes, lasts⟩ := List.ne_and_not_mem_of_not_mem_cons lasts
    obtain ⟨first, others, performed, onward, same⟩ := of_runAll_cons ran
    rw [same, ih (session_perform started (Ne.symm goes) performed) lasts onward]
    simp [Session.after, Bool.and_assoc]

/-- A call leaves the settings as they are. -/
theorem perform_frame (performed : backend.perform call = .ok done) :
    done.backend = { backend with hub := done.backend.hub, session := done.backend.session } := by
  cases call with
  | shutdown =>
    cases performed
    rfl
  | start startup =>
    simp only [perform] at performed
    split at performed
    · rename_i started starts
      cases performed
      unfold start at starts
      split at starts
      · cases starts
        rfl
      · split at starts <;> cases starts
        rfl
    · cases performed
      rfl
  | detect sighting =>
    cases performed
    cases started : backend.session with
    | none =>
      simp only [detect, started]
      rw [← started]
    | some session => rw [detect_of_session started]
  | process readings =>
    obtain ⟨processed, finished, performed⟩ := exists_of_bind_ok performed
    cases performed
    rw [process_frame finished]

theorem run_frame (ran : backend.run calls = .ok done) :
    done.backend = { backend with hub := done.backend.hub, session := done.backend.session } := by
  induction calls generalizing backend done with
  | nil =>
    cases ran
    rfl
  | cons call rest ih =>
    obtain ⟨first, others, performed, onward, same⟩ := of_runAll_cons ran
    rw [same, ih onward, perform_frame performed]

theorem standardGamepads_perform (performed : backend.perform call = .ok done) :
    done.backend.standardGamepads = backend.standardGamepads := by
  rw [perform_frame performed]

theorem standardGamepads_run (ran : backend.run calls = .ok done) :
    done.backend.standardGamepads = backend.standardGamepads := by
  rw [run_frame ran]

/-! ## What holds between two calls -/

structure Kept (backend : Backend) : Prop where
  sound : Sound backend.hub
  orderly : Orderly backend.hub
  /-- No device is open before the first detection. -/
  fresh : backend.session.all (·.rescan) = true → backend.hub.registry.live = []

namespace Kept

theorem new (standardGamepads : Bool) (maxReports : Nat) :
    Kept (ofSettings standardGamepads maxReports) where
  sound := .empty
  orderly := .of_nil .empty rfl
  fresh _ := rfl

theorem start (kept : Kept backend) {startup : Startup} {started : Backend}
    (starts : backend.start startup = .ok started) : Kept started := by
  have hub := hub_start starts
  refine ⟨hub ▸ kept.sound, hub ▸ kept.orderly, fun first => ?_⟩
  rw [hub]
  cases session : backend.session with
  | none => exact kept.fresh (by rw [session]; rfl)
  | some session =>
    rw [start_of_session session, Except.ok.injEq] at starts
    rw [← starts] at first
    exact kept.fresh first

theorem detect (kept : Kept backend) {sighting : Sighting} (fits : sighting.Fits) :
    Kept (backend.detect sighting).1 := by
  refine ⟨(kept.sound.detect fits).1, kept.orderly.detect sighting, fun first => ?_⟩
  cases started : backend.session with
  | none =>
    simp only [Backend.detect, started]
    exact kept.fresh (by rw [started]; rfl)
  | some session =>
    rw [detect_of_session started] at first
    cases first

theorem process (kept : Kept backend) {readings : Readings} (fits : readings.Fits) :
    ∃ done, backend.perform (.process readings) = .ok done ∧ Kept done.backend := by
  cases started : backend.session with
  | none =>
    refine ⟨⟨backend, []⟩, ?_, kept⟩
    simp only [Backend.perform, Backend.process, started]
    rfl
  | some session =>
    obtain ⟨done, inputs, removals, processing⟩ := kept.sound.processing started fits
    have ends : Sound done.hub :=
      kept.sound.of_carries processing.carries processing.bounded processing.idle
    refine ⟨_, processing.performed, ends, processing.orderly kept.sound ends kept.orderly, ?_⟩
    intro first
    rw [session_process processing.performed] at first
    refine List.eq_nil_iff_forall_not_mem.mpr fun entry live => ?_
    obtain ⟨old, there, -⟩ := processing.of_live kept.sound live
    rw [kept.fresh first] at there
    cases there

theorem perform (kept : Kept backend) (fits : call.Fits) :
    ∃ done, backend.perform call = .ok done ∧ Kept done.backend := by
  cases call with
  | shutdown =>
    have sound := kept.sound.shutdown
    exact ⟨_, rfl, sound, .of_nil sound.stood rfl, fun _ => rfl⟩
  | start startup =>
    cases starts : backend.start startup with
    | error reason => exact ⟨⟨backend, []⟩, by simp only [Backend.perform, starts], kept⟩
    | ok started =>
      exact ⟨⟨started, []⟩, by simp only [Backend.perform, starts], kept.start starts⟩
  | detect sighting => exact ⟨_, rfl, kept.detect fits⟩
  | process readings => exact kept.process fits

theorem of_perform (kept : Kept backend) (fits : call.Fits)
    (performed : backend.perform call = .ok done) : Kept done.backend := by
  obtain ⟨after, again, keeps⟩ := kept.perform fits
  cases performed.symm.trans again
  exact keeps

theorem run (kept : Kept backend) (fits : ∀ call ∈ calls, call.Fits)
    (ran : backend.run calls = .ok done) : Kept done.backend := by
  obtain ⟨last, same, ends, -⟩ := runAll_ok Kept Call.Fits (fun _ _ _ => True) (fun _ => trivial)
    (fun _ _ => trivial) (fun _ _ kept fits =>
      let ⟨done, performed, ends⟩ := kept.perform fits
      ⟨done, performed, ends, trivial⟩) kept fits
  cases ran.symm.trans same
  exact ends

end Kept

/-! ## The schedule -/

theorem enumerates_of_session (started : backend.session = some session) (sighting : Sighting) :
    backend.enumerates sighting = (session.rescan || !session.notified || sighting.changed) := by
  simp [enumerates, started, scansHid]

/-- With notifications, the first detection since a start enumerates interfaces, and any other just if
a notification came in.  If it gets a listing, those interfaces are open after it that are listed and
were open or can be opened; if it gets none, the same are open as before.  Either way the next
detection waits for a notification. -/
theorem enumeration_schedule {standardGamepads : Bool} {maxReports : Nat}
    {before since : List Call} {startup : Startup} {there done : Outcome Backend}
    (fits : ∀ call ∈ before ++ since, call.Fits)
    (came : (ofSettings standardGamepads maxReports).run before = .ok there)
    (stopped : there.backend.session = none) (starts : startup.hidError = none)
    (notifies : startup.notifications = true) (lasts : .shutdown ∉ since)
    (ran : there.backend.run (.start startup :: since) = .ok done) (sighting : Sighting) :
    (done.backend.enumerates sighting = true ↔
      (∀ earlier, .detect earlier ∉ since) ∨ sighting.changed = true) ∧
    (∀ path, isOpen (done.backend.detect sighting).1.hub path = true ↔
      (done.backend.listed? sighting).elim (isOpen done.backend.hub path = true) fun offers =>
        ∃ offer ∈ offers, offer.info.path = path ∧
          (isOpen done.backend.hub path = true ∨ offer.opens standardGamepads = true)) ∧
    ∀ following, (done.backend.detect sighting).1.enumerates following = following.changed := by
  have kept : Kept done.backend := by
    have whole : ∀ call ∈ before ++ .start startup :: since, call.Fits := by
      intro call member
      rcases List.mem_append.mp member with earlier | later
      · exact fits call (List.mem_append_left _ earlier)
      · rcases List.mem_cons.mp later with rfl | later
        · trivial
        · exact fits call (List.mem_append_right _ later)
    have ends := (Kept.new standardGamepads maxReports).run whole (runAll_append came ran)
    exact ends
  have setting : done.backend.standardGamepads = standardGamepads :=
    (standardGamepads_run ran).trans (standardGamepads_run came)
  obtain ⟨first, others, performed, onward, same⟩ := of_runAll_cons ran
  have began : ∃ session, first.backend.session = some session ∧ session.rescan = true ∧
      session.notified = true := by
    simp only [perform, start, stopped, starts, Option.isSome_none, Bool.false_eq_true, if_false,
      Except.ok.injEq] at performed
    rw [← performed]
    exact ⟨_, rfl, rfl, notifies⟩
  obtain ⟨session, started, rescan, notified⟩ := began
  have goes : done.backend.session = some (session.after since) := by
    rw [same]
    exact session_run started lasts onward
  refine ⟨?_, fun path => ?_, fun following => ?_⟩
  · rw [enumerates_of_session goes]
    have quiet : (∀ earlier, Call.detect earlier ∉ since) ↔ since.any Call.isDetect = false := by
      rw [List.any_eq_false]
      refine ⟨fun none call member detects => ?_, fun none earlier member => ?_⟩
      · cases call with
        | detect sighting => exact none sighting member
        | start | process | shutdown => cases detects
      · exact none _ member rfl
    simp [Session.after, rescan, notified, quiet]
  · rw [isOpen_detect kept.orderly, setting]
  · have detected : (done.backend.detect sighting).1.session =
        some { session.after since with rescan := false } := by
      rw [detect_of_session goes]
    rw [enumerates_of_session detected]
    simp [Session.after, notified]

/-- A pad with one button. -/
def plainPad : Offer :=
  ⟨⟨"pad", 1, 2, 1, 5, none, none⟩,
    some ⟨2, fun _ => .list [⟨0, 0, .single 9 1⟩], fun _ => .list []⟩, some .buffered⟩

theorem fits_plainPad : plainPad.Fits := by
  simp [Offer.Fits, Hid.Description.Fits, plainPad]

/-- The first detection could not enumerate.  A notification makes the next one find the pad. -/
theorem enumeration_schedule_notified :
    let failed : Sighting := ⟨false, none, fun _ => false⟩
    let next : Sighting := ⟨true, some [plainPad], fun _ => false⟩
    ∃ done, (ofSettings true 8).run [.start ⟨none, .plain, true⟩, .detect failed] = .ok done ∧
      done.backend.enumerates next = true ∧ isOpen (done.backend.detect next).1.hub "pad" = true := by
  intro failed next
  have fits : ∀ call ∈ [] ++ [Call.detect failed], call.Fits := by
    simp [Call.Fits, Sighting.Fits, failed]
  obtain ⟨done, ran⟩ : ∃ done, (ofSettings true 8).run
      [.start ⟨none, .plain, true⟩, .detect failed] = .ok done := ⟨_, rfl⟩
  obtain ⟨schedule, opened, -⟩ := @enumeration_schedule true 8 [] [.detect failed]
    ⟨none, .plain, true⟩ ⟨ofSettings true 8, []⟩ done fits rfl rfl rfl rfl (by simp) ran next
  have enumerates : done.backend.enumerates next = true := schedule.mpr (.inr rfl)
  refine ⟨done, ran, enumerates, (opened "pad").mpr ?_⟩
  have listed : done.backend.listed? next = some [plainPad] := by
    rw [listed?, if_pos enumerates]
  rw [listed]
  exact ⟨plainPad, by simp, rfl, .inr (by decide +kernel)⟩

/-- A detection that was due to enumerate and could not does not make the next one enumerate. -/
theorem failed_enumeration_forgotten :
    ¬∀ (standardGamepads : Bool) (maxReports : Nat) (calls : List Call) (there : Outcome Backend)
        (session : Session) (failed next : Sighting), (∀ call ∈ calls, call.Fits) →
      failed.Fits → (ofSettings standardGamepads maxReports).run calls = .ok there →
      there.backend.session = some session → session.notified = true →
      there.backend.enumerates failed = true → failed.listing = none →
      (there.backend.detect failed).1.enumerates next = true := by
  intro claimed
  have refuted := claimed true 8 [.start ⟨none, .plain, true⟩] _ _ ⟨false, none, fun _ => false⟩
    ⟨false, some [plainPad], fun _ => false⟩ (by simp [Call.Fits]) (by simp [Sighting.Fits]) rfl rfl
    rfl rfl rfl
  cases refuted

end Backend

end GamepadInput.Windows
