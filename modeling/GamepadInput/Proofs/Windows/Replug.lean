import GamepadInput.Proofs.Windows.Roster

/-!
# Interfaces that are plugged in again

A device whose read fails is let go, and only a detection opens its path again (`closed_of_failed`,
`closed_run`).  If the interface is plugged in again under the same path, the next detection attaches
it just if a notification came in since the last one (`reattached_iff_notified`).

A notification that a detection used up while the old device still held the path is lost: nothing
tells the backend to look at the path again once the read has failed (`replug_missed`).
-/

namespace GamepadInput.Windows.Backend

variable {backend : Backend} {session : Session} {call : Call} {calls : List Call}
  {done : Outcome Backend} {path : String} {sighting : Sighting} {readings : Readings}

/-! ## What a detection attaches -/

/-- An interface that was not open is told to be attached just if a detection opens it. -/
theorem attached_iff_isOpen (kept : Kept backend) (fits : sighting.Fits)
    (closed : isOpen backend.hub path = false) :
    (∃ notice ∈ (backend.detect sighting).2,
        notice.kind = .attached ∧ hidPathOf? notice.device = some path) ↔
      isOpen (backend.detect sighting).1.hub path = true := by
  cases started : backend.session with
  | none => simp [Backend.detect, started, closed]
  | some session =>
    have orderly := kept.orderly.search (.found started sighting)
    have unopened (entry : Entry Pad) (here : entry.data.hidPath? = some path) :
        entry ∉ backend.hub.registry.live := by
      intro live
      rw [isOpen_of_mem live here] at closed
      cases closed
    rw [detect_of_session started, isOpen_iff]
    dsimp only
    rw [mem_openPaths_dispatchDevices orderly.stood]
    constructor
    · rintro ⟨⟨device, kind⟩, heard, rfl, named⟩
      obtain ⟨data, waiting, stands⟩ := orderly.stood.mem_attached_iff.mp heard
      have here := orderly.named _ stands.mem_live
      exact mem_openPaths.mpr ⟨_, stands.mem_live, here.symm.trans named⟩
    · intro opened
      obtain ⟨entry, live, here⟩ := mem_openPaths.mp opened
      obtain ⟨standing, stands⟩ := orderly.stood entry.id
      have present := stands.mem_live_iff_live?.mp live
      cases standing with
      | absent | unplugged | gone => cases present
      | present same announced waiting =>
        cases present
        cases kept.sound.unannounced started fits (unopened entry here) stands
        refine ⟨⟨entry.device, .attached⟩, ?_, rfl, (orderly.named entry live).trans here⟩
        exact orderly.stood.mem_attached_iff.mpr ⟨entry.data, waiting, stands⟩

/-! ## What other calls let go -/

/-- A device whose read fails leaves its path closed. -/
theorem closed_of_failed (kept : Kept backend) (started : backend.session = some session)
    (fits : readings.Fits) {entry : Entry Pad} {poll : Poll}
    (live : entry ∈ backend.hub.registry.live) (here : entry.data.hidPath? = some path)
    (polled : pollPad backend.maxReports session.standard readings entry.data = .ok poll)
    (failed : poll.failed = true) (performed : backend.perform (.process readings) = .ok done) :
    isOpen done.backend.hub path = false := by
  obtain ⟨after, inputs, removals, processing⟩ := kept.sound.processing started fits
  cases performed.symm.trans processing.performed
  by_contra opened
  rw [Bool.not_eq_false] at opened
  obtain ⟨old, was, same, again, read, answers⟩ := processing.of_isOpen kept.sound opened
  -- no two devices are open at one path, so this is the device that failed
  cases kept.orderly.apart old was entry live path same here
  cases read.symm.trans polled
  rw [failed] at answers
  cases answers

/-- Only a detection opens an interface. -/
theorem closed_perform (kept : Kept backend) (fits : call.Fits) (quiet : call.isDetect = false)
    (closed : isOpen backend.hub path = false) (performed : backend.perform call = .ok done) :
    isOpen done.backend.hub path = false := by
  cases call with
  | detect => cases quiet
  | shutdown =>
    cases performed
    rfl
  | start startup =>
    simp only [Backend.perform] at performed
    split at performed
    · rename_i started starts
      cases performed
      rw [hub_start starts]
      exact closed
    · cases performed
      exact closed
  | process readings =>
    cases started : backend.session with
    | none =>
      simp only [Backend.perform, process, started] at performed
      cases performed
      exact closed
    | some session =>
      obtain ⟨after, inputs, removals, processing⟩ := kept.sound.processing started fits
      cases performed.symm.trans processing.performed
      by_contra opened
      rw [Bool.not_eq_false] at opened
      obtain ⟨old, was, here, -⟩ := processing.of_isOpen kept.sound opened
      rw [isOpen_of_mem was here] at closed
      cases closed

theorem closed_run (kept : Kept backend) (fits : ∀ call ∈ calls, call.Fits)
    (quiet : ∀ call ∈ calls, call.isDetect = false) (closed : isOpen backend.hub path = false)
    (ran : backend.run calls = .ok done) : isOpen done.backend.hub path = false := by
  induction calls generalizing backend done with
  | nil =>
    cases ran
    exact closed
  | cons call rest ih =>
    rw [List.forall_mem_cons] at fits quiet
    obtain ⟨first, others, performed, onward, same⟩ := of_runAll_cons ran
    rw [same]
    exact ih (kept.of_perform fits.1 performed) fits.2 quiet.2
      (closed_perform kept fits.1 quiet.1 closed performed) onward

/-! ## Plugged in again -/

/-- An interface is open, a read of it fails, and no detection follows for a while.  Then a detection
that lists the interface and could open it attaches it just if a notification came in since the
detection before. -/
theorem reattached_iff_notified {standardGamepads : Bool} {maxReports : Nat}
    {before quiet : List Call} {there : Outcome Backend} {entry : Entry Pad} {poll : Poll}
    {offers : List Offer} {offer : Offer}
    (fits : ∀ call ∈ before ++ .process readings :: quiet, call.Fits) (seen : sighting.Fits)
    (came : (ofSettings standardGamepads maxReports).run before = .ok there)
    (started : there.backend.session = some session) (notified : session.notified = true)
    (live : entry ∈ there.backend.hub.registry.live) (here : entry.data.hidPath? = some path)
    (polled : pollPad there.backend.maxReports session.standard readings entry.data = .ok poll)
    (failed : poll.failed = true) (still : ∀ call ∈ quiet, call.isDetect = false)
    (lasts : .shutdown ∉ quiet)
    (ran : there.backend.run (.process readings :: quiet) = .ok done)
    (listing : sighting.listing = some offers) (listed : offer ∈ offers)
    (same : offer.info.path = path) (opens : offer.opens standardGamepads = true) :
    isOpen done.backend.hub path = false ∧
      (isOpen (done.backend.detect sighting).1.hub path = true ↔ sighting.changed = true) ∧
      ((∃ notice ∈ (done.backend.detect sighting).2,
        notice.kind = .attached ∧ hidPathOf? notice.device = some path) ↔
          sighting.changed = true) := by
  have early : ∀ call ∈ before, call.Fits := fun call member => fits call (by simp [member])
  have late : ∀ call ∈ .process readings :: quiet, call.Fits := fun call member =>
    fits call (List.mem_append_right _ member)
  have kept : Kept there.backend := (Kept.new standardGamepads maxReports).run early came
  have ends : Kept done.backend := kept.run late ran
  have setting : done.backend.standardGamepads = standardGamepads :=
    (standardGamepads_run ran).trans (standardGamepads_run came)
  have closed : isOpen done.backend.hub path = false := by
    obtain ⟨first, others, performed, onward, ends⟩ := of_runAll_cons ran
    have processes : (Call.process readings).Fits := late _ (by simp)
    rw [ends]
    exact closed_run (kept.of_perform processes performed)
      (fun call member => late call (by simp [member])) still
      (closed_of_failed kept started processes live here polled failed performed) onward
  have enumerates : done.backend.enumerates sighting = sighting.changed := by
    -- a device is open, so the first detection is past
    have past : session.rescan = false := by
      by_contra first
      rw [Bool.not_eq_false] at first
      have nothing := kept.fresh (by rw [started]; exact first)
      rw [nothing] at live
      cases live
    have lives : .shutdown ∉ Call.process readings :: quiet := by simp [lasts]
    rw [enumerates_of_session (session_run started lives ran)]
    simp [Session.after, past, notified]
  have opened : isOpen (done.backend.detect sighting).1.hub path = true ↔
      sighting.changed = true := by
    rw [isOpen_detect ends.orderly, setting, listed?, enumerates]
    cases sighting.changed with
    | false => simp [closed]
    | true =>
      simp only [if_true, listing, Option.elim_some, iff_true]
      exact ⟨offer, listed, same, .inr opens⟩
  exact ⟨closed, opened, (attached_iff_isOpen ends seen closed).trans opened⟩

/-- The next read of every HID device fails. -/
def failingReads : Readings :=
  ⟨fun _ => ⟨[none], ⟨fun _ _ _ => none, fun _ _ _ _ => none⟩⟩, fun _ _ => none⟩

theorem fits_failingReads : failingReads.Fits :=
  ⟨fun _ => by simp [Hid.Queries.Fits, failingReads], nofun⟩

/-- The plain pad is listed. -/
def sees (changed : Bool) : Sighting := ⟨changed, some [plainPad], fun _ => false⟩

theorem fits_sees (changed : Bool) : (sees changed).Fits := by
  simp [Sighting.Fits, sees, fits_plainPad]

/-- The pad is found by the first detection, and then lost. -/
theorem reattached_iff_notified_lost :
    ∃ there done, (ofSettings true 8).run [.start ⟨none, .plain, true⟩, .detect (sees false)] =
        .ok there ∧
      there.backend.run [.process failingReads] = .ok done ∧
      isOpen done.backend.hub "pad" = false ∧
      ∃ notice ∈ (done.backend.detect (sees true)).2,
        notice.kind = .attached ∧ hidPathOf? notice.device = some "pad" := by
  have fits : ∀ call ∈ [Call.start ⟨none, .plain, true⟩, .detect (sees false)] ++
      [.process failingReads], call.Fits := by
    simp [Call.Fits, fits_sees, fits_failingReads]
  obtain ⟨closed, -, attached⟩ := @reattached_iff_notified _ _ "pad" (sees true) failingReads true 8
    [.start ⟨none, .plain, true⟩, .detect (sees false)] [] _ _ _ [plainPad] plainPad fits
    (fits_sees true) rfl rfl rfl (.head _) rfl rfl rfl (by simp) (by simp) rfl rfl (.head _) rfl
    (by decide +kernel)
  exact ⟨_, _, rfl, rfl, closed, attached.mpr rfl⟩

/-- An arrival that a detection is told of before the old device fails to read is forgotten. -/
theorem replug_missed :
    ¬∀ (standardGamepads : Bool) (maxReports : Nat) (before middle : List Call)
        (readings : Readings) (next : Sighting) (opened there done : Outcome Backend)
        (session : Session) (entry later : Entry Pad) (poll : Poll) (path : String)
        (offers : List Offer) (offer : Offer),
      (∀ call ∈ before ++ middle ++ [.process readings, .detect next], call.Fits) →
      (ofSettings standardGamepads maxReports).run before = .ok opened →
      entry ∈ opened.backend.hub.registry.live → entry.data.hidPath? = some path →
      opened.backend.run middle = .ok there →
      there.backend.session = some session → session.notified = true →
      later ∈ there.backend.hub.registry.live → later.id = entry.id →
      -- the arrival was notified after the device was opened, to this detection or to one before
      (∃ sighting, .detect sighting ∈ middle ++ [.detect next] ∧ sighting.changed = true) →
      pollPad there.backend.maxReports session.standard readings later.data = .ok poll →
      poll.failed = true → there.backend.run [.process readings] = .ok done →
      next.listing = some offers → offer ∈ offers → offer.info.path = path →
      offer.opens standardGamepads = true →
      isOpen (done.backend.detect next).1.hub path = true := by
  intro claimed
  have fits : ∀ call ∈ [Call.start ⟨none, .plain, true⟩, .detect (sees false)] ++
      [.detect (sees true)] ++ [.process failingReads, .detect (sees false)], call.Fits := by
    simp [Call.Fits, fits_sees, fits_failingReads]
  have refuted := claimed true 8 [.start ⟨none, .plain, true⟩, .detect (sees false)]
    [.detect (sees true)] failingReads (sees false) _ _ _ _ _ _ _ "pad" _ plainPad fits rfl
    (.head _) rfl rfl rfl rfl (.head _) rfl ⟨sees true, .head _, rfl⟩ rfl rfl rfl rfl (.head _) rfl
    (by decide +kernel)
  revert refuted
  decide +kernel

end GamepadInput.Windows.Backend
