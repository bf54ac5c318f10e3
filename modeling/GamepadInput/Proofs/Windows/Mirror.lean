import GamepadInput.Proofs.Hid.Tracking
import GamepadInput.Proofs.Windows.Roster
import GamepadInput.Proofs.XInput.Sampling

/-!
# The record of a device and the backend's side of it

The backend's side of a device changes while reports are read, the record when events are
dispatched.  What a poll reports leads the record to the state that the backend's side ends in
(`Tracked.polled`), and a processing dispatches all of it.  So between calls the two agree, and the
record is what its events make of a device at rest.
-/

namespace GamepadInput.Windows

namespace Pad

/-- The axes as the backend's side of a device has them. -/
def axes : Pad → Array Binary32
  | .hid pad => pad.parser.layout.values
  | .xinput pad => pad.axes.toArray

/-- The buttons as the backend's side of a device has them. -/
def buttons : Pad → Buttons
  | .hid pad => pad.parser.pressed
  | .xinput pad => (XInput.held XInput.buttonMasks pad.buttons).toArray

/-- A standard gamepad has all its axes, and none at the negative zero. -/
def Regular : Pad → Prop
  | .hid _ => True
  | .xinput pad => pad.Regular

/-- A standard gamepad of which no sample was taken. -/
def isUnsampled : Pad → Bool
  | .hid _ => false
  | .xinput pad => !pad.sampled

end Pad

/-- The record shows a sample. -/
structure ShowsSample (device : Device) (sample : XInput.Sample) : Prop where
  buttons_eq : device.buttons = (XInput.buttonMasks.map sample.isDown).toArray
  axes_eq : sample.axes = .ok device.axes.toList

namespace Backend

variable {backend : Backend} {session : Session} {call : Call} {calls : List Call}
  {done : Outcome Backend} {readings : Readings} {entry : Entry Pad} {poll : Poll} {limit : Nat}
  {standard : Option SampleQuery} {heard : List EventKind} {told : List Notice}

/-- What holds of a live device between two calls, `heard` being all that was heard of it. -/
structure Tracked (entry : Entry Pad) (heard : List EventKind) : Prop where
  regular : entry.data.Regular
  axes_eq : entry.device.axes = entry.data.axes
  buttons_eq : entry.device.buttons = entry.data.buttons
  course : ∃ (start : Device) (inputs : List EventKind), heard = .attached :: inputs ∧
    start.IsAtRest ∧ start.AdmitsAll inputs ∧ entry.device = start.replay inputs
  unsampled : entry.data.isUnsampled = true → entry.device.IsAtRest

/-! ## Polls -/

/-- A gamepad that answers was sampled. -/
theorem sampled_pollPad {pad : XInput.Pad}
    (polled : pollPad limit standard readings (.xinput pad) = .ok poll)
    (answers : poll.failed = false) :
    ∃ query sample after, standard = some query ∧ readings.sample query pad.slot = some sample ∧
      pad.update sample = .ok (after, poll.kinds) ∧ poll.pad = .xinput after := by
  simp only [pollPad] at polled
  split at polled
  · cases polled
    cases answers
  · rename_i sample given
    obtain ⟨query, asked, given⟩ := Option.bind_eq_some_iff.mp given
    obtain ⟨⟨after, kinds⟩, updated, polled⟩ := exists_of_bind_ok polled
    cases polled
    exact ⟨query, sample, after, asked, given, updated, rfl⟩

theorem isUnsampled_pollPad {pad : Pad} (polled : pollPad limit standard readings pad = .ok poll)
    (answers : poll.failed = false) : poll.pad.isUnsampled = false := by
  cases pad with
  | hid pad =>
    obtain ⟨done, -, polled⟩ := exists_of_bind_ok polled
    cases polled
    rfl
  | xinput pad =>
    obtain ⟨query, sample, after, -, -, updated, same⟩ := sampled_pollPad polled answers
    obtain ⟨values, -, rfl, -⟩ := XInput.Pad.of_update updated
    rw [same]
    rfl

/-- What a poll reports leads the record from the state of the backend's side before it to that
after it. -/
theorem Tracked.leads (tracked : Tracked entry heard)
    (polled : pollPad limit standard readings entry.data = .ok poll)
    (answers : poll.failed = false) :
    poll.pad.Regular ∧ entry.device.LeadsTo poll.kinds poll.pad.axes poll.pad.buttons := by
  obtain ⟨device, pad⟩ := entry
  obtain ⟨regular, axes, buttons, -⟩ := tracked
  cases pad with
  | hid pad =>
    obtain ⟨done, read, polled⟩ := exists_of_bind_ok polled
    cases polled
    exact ⟨trivial, Hid.Pad.poll_leads axes buttons read⟩
  | xinput pad =>
    obtain ⟨query, sample, after, -, -, updated, same⟩ := sampled_pollPad polled answers
    obtain ⟨still, leads⟩ := XInput.Pad.update_leads regular axes buttons updated
    rw [same]
    exact ⟨still, leads⟩

theorem Tracked.polled (tracked : Tracked entry heard)
    (polled : pollPad limit standard readings entry.data = .ok poll)
    (answers : poll.failed = false) :
    Tracked ⟨entry.device.replay poll.kinds, poll.pad⟩ (heard ++ poll.kinds) := by
  obtain ⟨regular, leads⟩ := tracked.leads polled answers
  obtain ⟨start, inputs, rfl, rest, admitted, same⟩ := tracked.course
  refine ⟨regular, leads.axes_eq, leads.buttons_eq, ⟨start, inputs ++ poll.kinds, rfl, rest, ?_, ?_⟩, ?_⟩
  · exact (Device.admitsAll_append _ _).mpr ⟨admitted, same ▸ leads.admitted⟩
  · rw [Device.replay_append, same]
  · intro unsampled
    rw [isUnsampled_pollPad polled answers] at unsampled
    cases unsampled

/-- The record of a gamepad shows the sample that its pad took over. -/
theorem Tracked.showsSample {last pad : XInput.Pad} {sample : XInput.Sample}
    {kinds : List EventKind} (tracked : Tracked entry heard) (is_ : entry.data = .xinput pad)
    (updated : last.update sample = .ok (pad, kinds)) : ShowsSample entry.device sample := by
  obtain ⟨values, normalized, rfl, -⟩ := XInput.Pad.of_update updated
  have axes := tracked.axes_eq
  have buttons := tracked.buttons_eq
  rw [is_] at axes buttons
  exact ⟨buttons, by rw [axes]; exact normalized⟩

/-! ## New devices -/

theorem Joins.tracked {standardGamepads : Bool} {sighting : Sighting}
    (joins : Joins standardGamepads sighting entry) : Tracked entry [.attached] := by
  cases joins with
  | @hid offers newcomer listing listed accepted opens id =>
    obtain ⟨description, -, opened⟩ := Option.bind_eq_some_iff.mp opens
    obtain ⟨parser, made, opened⟩ := Option.bind_eq_some_iff.mp opened
    obtain ⟨mode, -, same⟩ := Option.bind_eq_some_iff.mp opened
    have pad : newcomer.pad.parser = parser := by
      rw [← Option.some.inj same]
    obtain ⟨axes, buttons⟩ := Hid.Parser.atRest_ofDescription? made
    rw [← pad] at axes buttons
    have rest : (newcomer.entry id).device.IsAtRest := by
      constructor <;> simp [Newcomer.entry, Offer.device, Device.atRest, Device.axisCount,
        Device.buttonCount]
    exact ⟨trivial, axes.symm, buttons.symm, ⟨_, [], rfl, rest, trivial, rfl⟩, fun _ => rest⟩
  | @xinput slot inRange connected id =>
    have rest : ({ XInput.device slot with id } : Device).IsAtRest := by
      constructor <;> simp [XInput.device, Device.atRest, Device.axisCount, Device.buttonCount]
    exact ⟨.atRest slot, rfl, XInput.held_zero.symm, ⟨_, [], rfl, rest, trivial, rfl⟩,
      fun _ => rest⟩

/-! ## Calls -/

/-- What holds between two calls, `told` being all that was heard. -/
structure Followed (backend : Backend) (told : List Notice) : Prop where
  stories : ∀ id, ∃ standing, backend.hub.Stands id standing ∧
    Story standing ((heardOf told id).map (·.kind))
  tracked : ∀ entry ∈ backend.hub.registry.live,
    Tracked entry ((heardOf told entry.id).map (·.kind))

namespace Followed

theorem new (standardGamepads : Bool) (maxReports : Nat) :
    Followed (ofSettings standardGamepads maxReports) [] where
  stories id := ⟨.absent, .empty id, .absent⟩
  tracked entry live := by cases live

/-- Nothing was heard of a device that has not come. -/
theorem unheard (followed : Followed backend told) {id : DeviceId}
    (fresh : backend.hub.registry.nextId ≤ id) : (heardOf told id).map (·.kind) = [] := by
  obtain ⟨standing, stands, story⟩ := followed.stories id
  have absent := stands.absent_iff.mpr fresh
  cases standing with
  | present | unplugged | gone => cases absent
  | absent =>
    generalize (heardOf told id).map (·.kind) = kinds at story ⊢
    cases story
    rfl

theorem stories_perform (followed : Followed backend told) (settled : Settled backend)
    (fits : call.Fits) (performed : backend.perform call = .ok done) (id : DeviceId) :
    ∃ standing, done.backend.hub.Stands id standing ∧
      Story standing ((heardOf (told ++ done.notices) id).map (·.kind)) := by
  obtain ⟨standing, stands, story⟩ := followed.stories id
  by_cases stops : call = .shutdown
  · subst stops
    cases performed
    exact ⟨_, stands.clear, by simpa using story.cleared⟩
  · obtain ⟨again, same, -, carries⟩ := settled.sound.perform fits stops
    cases performed.symm.trans same
    obtain ⟨next, turns, arrives⟩ := carries id standing _ stands story
    refine ⟨next, arrives, ?_⟩
    rw [heardOf_append, List.map_append]
    exact story.turns turns

theorem perform (followed : Followed backend told) (settled : Settled backend) (fits : call.Fits)
    (performed : backend.perform call = .ok done) :
    Followed done.backend (told ++ done.notices) := by
  refine ⟨followed.stories_perform settled fits performed, fun entry live => ?_⟩
  rw [heardOf_append, List.map_append]
  cases settled.came fits performed live with
  | stays old silent =>
    rw [silent, List.map_nil, List.append_nil]
    exact followed.tracked entry old
  | joins _ fresh joins heard =>
    rw [followed.unheard fresh, heard]
    exact joins.tracked
  | @answers _ _ old poll _ _ was polled answers is_ heard =>
    rw [heard, is_, Entry.id_mk, Device.id_replay]
    exact (followed.tracked old was).polled polled answers

theorem run (followed : Followed backend told) (settled : Settled backend)
    (fits : ∀ call ∈ calls, call.Fits) (ran : backend.run calls = .ok done) :
    Followed done.backend (told ++ done.notices) := by
  induction calls generalizing backend told done with
  | nil =>
    cases ran
    simpa using followed
  | cons call rest ih =>
    rw [List.forall_mem_cons] at fits
    obtain ⟨first, others, performed, onward, -⟩ := of_runAll_cons ran
    cases ran.symm.trans (runAll_cons performed onward)
    have whole := ih (followed.perform settled fits.1 performed)
      (settled.of_perform fits.1 performed) fits.2 onward
    rwa [List.append_assoc] at whole

end Followed

/-! ## Runs -/

/-- How the record of a live device relates to the backend's side of it and to all that was heard. -/
structure Mirrored (entry : Entry Pad) (heard : List EventKind) : Prop where
  axes_eq : entry.device.axes = entry.data.axes
  buttons_eq : entry.device.buttons = entry.data.buttons
  replayed : entry.device.zeroed.replay heard = entry.device
  /-- The edges of a button are down, up, down, and so on. -/
  alternate : ∀ button place down, (Device.edgesOf heard button)[place]? = some down →
    (down = true ↔ place % 2 = 0)
  unsampled : entry.data.isUnsampled = true → entry.device.IsAtRest

theorem Tracked.mirrored (tracked : Tracked entry heard) : Mirrored entry heard := by
  obtain ⟨start, inputs, rfl, rest, admitted, same⟩ := tracked.course
  refine ⟨tracked.axes_eq, tracked.buttons_eq, ?_, ?_, tracked.unsampled⟩
  · rw [same, rest.zeroed_replay]
    rfl
  · exact fun button place down edge => admitted.alternate_of_rest rest edge

/-- What the records of the live devices show after calls. -/
structure Shows (fresh : Backend) (calls : List Call) (whole : Outcome Backend) : Prop where
  mirrored : ∀ entry ∈ whole.backend.hub.registry.live,
    Mirrored entry ((heardOf whole.notices entry.id).map (·.kind))
  /-- After a processing, the record of a standard gamepad shows the sample that was taken in it. -/
  sampled : ∀ before readings there entry pad, calls = before ++ [.process readings] →
    fresh.run before = .ok there → entry ∈ whole.backend.hub.registry.live →
    entry.data = .xinput pad →
    ∃ session query sample, there.backend.session = some session ∧ session.standard = some query ∧
      readings.sample query pad.slot = some sample ∧ ShowsSample entry.device sample

/-- A standard gamepad that is live after a processing was sampled in it. -/
theorem Settled.sampled (settled : Settled backend) (fits : readings.Fits)
    (performed : backend.perform (.process readings) = .ok done)
    (followed : Followed done.backend told) (live : entry ∈ done.backend.hub.registry.live) {pad : XInput.Pad}
    (is_ : entry.data = .xinput pad) :
    ∃ session query sample, backend.session = some session ∧ session.standard = some query ∧
      readings.sample query pad.slot = some sample ∧ ShowsSample entry.device sample := by
  cases started : backend.session with
  | none =>
    simp only [Backend.perform, process, started] at performed
    cases performed
    rw [settled.fresh (by rw [started]; rfl)] at live
    cases live
  | some session =>
    obtain ⟨⟨device, old⟩, was, poll, polled, answers, same⟩ :=
      (settled.mem_live_process started fits performed).mp live
    have made : poll.pad = .xinput pad := by
      rw [same] at is_
      exact is_
    cases old with
    | hid old =>
      obtain ⟨read, -, polled⟩ := exists_of_bind_ok polled
      cases polled
      cases made
    | xinput last =>
      obtain ⟨query, sample, after, asked, given, updated, ends⟩ := sampled_pollPad polled answers
      cases ends.symm.trans made
      have stays : pad.slot = last.slot := by
        obtain ⟨values, -, rfl, -⟩ := XInput.Pad.of_update updated
        rfl
      exact ⟨session, query, sample, rfl, asked, stays ▸ given,
        (followed.tracked entry live).showsSample is_ updated⟩

/-- Whatever the system answers, as long as it fits 32 bits. -/
theorem records_mirrored (standardGamepads : Bool) (maxReports : Nat) (calls : List Call)
    (fits : ∀ call ∈ calls, call.Fits) :
    ∃ whole, (ofSettings standardGamepads maxReports).run calls = .ok whole ∧
      Shows (ofSettings standardGamepads maxReports) calls whole := by
  have new := Settled.new standardGamepads maxReports
  have start := Followed.new standardGamepads maxReports
  obtain ⟨whole, ran, -⟩ := new.sound.run fits
  have followed := start.run new fits ran
  rw [List.nil_append] at followed
  refine ⟨whole, ran, fun entry live => (followed.tracked entry live).mirrored, ?_⟩
  rintro before readings there entry pad rfl came live is_
  have early : ∀ call ∈ before, call.Fits := fun call member => fits call (by simp [member])
  have answers : readings.Fits := fits (.process readings) (by simp)
  have settled := new.run early came
  obtain ⟨done, performed, -⟩ := settled.toKept.process answers
  cases ran.symm.trans (runAll_append came (runAll_cons performed rfl))
  exact settled.sampled answers performed followed live is_

/-- A pad whose button goes down, and a gamepad of which A and the left trigger are held. -/
theorem records_mirrored_pressed :
    let found : Sighting := ⟨false, some [plainPad], fun slot => slot = 0⟩
    let readings : Readings :=
      ⟨fun _ => ⟨[some [1]], ⟨fun _ _ _ => some [1], fun _ _ _ _ => none⟩⟩,
        fun _ _ => some ⟨0x1000, 255, 0, 0, 0, 0, 0⟩⟩
    let calls : List Call := [.start ⟨none, .plain, true⟩, .detect found, .process readings]
    (∀ call ∈ calls, call.Fits) ∧
      ∃ whole, (ofSettings true 8).run calls = .ok whole ∧ Shows (ofSettings true 8) calls whole ∧
        whole.backend.hub.registry.live.map (fun entry =>
          (entry.device.button 0, entry.device.button 10, entry.device.axis 4)) =
            [(true, false, 0), (false, true, .one)] := by
  intro found readings calls
  have seen : found.Fits := by
    simpa [Sighting.Fits, found] using fits_plainPad
  have read : readings.Fits := by
    refine ⟨fun _ => by simp [Hid.Queries.Fits, readings], fun query slot sample given => ?_⟩
    cases given
    constructor <;> decide
  have fits : ∀ call ∈ calls, call.Fits := by
    simp [calls, Call.Fits, seen, read]
  obtain ⟨whole, ran, shows⟩ := records_mirrored true 8 calls fits
  have known : ((ofSettings true 8).run calls).map (fun whole =>
      whole.backend.hub.registry.live.map fun entry =>
        (entry.device.button 0, entry.device.button 10, entry.device.axis 4)) =
          .ok [(true, false, 0), (false, true, .one)] := by
    decide +kernel
  rw [ran] at known
  exact ⟨fits, whole, ran, shows, Except.ok.inj known⟩

end Backend

end GamepadInput.Windows
