import GamepadInput.Proofs.Run
import GamepadInput.Proofs.Windows.Polling

/-!
# Runs of the Windows backend

A detection lets devices come and go, a processing lets them report or fail; either dispatches all
that it queued.  So between calls nothing waits, and every device is in its story (`Sound`).
-/

namespace GamepadInput.Windows

/-- The report descriptor fits 32 bits. -/
def Offer.Fits (offer : Offer) : Prop := ∀ description ∈ offer.description, description.Fits

def Sighting.Fits (sighting : Sighting) : Prop :=
  ∀ offers ∈ sighting.listing, ∀ offer ∈ offers, offer.Fits

/-- A call of the host, with what the system answers during it. -/
inductive Call where
  | start (startup : Startup)
  | detect (sighting : Sighting)
  | process (readings : Readings)
  | shutdown

/-- What the system answers fits 32 bits. -/
def Call.Fits : Call → Prop
  | start _ | shutdown => True
  | detect sighting => sighting.Fits
  | process readings => readings.Fits

namespace Backend

/-- One call.  A host goes on if the backend could not start. -/
def perform (backend : Backend) : Call → Except Overflow (Outcome Backend)
  | .start startup =>
    match backend.start startup with
    | .ok started => .ok ⟨started, []⟩
    | .error _ => .ok ⟨backend, []⟩
  | .detect sighting => .ok ⟨(backend.detect sighting).1, (backend.detect sighting).2⟩
  | .process readings => do
    let done ← backend.process readings
    pure ⟨done.backend, done.notices⟩
  | .shutdown => .ok ⟨backend.shutdown, []⟩

/-- Calls in order. -/
abbrev run (backend : Backend) (calls : List Call) : Except Overflow (Outcome Backend) :=
  runAll perform backend calls

/-- What holds between two calls. -/
structure Sound (hub : Hub Pad) : Prop where
  bounded : ∀ pad ∈ hub.registry.kept, pad.Bounded
  told : ∀ id, ∃ standing heard, hub.Stands id standing ∧ Story standing heard
  idle : hub.pending = 0

variable {backend : Backend} {hub middle after : Hub Pad}

theorem Sound.empty : Sound .empty where
  bounded := nofun
  told id := ⟨.absent, [], .empty id, .absent⟩
  idle := rfl

theorem Sound.stood (sound : Sound hub) : hub.Stood := fun id =>
  let ⟨standing, _, stands, _⟩ := sound.told id
  ⟨standing, stands⟩

theorem Sound.of_carries (sound : Sound hub) {notices : List Notice}
    (carries : hub.Carries notices after) (bounded : ∀ pad ∈ after.registry.kept, pad.Bounded)
    (idle : after.pending = 0) : Sound after where
  bounded := bounded
  told id := by
    obtain ⟨standing, heard, stands, story⟩ := sound.told id
    obtain ⟨next, turns, arrives⟩ := carries id standing heard stands story
    exact ⟨next, _, arrives, story.turns turns⟩
  idle := idle

theorem Sound.shutdown (sound : Sound hub) : Sound hub.clear where
  bounded := nofun
  told id := by
    obtain ⟨standing, heard, stands, story⟩ := sound.told id
    exact ⟨standing.cleared, heard, stands.clear, story.cleared⟩
  idle := rfl

/-! ## Detection -/

/-- What looking for devices may do to a hub. -/
structure Scanned (hub after : Hub Pad) : Prop where
  carries : hub.Carries [] after
  bounded : (∀ pad ∈ hub.registry.kept, pad.Bounded) → ∀ pad ∈ after.registry.kept, pad.Bounded
  quiet : hub.inputEvents.events = [] → after.inputEvents.events = []

namespace Scanned

theorem refl (hub : Hub Pad) : Scanned hub hub := ⟨.refl hub, id, id⟩

theorem trans (there : Scanned hub middle) (onward : Scanned middle after) : Scanned hub after where
  carries := there.carries.trans onward.carries
  bounded bounded := onward.bounded (there.bounded bounded)
  quiet quiet := onward.quiet (there.quiet quiet)

theorem foldl {β : Type} {step : Hub Pad → β → Hub Pad} {items : List β}
    (each : ∀ item ∈ items, ∀ hub, Scanned hub (step hub item)) (hub : Hub Pad) :
    Scanned hub (items.foldl step hub) :=
  List.foldlRecOn items step (refl hub) fun after scanned item member =>
    scanned.trans (each item member after)

theorem attach (hub : Hub Pad) (device : Device) {pad : Pad} (fits : pad.Bounded) :
    Scanned hub (hub.attach device pad).1 where
  carries := .attach hub device pad
  bounded bounded := by
    rw [hub.kept_attach]
    intro other member
    rcases List.mem_append.mp member with old | new
    · exact bounded other old
    · rw [List.mem_singleton.mp new]
      exact fits
  quiet quiet := quiet

theorem unplug (hub : Hub Pad) (id : DeviceId) : Scanned hub (hub.unplug id) where
  carries := .unplug hub id
  bounded bounded pad member := bounded pad ((hub.kept_unplug id).subset member)
  quiet quiet := by
    unfold Hub.unplug Hub.unplug?
    cases hub.registry.retire? id with
    | none => exact quiet
    | some registry =>
      simp only [Option.map_some, Option.getD_some]
      split <;> simp [EventQueue.purge, quiet]

theorem attachOffer (standardGamepads : Bool) {offer : Offer} (fits : offer.Fits)
    (hub : Hub Pad) : Scanned hub (attachOffer standardGamepads hub offer) := by
  unfold Backend.attachOffer
  dsimp only
  split
  · exact refl hub
  · split
    · exact refl hub
    · rename_i pad opened
      obtain ⟨description, told, opened⟩ := Option.bind_eq_some_iff.mp opened
      obtain ⟨parser, made, opened⟩ := Option.bind_eq_some_iff.mp opened
      obtain ⟨mode, -, ⟨⟩⟩ := Option.bind_eq_some_iff.mp opened
      have bounded := Hid.Parser.bounded_ofDescription? (fits description told) made
      exact attach hub _ bounded

theorem scanHid (standardGamepads : Bool) {offers : List Offer}
    (fits : ∀ offer ∈ offers, offer.Fits) (hub : Hub Pad) :
    Scanned hub (scanHid standardGamepads hub offers) := by
  have dropped : Scanned hub ((gone hub offers).foldl Hub.unplug hub) :=
    foldl (fun id _ hub => unplug hub id) hub
  exact dropped.trans
    (foldl (fun offer member hub => attachOffer standardGamepads (fits offer member) hub) _)

theorem scanSlot (connected : Nat → Bool) (slot : Nat) (hub : Hub Pad) :
    Scanned hub (scanSlot connected hub slot) := by
  unfold Backend.scanSlot
  split
  · exact attach hub _ trivial
  · exact unplug hub _
  · exact refl hub

end Scanned

/-- The hub once devices were looked for. -/
def found (backend : Backend) (session : Session) (sighting : Sighting) : Hub Pad :=
  let listed :=
    if scansHid session sighting then
      sighting.listing.elim backend.hub (scanHid backend.standardGamepads backend.hub)
    else backend.hub
  if session.standard.isSome then scanSlots sighting.connected listed else listed

theorem Scanned.found {session : Session} {sighting : Sighting} (fits : sighting.Fits) :
    Scanned backend.hub (backend.found session sighting) := by
  have listed : Scanned backend.hub
      (if scansHid session sighting then
        sighting.listing.elim backend.hub (Backend.scanHid backend.standardGamepads backend.hub)
      else backend.hub) := by
    split
    · cases listing : sighting.listing with
      | none => exact refl _
      | some offers => exact scanHid _ (fits offers listing) _
    · exact refl _
  unfold Backend.found
  dsimp only
  split
  · exact listed.trans (foldl (fun slot _ hub => scanSlot sighting.connected slot hub) _)
  · exact listed

theorem detect_of_session {session : Session} (started : backend.session = some session)
    (sighting : Sighting) :
    backend.detect sighting =
      ({ backend with
          hub := (backend.found session sighting).dispatchDevices.1
          session := some { session with rescan := false } },
        Dispatch.notices (backend.found session sighting).dispatchDevices.2) := by
  simp only [Backend.detect, started]
  rfl

theorem Sound.detect (sound : Sound backend.hub) {sighting : Sighting} (fits : sighting.Fits) :
    Sound (backend.detect sighting).1.hub ∧
      backend.hub.Carries (backend.detect sighting).2 (backend.detect sighting).1.hub := by
  cases started : backend.session with
  | none =>
    simp only [Backend.detect, started]
    exact ⟨sound, .refl _⟩
  | some session =>
    have scanned : Scanned backend.hub (backend.found session sighting) := .found fits
    rw [detect_of_session started]
    generalize backend.found session sighting = found at scanned
    have carries : backend.hub.Carries (Dispatch.notices found.dispatchDevices.2)
        found.dispatchDevices.1 := scanned.carries.trans (.dispatchDevices found)
    obtain ⟨-, waiting⟩ := Nat.add_eq_zero_iff.mp sound.idle
    have quiet : found.inputEvents.events = [] :=
      scanned.quiet (List.eq_nil_of_length_eq_zero waiting)
    refine ⟨sound.of_carries carries ?_ ?_, carries⟩
    · exact fun pad member => scanned.bounded sound.bounded pad
        (found.kept_dispatchDevices.subset member)
    · simp [Hub.pending, Hub.dispatchDevices, Hub.dispatchAll, EventQueue.take, EventQueue.empty,
        EventQueue.size, quiet]

/-! ## Processing -/

/-- Where a live device stands once it was polled, and unplugged if its read failed. -/
def polled (entry : Entry Pad) (poll : Poll) : Standing Pad :=
  if poll.failed then .unplugged { entry with data := poll.pad }
  else .present { entry with data := poll.pad } true poll.kinds

theorem kinds_delivery_polled (entry : Entry Pad) (poll : Poll) :
    (polled entry poll).delivery.map (·.kind) = if poll.failed then [] else poll.kinds := by
  unfold polled
  split
  · rfl
  · cases poll.kinds <;> simp [Standing.delivery, Standing.heralds]

theorem kinds_announcement_polled (entry : Entry Pad) (poll : Poll) :
    (polled entry poll).processed.announcement.map (·.kind) =
      if poll.failed then [.removed] else [] := by
  unfold polled
  split
  · exact entry.device.kinds_hears [.removed]
  · simp only [Standing.processed]
    split <;> rfl

/-- Where a device stands before and after all were polled. -/
inductive Turned (limit : Nat) (standard : Option SampleQuery) (readings : Readings) :
    Standing Pad → Standing Pad → Prop where
  | absent : Turned limit standard readings .absent .absent
  | gone : Turned limit standard readings .gone .gone
  | live {entry : Entry Pad} {poll : Poll}
      (polled : pollPad limit standard readings entry.data = .ok poll)
      (isInput : ∀ kind ∈ poll.kinds, kind.isInput = true) :
      Turned limit standard readings (.present entry true []) (Backend.polled entry poll)

namespace Turned

variable {limit : Nat} {standard : Option SampleQuery} {readings : Readings}
  {standing turned : Standing Pad}

theorem isAnnounced (turns : Turned limit standard readings standing turned) :
    turned.isAnnounced = true := by
  cases turns with
  | absent | gone => rfl
  | @live entry poll =>
    unfold Backend.polled
    split <;> rfl

theorem isInput_queued (turns : Turned limit standard readings standing turned) :
    ∀ kind ∈ turned.queued, kind.isInput = true := by
  cases turns with
  | absent | gone => nofun
  | @live entry poll polled isInput =>
    unfold Backend.polled
    split
    · nofun
    · exact isInput

theorem turns (turns : Turned limit standard readings standing turned) :
    Turns standing turned [] := by
  cases turns with
  | absent | gone => exact .nil
  | @live entry poll polled isInput =>
    have report : Turn (.present entry true [])
        (.present { entry with data := poll.pad } true ([] ++ poll.kinds)) [] :=
      .report poll.pad isInput
    unfold Backend.polled
    split
    · exact .cons report (.single .unplug)
    · exact .single report

end Turned

theorem Sound.pollAll (sound : Sound hub) (limit : Nat) (standard : Option SampleQuery)
    {readings : Readings} (fits : readings.Fits) :
    ∃ after failed taken,
      pollAll limit standard readings hub hub.registry.live = .ok (after, failed, taken) ∧
      (∀ pad ∈ (failed.foldl Hub.unplug after).registry.kept, pad.Bounded) ∧
      ∀ id standing, hub.Stands id standing →
        ∃ turned, Turned limit standard readings standing turned ∧
          (failed.foldl Hub.unplug after).Stands id turned := by
  have live : ∀ entry ∈ hub.registry.live, entry.data.Bounded := fun entry member =>
    sound.bounded _ (List.mem_map_of_mem member)
  obtain ⟨after, failed, taken, polled, within⟩ :=
    pollAll_ok limit standard fits live sound.bounded
  have nodup : (hub.registry.live.map (·.id)).Nodup := by
    have devices := hub.nodup_live sound.stood
    simpa [Registry.devices, Function.comp_def, Entry.id] using devices
  have dropped : Scanned after (failed.foldl Hub.unplug after) :=
    .foldl (fun id _ hub => .unplug hub id) after
  refine ⟨after, failed, taken, polled, dropped.bounded within, ?_⟩
  intro id standing stands
  have drained := stands.isDrained sound.idle
  cases standing with
  | unplugged entry => cases drained
  | absent | gone =>
    have elsewhere : id ∉ hub.registry.live.map (·.id) := by
      intro member
      obtain ⟨entry, there, mine⟩ := List.mem_map.mp member
      cases stands.live?_eq there mine
    obtain ⟨arrives, unfailed⟩ := stands_pollAll_other polled elsewhere stands
    refine ⟨_, by constructor, arrives.unplugAll_keeps fun member => absurd member unfailed⟩
  | present entry announced waiting =>
    simp only [Standing.isDrained, Bool.and_eq_true, List.isEmpty_iff] at drained
    obtain ⟨rfl, rfl⟩ := drained
    have mine : entry.id = id := stands.mine entry rfl
    obtain ⟨poll, read, arrives, fails⟩ :=
      stands_pollAll polled nodup stands.mem_live mine stands
    obtain ⟨same, done, -, inputs⟩ := pollPad_ok limit standard fits (live entry stands.mem_live)
    rw [read, Except.ok.injEq] at done
    subst done
    refine ⟨Backend.polled entry poll, .live read inputs, ?_⟩
    unfold Backend.polled
    split
    · rename_i failing
      exact arrives.unplugAll_present (fails.mpr failing)
    · rename_i answers
      exact arrives.unplugAll_keeps fun member => absurd (fails.mp member) answers

/-- What a processing does: it hears the input of the devices that answer, then lets go of the
others. -/
structure Processing (backend : Backend) (session : Session) (readings : Readings)
    (done : Backend) (inputs removals : List Notice) : Prop where
  performed : backend.perform (.process readings) = .ok ⟨done, inputs ++ removals⟩
  bounded : ∀ pad ∈ done.hub.registry.kept, pad.Bounded
  idle : done.hub.pending = 0
  turns : ∀ id standing, backend.hub.Stands id standing →
    ∃ turned, Turned backend.maxReports session.standard readings standing turned ∧
      heardOf inputs id = turned.delivery ∧ heardOf removals id = turned.processed.announcement ∧
      done.hub.Stands id turned.processed.detected

theorem Sound.processing (sound : Sound backend.hub) {session : Session}
    (started : backend.session = some session) {readings : Readings} (fits : readings.Fits) :
    ∃ done inputs removals, Processing backend session readings done inputs removals := by
  obtain ⟨after, failed, taken, polled, bounded, stories⟩ :=
    sound.pollAll backend.maxReports session.standard fits
  generalize dropped : failed.foldl Hub.unplug after = hub at bounded stories
  have done : backend.perform (.process readings) = .ok
      ⟨{ backend with hub := hub.dispatchInput.1.dispatchDevices.1 },
        Dispatch.notices hub.dispatchInput.2 ++
          Dispatch.notices hub.dispatchInput.1.dispatchDevices.2⟩ := by
    simp only [perform, process, started, polled, bind, Except.bind, dropped]
    rfl
  refine ⟨_, _, _, done, ?_, rfl, ?_⟩
  · intro pad member
    have dispatched := hub.dispatchInput.1.kept_dispatchDevices.trans hub.kept_dispatchInput
    exact bounded pad (dispatched.subset member)
  · intro id standing stands
    obtain ⟨turned, turns, arrives⟩ := stories id standing stands
    obtain ⟨processed, input⟩ := arrives.dispatchInput turns.isAnnounced
      (Story.removed_not_mem turns.isInput_queued)
    obtain ⟨detected, changes⟩ := processed.dispatchDevices
    exact ⟨turned, turns, input, changes, detected⟩

namespace Processing

variable {session : Session} {readings : Readings} {done : Backend} {inputs removals : List Notice}

theorem carries (processing : Processing backend session readings done inputs removals) :
    backend.hub.Carries (inputs ++ removals) done.hub := by
  intro id standing heard stands story
  obtain ⟨turned, turns, input, changes, arrives⟩ := processing.turns id standing stands
  refine ⟨_, ?_, arrives⟩
  rw [heardOf_append, input, changes, List.map_append]
  exact turns.turns.append (.append (.single .process) (.single .detect))

theorem isInput (processing : Processing backend session readings done inputs removals)
    (sound : Sound backend.hub) : ∀ notice ∈ inputs, notice.kind.isInput = true := by
  intro notice member
  obtain ⟨standing, -, stands, -⟩ := sound.told notice.device.id
  obtain ⟨turned, turns, input, -⟩ := processing.turns _ standing stands
  have mine : notice ∈ heardOf inputs notice.device.id := List.mem_filter.mpr ⟨member, by simp⟩
  rw [input] at mine
  exact Standing.isInput_of_mem_delivery turns.isAnnounced turns.isInput_queued mine

theorem removed (processing : Processing backend session readings done inputs removals)
    (sound : Sound backend.hub) : ∀ notice ∈ removals, notice.kind = .removed := by
  intro notice member
  obtain ⟨standing, -, stands, -⟩ := sound.told notice.device.id
  obtain ⟨turned, turns, -, changes, -⟩ := processing.turns _ standing stands
  have mine : notice ∈ heardOf removals notice.device.id := List.mem_filter.mpr ⟨member, by simp⟩
  rw [changes] at mine
  exact Standing.removed_of_mem_announcement (Standing.isAnnounced_processed turns.isAnnounced) mine

/-- Each live device was polled once. -/
theorem live (processing : Processing backend session readings done inputs removals)
    (sound : Sound backend.hub) {entry : Entry Pad} (live : entry ∈ backend.hub.registry.live) :
    ∃ poll, pollPad backend.maxReports session.standard readings entry.data = .ok poll ∧
      heardOf inputs entry.id = (polled entry poll).delivery ∧
      heardOf removals entry.id = (polled entry poll).processed.announcement ∧
      done.hub.Stands entry.id (polled entry poll).processed.detected := by
  obtain ⟨standing, -, stands, -⟩ := sound.told entry.id
  obtain ⟨turned, turns, does⟩ := processing.turns _ standing stands
  have own := stands.live?_eq live rfl
  cases turns with
  | absent | gone => cases own
  | @live _ poll polled =>
    cases own
    exact ⟨poll, polled, does⟩

end Processing

/-! ## Calls -/

theorem hub_start {startup : Startup} {started : Backend}
    (starts : backend.start startup = .ok started) : started.hub = backend.hub := by
  unfold start at starts
  split at starts
  · cases starts
    rfl
  · split at starts
    · cases starts
    · cases starts
      rfl

/-- A call of 32 bits succeeds.  Between calls everything is in order. -/
theorem Sound.perform (sound : Sound backend.hub) {call : Call} (fits : call.Fits)
    (goes : call ≠ .shutdown) :
    ∃ done, backend.perform call = .ok done ∧ Sound done.backend.hub ∧
      backend.hub.Carries done.notices done.backend.hub := by
  cases call with
  | shutdown => exact absurd rfl goes
  | start startup =>
    cases started : backend.start startup with
    | error reason =>
      exact ⟨⟨backend, []⟩, by simp only [Backend.perform, started], sound, .refl _⟩
    | ok after =>
      have same : after.hub = backend.hub := hub_start started
      refine ⟨⟨after, []⟩, by simp only [Backend.perform, started], ?_, ?_⟩
      · rw [same]
        exact sound
      · rw [same]
        exact .refl _
  | detect sighting =>
    obtain ⟨arrives, carries⟩ := sound.detect fits
    exact ⟨_, rfl, arrives, carries⟩
  | process readings =>
    cases started : backend.session with
    | none =>
      refine ⟨⟨backend, []⟩, ?_, sound, .refl _⟩
      simp only [Backend.perform, process, started]
      rfl
    | some session =>
      obtain ⟨done, inputs, removals, processing⟩ := sound.processing started fits
      exact ⟨_, processing.performed,
        sound.of_carries processing.carries processing.bounded processing.idle, processing.carries⟩

/-- So does a run, on which a shutdown clears the hub. -/
theorem Sound.run {calls : List Call} (sound : Sound backend.hub)
    (fits : ∀ call ∈ calls, call.Fits) :
    ∃ done, backend.run calls = .ok done ∧ Sound done.backend.hub ∧
      Hub.Path backend.hub done.notices done.backend.hub := by
  refine runAll_ok (fun backend : Backend => Sound backend.hub) Call.Fits
    (fun (backend : Backend) notices (after : Backend) =>
      Hub.Path backend.hub notices after.hub)
    (fun _ => .nil) .append
    (fun backend call sound fits => ?_) sound fits
  by_cases stops : call = .shutdown
  · subst stops
    exact ⟨_, rfl, sound.shutdown, .clear .nil⟩
  · obtain ⟨done, performed, kept, carries⟩ := sound.perform fits stops
    exact ⟨done, performed, kept, .single carries⟩

/-- A run in which the backend is not shut down. -/
theorem Sound.lasting {calls : List Call} (sound : Sound backend.hub)
    (fits : ∀ call ∈ calls, call.Fits) (lasts : .shutdown ∉ calls) :
    ∃ done, backend.run calls = .ok done ∧ Sound done.backend.hub ∧
      backend.hub.Carries done.notices done.backend.hub :=
  runAll_ok (fun backend : Backend => Sound backend.hub) (fun call => call.Fits ∧ call ≠ .shutdown)
    (fun (backend : Backend) notices (after : Backend) => backend.hub.Carries notices after.hub)
    (fun _ => .refl _) .trans
    (fun _ _ sound fits => sound.perform fits.1 fits.2) sound
    fun call member => ⟨fits call member, fun stops => lasts (stops ▸ member)⟩

end Backend

end GamepadInput.Windows
