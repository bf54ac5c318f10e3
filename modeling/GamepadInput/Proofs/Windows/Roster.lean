import GamepadInput.Proofs.Hub.Order
import GamepadInput.Proofs.Windows.Enumeration

/-!
# Which devices are live

Every call makes the live list of the one before: a detection by what it finds
(`Settled.live_detect`), a processing by what each device answers (`Settled.mem_live_process`), a
shutdown by leaving nothing.  Between calls the list ascends by number (`Settled`).
-/

namespace GamepadInput.Windows

/-- The record of the device that an open interface shows. -/
def Offer.device (offer : Offer) (pad : Hid.Pad) : Device :=
  .atRest offer.info.name offer.info.vendor offer.info.product pad.parser.axisCount
    pad.parser.buttonCount offer.info.metadata

/-- An interface that an enumeration opened. -/
structure Newcomer where
  offer : Offer
  pad : Hid.Pad

namespace Newcomer

def path (newcomer : Newcomer) : String := newcomer.offer.info.path

/-- The device under its number. -/
def entry (newcomer : Newcomer) (id : DeviceId) : Entry Pad :=
  ⟨{ newcomer.offer.device newcomer.pad with id }, .hid newcomer.pad⟩

end Newcomer

namespace Backend

/-- What a detection attaches. -/
inductive Joins (standardGamepads : Bool) (sighting : Sighting) : Entry Pad → Prop where
  | hid {offers : List Offer} {newcomer : Newcomer} (listing : sighting.listing = some offers)
      (listed : newcomer.offer ∈ offers)
      (accepted : newcomer.offer.info.accepted standardGamepads = true)
      (opens : newcomer.offer.open? = some newcomer.pad) (id : DeviceId) :
      Joins standardGamepads sighting (newcomer.entry id)
  | xinput {slot : Nat} (inRange : slot < XInput.slotCount)
      (connected : sighting.connected slot = true) (id : DeviceId) :
      Joins standardGamepads sighting
        ⟨{ XInput.device slot with id }, .xinput (.atRest slot)⟩

/-- How a device comes to be live after a call, and what is heard of it in the call. -/
inductive Came (backend : Backend) (call : Call) (entry : Entry Pad) (notices : List Notice) :
    Prop where
  | stays (live : entry ∈ backend.hub.registry.live) (unheard : heardOf notices entry.id = [])
  | joins {sighting : Sighting} (detects : call = .detect sighting)
      (fresh : backend.hub.registry.nextId ≤ entry.id)
      (joins : Joins backend.standardGamepads sighting entry)
      (heard : (heardOf notices entry.id).map (·.kind) = [.attached])
  /-- It was polled, and answered. -/
  | answers {readings : Readings} {session : Session} {old : Entry Pad} {poll : Poll}
      (processes : call = .process readings) (started : backend.session = some session)
      (live : old ∈ backend.hub.registry.live)
      (polled : pollPad backend.maxReports session.standard readings old.data = .ok poll)
      (answers : poll.failed = false) (is_ : entry = ⟨old.device.replay poll.kinds, poll.pad⟩)
      (heard : (heardOf notices entry.id).map (·.kind) = poll.kinds)

variable {backend : Backend} {session : Session} {call : Call} {calls : List Call}
  {done : Outcome Backend} {readings : Readings} {hub after : Hub Pad}

/-! ## What a detection finds -/

theorem attachOffer_eq (standardGamepads : Bool) (hub : Hub Pad) (offer : Offer) :
    attachOffer standardGamepads hub offer =
      if !offer.info.accepted standardGamepads || isOpen hub offer.info.path then hub
      else offer.open?.elim hub fun pad => (hub.attach (offer.device pad) (.hid pad)).1 := by
  unfold attachOffer
  dsimp only
  split
  · rfl
  · cases offer.open? <;> rfl

/-- What is live was live, or was attached under a new number. -/
def Grown (backend : Backend) (sighting : Sighting) (after : Hub Pad) : Prop :=
  backend.hub.registry.nextId ≤ after.registry.nextId ∧
    ∀ entry ∈ after.registry.live, entry ∈ backend.hub.registry.live ∨
      backend.hub.registry.nextId ≤ entry.id ∧ Joins backend.standardGamepads sighting entry

namespace Grown

variable {sighting : Sighting} {device : Device} {pad : Pad}

theorem refl (backend : Backend) (sighting : Sighting) : Grown backend sighting backend.hub :=
  ⟨Nat.le_refl _, fun _ live => .inl live⟩

theorem attach (grown : Grown backend sighting hub)
    (joins : Joins backend.standardGamepads sighting
      ⟨{ device with id := hub.registry.nextId }, pad⟩) :
    Grown backend sighting (hub.attach device pad).1 := by
  refine ⟨Nat.le_succ_of_le grown.1, fun entry live => ?_⟩
  rcases hub.mem_live_attach.mp live with there | rfl
  · exact grown.2 entry there
  · exact .inr ⟨grown.1, joins⟩

theorem unplug (grown : Grown backend sighting hub) (id : DeviceId) :
    Grown backend sighting (hub.unplug id) := by
  rw [Grown, hub.nextId_unplug]
  exact ⟨grown.1, fun entry live => grown.2 entry ((hub.live_unplug id).subset live)⟩

theorem attachOffer (grown : Grown backend sighting hub) {offers : List Offer} {offer : Offer}
    (listing : sighting.listing = some offers) (listed : offer ∈ offers) :
    Grown backend sighting (attachOffer backend.standardGamepads hub offer) := by
  rw [attachOffer_eq]
  split
  · exact grown
  · rename_i wanted
    simp only [Bool.or_eq_true, Bool.not_eq_true', not_or, Bool.not_eq_false] at wanted
    cases opened : offer.open? with
    | none => exact grown
    | some pad =>
      have joins (id : DeviceId) : Joins backend.standardGamepads sighting
          (Newcomer.entry ⟨offer, pad⟩ id) := .hid listing listed wanted.1 opened id
      exact grown.attach (joins _)

theorem scanSlot (grown : Grown backend sighting hub) {slot : Nat}
    (inRange : slot < XInput.slotCount) :
    Grown backend sighting (scanSlot sighting.connected hub slot) := by
  unfold Backend.scanSlot
  split
  · rename_i connected _
    exact grown.attach (.xinput inRange connected _)
  · exact grown.unplug _
  · exact grown

theorem found (started : backend.session = some session) (sighting : Sighting) :
    Grown backend sighting (backend.found session sighting) := by
  have compared : Grown backend sighting (backend.compared sighting) := by
    unfold Backend.compared Backend.listed?
    split
    · cases listing : sighting.listing with
      | none => exact refl backend sighting
      | some offers =>
        refine List.foldlRecOn offers _ ?_ fun hub grown offer listed =>
          grown.attachOffer listing listed
        exact List.foldlRecOn _ Hub.unplug (refl backend sighting) fun hub grown id _ =>
          grown.unplug id
    · exact refl backend sighting
  rw [found_eq started]
  split
  · exact List.foldlRecOn _ _ compared fun hub grown slot member =>
      grown.scanSlot (List.mem_range.mp member)
  · exact compared

end Grown

/-! ## What holds between two calls -/

/-- A device that answers goes on as its reports leave it. -/
theorem detected_polled (entry : Entry Pad) {poll : Poll} (answers : poll.failed = false)
    (isInput : ∀ kind ∈ poll.kinds, kind.isInput = true) :
    (polled entry poll).processed.detected =
      .present ⟨entry.device.replay poll.kinds, poll.pad⟩ true [] := by
  have stays := Story.removed_not_mem isInput
  simp [polled, answers, Standing.processed, stays, Standing.detected]

theorem Search.stood (search : Search hub after) (stood : hub.Stood) : after.Stood := by
  induction search with
  | done => exact stood
  | opens _ _ _ ih => exact ih (stood.attach _ _)
  | drops id _ ih => exact ih (stood.unplug id)

theorem Search.ranked (search : Search hub after) (ranked : hub.Ranked) (stood : hub.Stood) :
    after.Ranked := by
  induction search with
  | done => exact ranked
  | opens _ _ _ ih => exact ih (ranked.attach stood _ _) (stood.attach _ _)
  | drops id _ ih => exact ih (ranked.unplug id) (stood.unplug id)

/-- A live device was heard to come, and nothing of it waits. -/
theorem Sound.stands_of_live (sound : Sound hub) {entry : Entry Pad}
    (live : entry ∈ hub.registry.live) :
    hub.Stands entry.id (.present entry true []) ∧ Story (.present entry true []) [.attached] := by
  obtain ⟨standing, -, stands, -⟩ := sound.told entry.id
  have here := stands.mem_live_iff_live?.mp live
  have drained := stands.isDrained sound.idle
  cases standing with
  | absent | unplugged | gone => cases here
  | present _ announced waiting =>
    cases here
    simp only [Standing.isDrained, Bool.and_eq_true, List.isEmpty_iff] at drained
    obtain ⟨rfl, rfl⟩ := drained
    exact ⟨stands, @Story.present _ entry true [] [] (List.forall_mem_nil _)
      (List.forall_mem_nil _) (by simp)⟩

/-- A device that was live before a detection searches stays announced. -/
theorem Sound.announced (sound : Sound backend.hub) {sighting : Sighting} (fits : sighting.Fits)
    {entry : Entry Pad} {announced : Bool} {waiting : List EventKind}
    (old : entry ∈ backend.hub.registry.live)
    (stands : (backend.found session sighting).Stands entry.id (.present entry announced waiting)) :
    announced = true := by
  obtain ⟨before, story⟩ := sound.stands_of_live old
  have scanned : Scanned backend.hub (backend.found session sighting) := .found fits
  obtain ⟨next, turns, arrives⟩ := scanned.carries entry.id _ _ before story
  cases stands.unique arrives
  exact (story.turns turns).announced (by simp)

/-- A device that was opened by the search of a detection was not announced before. -/
theorem Sound.unannounced (sound : Sound backend.hub) (started : backend.session = some session)
    {sighting : Sighting} (fits : sighting.Fits) {entry : Entry Pad} {announced : Bool}
    {waiting : List EventKind} (new : entry ∉ backend.hub.registry.live)
    (stands : (backend.found session sighting).Stands entry.id (.present entry announced waiting)) :
    announced = false := by
  have numbered : backend.hub.registry.nextId ≤ entry.id :=
    ((Search.found started sighting).old_or_new.2 entry stands.mem_live).resolve_left new
  obtain ⟨standing, heard, before, story⟩ := sound.told entry.id
  have absent := before.absent_iff.mpr numbered
  cases standing with
  | present | unplugged | gone => cases absent
  | absent =>
    have scanned : Scanned backend.hub (backend.found session sighting) := .found fits
    obtain ⟨next, turns, arrives⟩ := scanned.carries entry.id .absent [] before .absent
    cases stands.unique arrives
    exact (Story.absent.turns turns).unannounced rfl

theorem ranked_pollAll {limit : Nat} {standard : Option SampleQuery} {entries : List (Entry Pad)}
    {failed : List DeviceId} {taken : List (String × Nat)} (ranked : hub.Ranked)
    (polled : pollAll limit standard readings hub entries = .ok (after, failed, taken)) :
    after.Ranked := by
  induction entries generalizing hub failed taken with
  | nil =>
    cases polled
    exact ranked
  | cons entry rest ih =>
    obtain ⟨poll, later, more, -, others, -⟩ := of_pollAll_cons polled
    exact ih (ranked.report entry.id poll.kinds poll.pad) others

theorem ranked_process (ranked : backend.hub.Ranked)
    (performed : backend.perform (.process readings) = .ok done) : done.backend.hub.Ranked := by
  obtain ⟨processed, finished, performed⟩ := exists_of_bind_ok performed
  cases performed
  unfold process at finished
  split at finished
  · cases finished
    exact ranked
  · obtain ⟨⟨hub, failed, taken⟩, polled, finished⟩ := exists_of_bind_ok finished
    cases finished
    exact ((ranked_pollAll ranked polled).unplugAll failed).dispatchInput.dispatchDevices

theorem hub_perform_start {startup : Startup}
    (performed : backend.perform (.start startup) = .ok done) :
    done.backend.hub = backend.hub ∧ done.notices = [] := by
  simp only [perform] at performed
  split at performed
  · rename_i started starts
    cases performed
    exact ⟨hub_start starts, rfl⟩
  · cases performed
    exact ⟨rfl, rfl⟩

theorem ranked_perform (kept : Kept backend) (ranked : backend.hub.Ranked)
    (performed : backend.perform call = .ok done) : done.backend.hub.Ranked := by
  cases call with
  | process readings => exact ranked_process ranked performed
  | shutdown =>
    cases performed
    exact .clear _
  | start startup =>
    rw [(hub_perform_start performed).1]
    exact ranked
  | detect sighting =>
    cases performed
    cases started : backend.session with
    | none => simpa only [detect, started] using ranked
    | some session =>
      rw [detect_of_session started]
      exact ((Search.found started sighting).ranked ranked kept.sound.stood).dispatchDevices

/-- Standard gamepads are looked for in every session, or in none. -/
def Standard (backend : Backend) : Prop :=
  ∀ session ∈ backend.session, session.standard.isSome = backend.standardGamepads

theorem standard_perform (standard : backend.Standard)
    (performed : backend.perform call = .ok done) : done.backend.Standard := by
  have setting := standardGamepads_perform performed
  cases call with
  | process readings =>
    rwa [Standard, setting, session_process performed]
  | shutdown =>
    cases performed
    nofun
  | start startup =>
    simp only [perform] at performed
    split at performed
    · rename_i after starts
      cases performed
      unfold start at starts
      split at starts
      · cases starts
        exact standard
      · split at starts
        · cases starts
        · cases starts
          rintro _ ⟨⟩
          cases backend.standardGamepads <;> rfl
    · cases performed
      exact standard
  | detect sighting =>
    cases performed
    cases started : backend.session with
    | none => simpa only [Standard, detect, started] using standard
    | some session =>
      simp only [Standard, detect_of_session started]
      rintro _ ⟨⟩
      exact standard session started

structure Settled (backend : Backend) : Prop extends Kept backend where
  ranked : backend.hub.Ranked
  standard : backend.Standard

namespace Settled

theorem new (standardGamepads : Bool) (maxReports : Nat) :
    Settled (ofSettings standardGamepads maxReports) where
  toKept := .new standardGamepads maxReports
  ranked := .empty
  standard := nofun

theorem of_perform (settled : Settled backend) (fits : call.Fits)
    (performed : backend.perform call = .ok done) : Settled done.backend where
  toKept := settled.toKept.of_perform fits performed
  ranked := ranked_perform settled.toKept settled.ranked performed
  standard := standard_perform settled.standard performed

/-- What every call keeps holds after a run. -/
theorem keeps {P : Backend → Prop} (settled : Settled backend) (holds : P backend)
    (each : ∀ {backend call done}, call ∈ calls → Settled backend → P backend →
      backend.perform call = .ok done → P done.backend)
    (fits : ∀ call ∈ calls, call.Fits) (ran : backend.run calls = .ok done) : P done.backend := by
  induction calls generalizing backend done with
  | nil =>
    cases ran
    exact holds
  | cons call rest ih =>
    obtain ⟨first, others, performed, onward, same⟩ := of_runAll_cons ran
    rw [List.forall_mem_cons] at fits
    rw [same]
    exact ih (settled.of_perform fits.1 performed)
      (each (List.mem_cons_self ..) settled holds performed)
      (fun member => each (List.mem_cons_of_mem _ member)) fits.2 onward

theorem run (settled : Settled backend) (fits : ∀ call ∈ calls, call.Fits)
    (ran : backend.run calls = .ok done) : Settled done.backend :=
  settled.keeps settled (fun member settled _ performed =>
    settled.of_perform (fits _ member) performed) fits ran

/-! ## Calls -/

/-- After a detection those devices are live that it found. -/
theorem live_detect (settled : Settled backend) (started : backend.session = some session)
    (sighting : Sighting) :
    (backend.detect sighting).1.hub.registry.live =
      (backend.found session sighting).registry.live := by
  have found := Search.found started sighting
  have stood : (backend.found session sighting).Stood := (settled.orderly.search found).stood
  rw [detect_of_session started]
  exact (found.ranked settled.ranked settled.sound.stood).live_dispatchDevices_eq stood

/-- After a processing those devices are live that answered, as their reports leave them. -/
theorem mem_live_process (settled : Settled backend) (started : backend.session = some session)
    (fits : readings.Fits) (performed : backend.perform (.process readings) = .ok done)
    {entry : Entry Pad} :
    entry ∈ done.backend.hub.registry.live ↔
      ∃ old ∈ backend.hub.registry.live, ∃ poll,
        pollPad backend.maxReports session.standard readings old.data = .ok poll ∧
          poll.failed = false ∧ entry = ⟨old.device.replay poll.kinds, poll.pad⟩ := by
  obtain ⟨next, inputs, removals, processing⟩ := settled.sound.processing started fits
  cases performed.symm.trans processing.performed
  constructor
  · intro live
    obtain ⟨standing, -, stands, -⟩ := settled.sound.told entry.id
    obtain ⟨turned, turns, -, -, arrives⟩ := processing.turns _ standing stands
    have here := arrives.mem_live_iff_live?.mp live
    cases turns with
    | absent | gone => cases here
    | @live old poll polled isInput =>
      cases answers : poll.failed with
      | true => simp [Backend.polled, answers, Standing.processed, Standing.detected,
          Standing.live?] at here
      | false =>
        rw [detected_polled old answers isInput] at here
        cases here
        exact ⟨old, stands.mem_live, poll, polled, answers, rfl⟩
  · rintro ⟨old, live, poll, polled, answers, rfl⟩
    obtain ⟨standing, -, stands, -⟩ := settled.sound.told old.id
    obtain ⟨turned, turns, -, -, arrives⟩ := processing.turns _ standing stands
    have own := stands.live?_eq live rfl
    cases turns with
    | absent | gone => cases own
    | @live _ poll' polled' isInput =>
      cases own
      cases polled.symm.trans polled'
      rw [detected_polled old answers isInput] at arrives
      exact arrives.mem_live

/-- A device that stays in a detection is not heard of, and a new one is heard to come. -/
theorem heard_detect (settled : Settled backend) (started : backend.session = some session)
    {sighting : Sighting} (fits : sighting.Fits) {entry : Entry Pad}
    (live : entry ∈ (backend.found session sighting).registry.live) :
    (entry ∈ backend.hub.registry.live → heardOf (backend.detect sighting).2 entry.id = []) ∧
      (entry ∉ backend.hub.registry.live →
        (heardOf (backend.detect sighting).2 entry.id).map (·.kind) = [.attached]) := by
  have sound := settled.sound
  obtain ⟨standing, stands⟩ := (Search.found started sighting).stood sound.stood entry.id
  have here := stands.mem_live_iff_live?.mp live
  cases standing with
  | absent | unplugged | gone => cases here
  | present _ announced waiting =>
    cases here
    rw [detect_of_session started]
    dsimp only
    rw [stands.dispatchDevices.2]
    constructor
    · intro old
      rw [sound.announced fits old stands]
      rfl
    · intro new
      rw [sound.unannounced started fits new stands]
      exact entry.device.kinds_hears [.attached]

/-- Of a device that answers, its reports are heard. -/
theorem heard_process (settled : Settled backend) (started : backend.session = some session)
    (fits : readings.Fits) (performed : backend.perform (.process readings) = .ok done)
    {entry : Entry Pad} {poll : Poll} (live : entry ∈ backend.hub.registry.live)
    (polled : pollPad backend.maxReports session.standard readings entry.data = .ok poll)
    (answers : poll.failed = false) :
    (heardOf done.notices entry.id).map (·.kind) = poll.kinds := by
  obtain ⟨next, inputs, removals, processing⟩ := settled.sound.processing started fits
  cases performed.symm.trans processing.performed
  obtain ⟨again, same, input, changes, -⟩ := processing.live settled.sound live
  cases polled.symm.trans same
  rw [heardOf_append, List.map_append, input, changes, kinds_delivery_polled,
    kinds_announcement_polled, answers]
  simp

theorem came (settled : Settled backend) (fits : call.Fits)
    (performed : backend.perform call = .ok done) {entry : Entry Pad}
    (live : entry ∈ done.backend.hub.registry.live) :
    Came backend call entry done.notices := by
  cases call with
  | shutdown =>
    cases performed
    cases live
  | start startup =>
    obtain ⟨same, silent⟩ := hub_perform_start performed
    rw [same] at live
    exact .stays live (by rw [silent]; rfl)
  | detect sighting =>
    cases performed
    cases started : backend.session with
    | none =>
      simp only [detect, started] at live ⊢
      exact .stays live rfl
    | some session =>
      rw [settled.live_detect started] at live
      obtain ⟨stays, joins⟩ := settled.heard_detect started fits live
      by_cases old : entry ∈ backend.hub.registry.live
      · exact .stays old (stays old)
      · obtain ⟨fresh, opened⟩ :=
          ((Grown.found started sighting).2 entry live).resolve_left old
        exact .joins rfl fresh opened (joins old)
  | process readings =>
    cases started : backend.session with
    | none =>
      simp only [perform, process, started] at performed
      cases performed
      exact .stays live rfl
    | some session =>
      obtain ⟨old, was, poll, polled, answers, is_⟩ :=
        (settled.mem_live_process started fits performed).mp live
      refine .answers rfl started was polled answers is_ ?_
      rw [is_, Entry.id_mk, Device.id_replay]
      exact settled.heard_process started fits performed was polled answers

end Settled

end Backend

end GamepadInput.Windows
