import GamepadInput.Proofs.Windows.Run

/-!
# Which interfaces are open

An enumeration that succeeds opens what is listed, accepted and can be opened, and lets go of what
is no longer listed; standard gamepads do not matter to it (`mem_openPaths_scanHid`,
`mem_openPaths_scanSlots`).  No two open devices share a path, and the record of each names its
path (`Orderly`).
-/

namespace GamepadInput.Windows

/-- Path that the record of a HID device names. -/
def hidPathOf? (device : Device) : Option String :=
  if device.metadata.bus = some "hid" then device.metadata.path else none

namespace Offer

variable {offer : Offer} {standardGamepads : Bool}

/-- A detection opens the interface, unless it is open. -/
def opens (offer : Offer) (standardGamepads : Bool) : Bool :=
  offer.info.accepted standardGamepads && offer.open?.isSome

theorem path_open? {pad : Hid.Pad} (opened : offer.open? = some pad) :
    pad.path = offer.info.path := by
  obtain ⟨description, -, opened⟩ := Option.bind_eq_some_iff.mp opened
  obtain ⟨parser, -, opened⟩ := Option.bind_eq_some_iff.mp opened
  obtain ⟨mode, -, ⟨⟩⟩ := Option.bind_eq_some_iff.mp opened
  rfl

end Offer

namespace Backend

variable {hub middle after : Hub Pad} {path : String}

/-- Paths of the open HID devices. -/
def openPaths (hub : Hub Pad) : List String := hub.registry.kept.filterMap Pad.hidPath?

theorem mem_openPaths :
    path ∈ openPaths hub ↔ ∃ entry ∈ hub.registry.live, entry.data.hidPath? = some path := by
  simp [openPaths, Registry.kept]

theorem isOpen_iff : isOpen hub path = true ↔ path ∈ openPaths hub := by
  simp [isOpen, mem_openPaths]

theorem isOpen_of_mem {entry : Entry Pad} (live : entry ∈ hub.registry.live)
    (here : entry.data.hidPath? = some path) : isOpen hub path = true :=
  isOpen_iff.mpr (mem_openPaths.mpr ⟨entry, live, here⟩)

theorem mem_openPaths_attach {device : Device} {pad : Pad} :
    path ∈ openPaths (hub.attach device pad).1 ↔
      path ∈ openPaths hub ∨ pad.hidPath? = some path := by
  simp [openPaths, hub.kept_attach]

/-! ## What looking for devices does -/

/-- A listed interface is attached if it can be opened and is not open, and passed over else. -/
theorem attachOffer_cases (standardGamepads : Bool) (hub : Hub Pad) (offer : Offer) :
    attachOffer standardGamepads hub offer = hub ∧
        (offer.opens standardGamepads = true → offer.info.path ∈ openPaths hub) ∨
      offer.opens standardGamepads = true ∧ offer.info.path ∉ openPaths hub ∧
        ∃ device pad, attachOffer standardGamepads hub offer = (hub.attach device (.hid pad)).1 ∧
          pad.path = offer.info.path ∧ hidPathOf? device = some offer.info.path := by
  unfold attachOffer
  dsimp only
  split
  · rename_i passed
    refine .inl ⟨rfl, fun opens => ?_⟩
    rw [Offer.opens, Bool.and_eq_true] at opens
    simpa [opens.1, isOpen_iff] using passed
  · rename_i wanted
    simp only [Bool.or_eq_true, Bool.not_eq_true', not_or, Bool.not_eq_false, isOpen_iff] at wanted
    cases opened : offer.open? with
    | none => exact .inl ⟨rfl, by simp [Offer.opens, opened]⟩
    | some pad =>
      refine .inr ⟨by simp [Offer.opens, opened, wanted.1], wanted.2, _, pad, rfl,
        Offer.path_open? opened, ?_⟩
      simp [hidPathOf?, Device.atRest, Hid.Info.metadata]

/-- A slot is passed over, or a gamepad is attached to it, or the one in it is unplugged. -/
theorem scanSlot_cases (connected : Nat → Bool) (hub : Hub Pad) (slot : Nat) :
    scanSlot connected hub slot = hub ∨
      scanSlot connected hub slot =
        (hub.attach (XInput.device slot) (.xinput (.atRest slot))).1 ∨
      ∃ entry ∈ hub.registry.live, entry.data.hidPath? = none ∧
        scanSlot connected hub slot = hub.unplug entry.id := by
  unfold scanSlot
  split
  · exact .inr (.inl rfl)
  · rename_i id _ found
    obtain ⟨entry, there, rfl⟩ := Option.map_eq_some_iff.mp found
    have sits : entry.data.slot? = some slot := by simpa using List.find?_some there
    refine .inr (.inr ⟨entry, List.mem_of_find?_eq_some there, ?_, rfl⟩)
    cases pad : entry.data with
    | hid => simp [pad, Pad.slot?] at sits
    | xinput => rfl
  · exact .inl rfl

/-- Looking for devices attaches some, and unplugs some.  A HID device is attached only where none is
open, and with a record that names its path. -/
inductive Search : Hub Pad → Hub Pad → Prop where
  | done {hub : Hub Pad} : Search hub hub
  | opens {hub after : Hub Pad} {device : Device} {pad : Pad}
      (named : hidPathOf? device = pad.hidPath?)
      (fresh : ∀ path ∈ pad.hidPath?, path ∉ openPaths hub)
      (rest : Search (hub.attach device pad).1 after) : Search hub after
  | drops {hub after : Hub Pad} (id : DeviceId) (rest : Search (hub.unplug id) after) :
      Search hub after

namespace Search

theorem trans (search : Search hub middle) (onward : Search middle after) : Search hub after := by
  induction search with
  | done => exact onward
  | opens named fresh _ ih => exact .opens named fresh (ih onward)
  | drops id _ ih => exact .drops id (ih onward)

theorem foldl {β : Type} {step : Hub Pad → β → Hub Pad} (items : List β)
    (each : ∀ hub item, Search hub (step hub item)) (hub : Hub Pad) :
    Search hub (items.foldl step hub) :=
  List.foldlRecOn items step .done fun after search item _ => search.trans (each after item)

theorem attachOffer (standardGamepads : Bool) (hub : Hub Pad) (offer : Offer) :
    Search hub (attachOffer standardGamepads hub offer) := by
  rcases attachOffer_cases standardGamepads hub offer with
    ⟨same, -⟩ | ⟨-, closed, device, pad, attached, path, named⟩
  · rw [same]
    exact .done
  · rw [attached]
    have at_ : (Pad.hid pad).hidPath? = some offer.info.path := congrArg some path
    refine .opens (named.trans at_.symm) (fun other mine => ?_) .done
    rw [at_, Option.mem_some_iff] at mine
    rwa [← mine]

theorem scanHid (standardGamepads : Bool) (hub : Hub Pad) (offers : List Offer) :
    Search hub (scanHid standardGamepads hub offers) :=
  (foldl (gone hub offers) (fun _ id => .drops id .done) hub).trans
    (foldl offers (attachOffer standardGamepads) _)

theorem scanSlot (connected : Nat → Bool) (hub : Hub Pad) (slot : Nat) :
    Search hub (scanSlot connected hub slot) := by
  rcases scanSlot_cases connected hub slot with same | attached | ⟨entry, -, -, dropped⟩
  · rw [same]
    exact .done
  · rw [attached]
    have unnamed : hidPathOf? (XInput.device slot) = none := by
      simp [hidPathOf?, XInput.device, Device.atRest, Metadata.located]
    have slotted : ∀ path ∈ (Pad.xinput (.atRest slot)).hidPath?, path ∉ openPaths hub := by
      simp [Pad.hidPath?]
    exact .opens unnamed slotted .done
  · rw [dropped]
    exact .drops entry.id .done

/-- What is live after a search was live, or has a new number. -/
theorem old_or_new (search : Search hub after) :
    hub.registry.nextId ≤ after.registry.nextId ∧
      ∀ entry ∈ after.registry.live,
        entry ∈ hub.registry.live ∨ hub.registry.nextId ≤ entry.id := by
  induction search with
  | done => exact ⟨Nat.le_refl _, fun _ live => .inl live⟩
  | @opens hub after device pad named fresh _ ih =>
    have next : (hub.attach device pad).1.registry.nextId = hub.registry.nextId + 1 := rfl
    rw [next] at ih
    refine ⟨Nat.le_of_succ_le ih.1, fun entry live => ?_⟩
    rcases ih.2 entry live with there | new
    · rcases hub.mem_live_attach.mp there with old | rfl
      · exact .inl old
      · exact .inr (Nat.le_refl _)
    · exact .inr (Nat.le_of_succ_le new)
  | @drops hub after id _ ih =>
    rw [hub.nextId_unplug] at ih
    exact ⟨ih.1, fun entry live => (ih.2 entry live).imp_left fun there =>
      (hub.live_unplug id).subset there⟩

end Search

/-! ## Open devices are told apart -/

/-- Every device stands somewhere, the record of a live one names the path at which it is open, and
no two are open at one path. -/
structure Orderly (hub : Hub Pad) : Prop where
  stood : hub.Stood
  named : ∀ entry ∈ hub.registry.live, hidPathOf? entry.device = entry.data.hidPath?
  apart : ∀ first ∈ hub.registry.live, ∀ second ∈ hub.registry.live, ∀ path,
    first.data.hidPath? = some path → second.data.hidPath? = some path → first = second

namespace Orderly

theorem of_nil (stood : hub.Stood) (nothing : hub.registry.live = []) : Orderly hub where
  stood := stood
  named := by simp [nothing]
  apart := by simp [nothing]

/-- Devices may be dropped. -/
theorem of_subset (orderly : Orderly hub) (stood : after.Stood)
    (fewer : ∀ entry ∈ after.registry.live, entry ∈ hub.registry.live) : Orderly after where
  stood := stood
  named entry live := orderly.named entry (fewer entry live)
  apart first live second other := orderly.apart first (fewer first live) second (fewer second other)

theorem attach (orderly : Orderly hub) {device : Device} {pad : Pad}
    (named : hidPathOf? device = pad.hidPath?)
    (fresh : ∀ path ∈ pad.hidPath?, path ∉ openPaths hub) :
    Orderly (hub.attach device pad).1 where
  stood := orderly.stood.attach device pad
  named entry live := by
    rcases hub.mem_live_attach.mp live with old | rfl
    · exact orderly.named entry old
    · exact named
  apart first live second other path here there := by
    rcases hub.mem_live_attach.mp live with old | rfl <;>
      rcases hub.mem_live_attach.mp other with old' | rfl
    · exact orderly.apart first old second old' path here there
    · exact absurd (mem_openPaths.mpr ⟨first, old, here⟩) (fresh path there)
    · exact absurd (mem_openPaths.mpr ⟨second, old', there⟩) (fresh path here)
    · rfl

theorem unplug (orderly : Orderly hub) (id : DeviceId) : Orderly (hub.unplug id) :=
  orderly.of_subset (orderly.stood.unplug id) fun _ live =>
    (orderly.stood.mem_live_unplug.mp live).1

theorem search (orderly : Orderly hub) (search : Search hub after) : Orderly after := by
  induction search with
  | done => exact orderly
  | opens named fresh _ ih => exact ih (orderly.attach named fresh)
  | drops id _ ih => exact ih (orderly.unplug id)

theorem dispatchDevices (orderly : Orderly hub) : Orderly hub.dispatchDevices.1 :=
  orderly.of_subset orderly.stood.dispatchDevices fun _ =>
    orderly.stood.mem_live_dispatchDevices.mp

end Orderly

/-! ## Which paths are open -/

/-- Unplugging the devices that are not listed leaves those that are. -/
theorem mem_openPaths_gone (stood : hub.Stood) {offers : List Offer} :
    path ∈ openPaths ((gone hub offers).foldl Hub.unplug hub) ↔
      path ∈ openPaths hub ∧ ∃ offer ∈ offers, offer.info.path = path := by
  have unlisted (entry : Entry Pad) (live : entry ∈ hub.registry.live)
      (here : entry.data.hidPath? = some path) :
      entry.id ∈ gone hub offers ↔ ¬∃ offer ∈ offers, offer.info.path = path := by
    simp only [gone, List.mem_map, List.mem_filter]
    constructor
    · rintro ⟨other, ⟨there, missing⟩, same⟩
      rw [stood.eq_of_id there live same, here] at missing
      simpa using missing
    · intro missing
      exact ⟨entry, ⟨live, by simpa [here] using missing⟩, rfl⟩
  simp only [mem_openPaths, stood.mem_live_unplugAll]
  constructor
  · rintro ⟨entry, ⟨live, listed⟩, here⟩
    rw [unlisted entry live here, not_not] at listed
    exact ⟨⟨entry, live, here⟩, listed⟩
  · rintro ⟨⟨entry, live, here⟩, listed⟩
    exact ⟨entry, ⟨live, by rwa [unlisted entry live here, not_not]⟩, here⟩

theorem mem_openPaths_attachOffer {standardGamepads : Bool} {offer : Offer} :
    path ∈ openPaths (attachOffer standardGamepads hub offer) ↔
      path ∈ openPaths hub ∨ offer.opens standardGamepads = true ∧ offer.info.path = path := by
  rcases attachOffer_cases standardGamepads hub offer with
    ⟨same, opened⟩ | ⟨opens, -, device, pad, attached, at_, -⟩
  · rw [same]
    refine ⟨.inl, fun there => there.elim id ?_⟩
    rintro ⟨opens, rfl⟩
    exact opened opens
  · rw [attached, mem_openPaths_attach]
    simp [Pad.hidPath?, opens, at_]

theorem mem_openPaths_attachOffers {standardGamepads : Bool} {offers : List Offer} :
    path ∈ openPaths (offers.foldl (attachOffer standardGamepads) hub) ↔
      path ∈ openPaths hub ∨
        ∃ offer ∈ offers, offer.opens standardGamepads = true ∧ offer.info.path = path := by
  induction offers generalizing hub with
  | nil => simp
  | cons offer rest ih => simp [ih, mem_openPaths_attachOffer, or_assoc]

/-- After a listing those interfaces are open that are listed and were open or can be opened. -/
theorem mem_openPaths_scanHid (stood : hub.Stood) {standardGamepads : Bool}
    {offers : List Offer} :
    path ∈ openPaths (scanHid standardGamepads hub offers) ↔
      ∃ offer ∈ offers, offer.info.path = path ∧
        (path ∈ openPaths hub ∨ offer.opens standardGamepads = true) := by
  rw [scanHid, mem_openPaths_attachOffers, mem_openPaths_gone stood]
  constructor
  · rintro (⟨there, offer, listed, at_⟩ | ⟨offer, listed, opens, at_⟩)
    · exact ⟨offer, listed, at_, .inl there⟩
    · exact ⟨offer, listed, at_, .inr opens⟩
  · rintro ⟨offer, listed, at_, there | opens⟩
    · exact .inl ⟨there, offer, listed, at_⟩
    · exact .inr ⟨offer, listed, opens, at_⟩

theorem mem_openPaths_scanSlot (stood : hub.Stood) {connected : Nat → Bool} {slot : Nat} :
    path ∈ openPaths (scanSlot connected hub slot) ↔ path ∈ openPaths hub := by
  rcases scanSlot_cases connected hub slot with same | attached | ⟨entry, there, slotted, dropped⟩
  · rw [same]
  · rw [attached, mem_openPaths_attach]
    simp [Pad.hidPath?]
  · rw [dropped]
    simp only [mem_openPaths, stood.mem_live_unplug]
    refine ⟨fun ⟨other, ⟨live, _⟩, here⟩ => ⟨other, live, here⟩, ?_⟩
    rintro ⟨other, live, here⟩
    refine ⟨other, ⟨live, fun same => ?_⟩, here⟩
    rw [stood.eq_of_id live there same, slotted] at here
    cases here

/-- Standard gamepads come and go without a HID device being opened or let go. -/
theorem mem_openPaths_scanSlots (orderly : Orderly hub) {connected : Nat → Bool} :
    path ∈ openPaths (scanSlots connected hub) ↔ path ∈ openPaths hub := by
  have kept : Orderly (scanSlots connected hub) ∧
      (path ∈ openPaths (scanSlots connected hub) ↔ path ∈ openPaths hub) := by
    refine List.foldlRecOn (List.range XInput.slotCount) (scanSlot connected)
      (motive := fun after => Orderly after ∧ (path ∈ openPaths after ↔ path ∈ openPaths hub))
      ⟨orderly, Iff.rfl⟩ fun after kept slot _ => ?_
    exact ⟨kept.1.search (.scanSlot connected after slot),
      (mem_openPaths_scanSlot kept.1.stood).trans kept.2⟩
  exact kept.2

theorem mem_openPaths_dispatchDevices (stood : hub.Stood) :
    path ∈ openPaths hub.dispatchDevices.1 ↔ path ∈ openPaths hub := by
  simp only [mem_openPaths, stood.mem_live_dispatchDevices]

/-! ## Calls -/

variable {backend : Backend} {session : Session} {sighting : Sighting}

/-- A detection enumerates HID interfaces. -/
def enumerates (backend : Backend) (sighting : Sighting) : Bool :=
  backend.session.any (scansHid · sighting)

/-- The listing that a detection compares the open devices with. -/
def listed? (backend : Backend) (sighting : Sighting) : Option (List Offer) :=
  if backend.enumerates sighting then sighting.listing else none

/-- The hub once HID interfaces were looked for. -/
def compared (backend : Backend) (sighting : Sighting) : Hub Pad :=
  (backend.listed? sighting).elim backend.hub (scanHid backend.standardGamepads backend.hub)

theorem found_eq (started : backend.session = some session) (sighting : Sighting) :
    backend.found session sighting =
      if session.standard.isSome then scanSlots sighting.connected (backend.compared sighting)
      else backend.compared sighting := by
  have compares : backend.compared sighting =
      if scansHid session sighting then
        sighting.listing.elim backend.hub (scanHid backend.standardGamepads backend.hub)
      else backend.hub := by
    simp only [compared, listed?, enumerates, started, Option.any_some]
    split <;> rfl
  rw [compares]
  rfl

theorem Search.compared (backend : Backend) (sighting : Sighting) :
    Search backend.hub (backend.compared sighting) := by
  unfold Backend.compared
  cases backend.listed? sighting with
  | none => exact .done
  | some offers => exact .scanHid _ _ offers

theorem Search.found (started : backend.session = some session) (sighting : Sighting) :
    Search backend.hub (backend.found session sighting) := by
  rw [found_eq started]
  split
  · exact (compared backend sighting).trans (foldl _ (scanSlot sighting.connected) _)
  · exact compared backend sighting

theorem Orderly.detect (orderly : Orderly backend.hub) (sighting : Sighting) :
    Orderly (backend.detect sighting).1.hub := by
  cases started : backend.session with
  | none => simpa only [Backend.detect, started] using orderly
  | some session =>
    rw [detect_of_session started]
    exact (orderly.search (.found started sighting)).dispatchDevices

/-- A detection that gets a listing brings the open HID devices in line with it, and any other leaves
them as they are. -/
theorem isOpen_detect (orderly : Orderly backend.hub) (sighting : Sighting) (path : String) :
    isOpen (backend.detect sighting).1.hub path = true ↔
      (backend.listed? sighting).elim (isOpen backend.hub path = true) fun offers =>
        ∃ offer ∈ offers, offer.info.path = path ∧
          (isOpen backend.hub path = true ∨ offer.opens backend.standardGamepads = true) := by
  have compares : path ∈ openPaths (backend.detect sighting).1.hub ↔
      path ∈ openPaths (backend.compared sighting) := by
    cases started : backend.session with
    | none => simp [Backend.detect, Backend.compared, listed?, enumerates, started]
    | some session =>
      rw [detect_of_session started]
      have found := orderly.search (.found started sighting)
      dsimp only
      rw [mem_openPaths_dispatchDevices found.stood, found_eq started]
      split
      · exact mem_openPaths_scanSlots (orderly.search (.compared backend sighting))
      · rfl
  simp only [isOpen_iff, compares, compared]
  cases backend.listed? sighting with
  | none => rfl
  | some offers => exact mem_openPaths_scanHid orderly.stood

/-- A device stays at its path. -/
theorem hidPath?_pollPad {limit : Nat} {standard : Option SampleQuery} {readings : Readings}
    {pad : Pad} {poll : Poll} (polled : pollPad limit standard readings pad = .ok poll) :
    poll.pad.hidPath? = pad.hidPath? := by
  cases pad with
  | hid pad =>
    obtain ⟨done, read, polled⟩ := exists_of_bind_ok polled
    cases polled
    exact congrArg some (Hid.Pad.path_poll read)
  | xinput pad =>
    unfold pollPad at polled
    dsimp only at polled
    split at polled
    · cases polled
      rfl
    · obtain ⟨updated, -, polled⟩ := exists_of_bind_ok polled
      cases polled
      rfl

namespace Processing

variable {readings : Readings} {done : Backend} {inputs removals : List Notice}

/-- After a processing those devices are live that were, and whose read did not fail. -/
theorem of_live (processing : Processing backend session readings done inputs removals)
    (sound : Sound backend.hub) {entry : Entry Pad} (live : entry ∈ done.hub.registry.live) :
    ∃ old ∈ backend.hub.registry.live, ∃ poll,
      pollPad backend.maxReports session.standard readings old.data = .ok poll ∧
        poll.failed = false ∧ entry.id = old.id ∧ entry.data = poll.pad ∧
        entry.device.metadata = old.device.metadata := by
  obtain ⟨standing, -, stands, -⟩ := sound.told entry.id
  obtain ⟨turned, turns, -, -, arrives⟩ := processing.turns _ standing stands
  have here := arrives.mem_live_iff_live?.mp live
  cases turns with
  | absent | gone => cases here
  | @live old poll polled isInput =>
    have mine : old.id = entry.id := stands.mine old rfl
    by_cases failed : poll.failed = true
    · simp [Backend.polled, failed, Standing.processed, Standing.detected, Standing.live?] at here
    · rw [Bool.not_eq_true] at failed
      have stays := Story.removed_not_mem isInput
      simp [Backend.polled, failed, Standing.processed, stays, Standing.detected,
        Standing.live?] at here
      exact ⟨old, stands.mem_live, poll, polled, failed, mine.symm, by simp [← here],
        by simp [← here]⟩

/-- A path is open after a processing only if the device at it did not fail. -/
theorem of_isOpen (processing : Processing backend session readings done inputs removals)
    (sound : Sound backend.hub) (opened : isOpen done.hub path = true) :
    ∃ old ∈ backend.hub.registry.live, old.data.hidPath? = some path ∧ ∃ poll,
      pollPad backend.maxReports session.standard readings old.data = .ok poll ∧
        poll.failed = false := by
  obtain ⟨entry, live, here⟩ := mem_openPaths.mp (isOpen_iff.mp opened)
  obtain ⟨old, was, poll, polled, answers, -, data, -⟩ := processing.of_live sound live
  rw [data, hidPath?_pollPad polled] at here
  exact ⟨old, was, here, poll, polled, answers⟩

theorem orderly (processing : Processing backend session readings done inputs removals)
    (sound : Sound backend.hub) (ends : Sound done.hub) (orderly : Orderly backend.hub) :
    Orderly done.hub where
  stood := ends.stood
  named entry live := by
    obtain ⟨old, there, poll, polled, -, -, data, metadata⟩ := processing.of_live sound live
    rw [data, hidPath?_pollPad polled, ← orderly.named old there]
    simp only [hidPathOf?, metadata]
  apart first live second other path here there := by
    obtain ⟨old, was, poll, polled, -, mine, data, -⟩ := processing.of_live sound live
    obtain ⟨old', was', poll', polled', -, mine', data', -⟩ := processing.of_live sound other
    rw [data, hidPath?_pollPad polled] at here
    rw [data', hidPath?_pollPad polled'] at there
    have same := orderly.apart old was old' was' path here there
    exact ends.stood.eq_of_id live other (by rw [mine, mine', same])

end Processing

end Backend

end GamepadInput.Windows
