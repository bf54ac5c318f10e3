import GamepadInput.Proofs.Device.Changes
import GamepadInput.Proofs.Windows.Roster

/-!
# What a listing makes of the HID devices

An enumeration lets go of the devices that are no longer listed and keeps the others as they are.
Behind them it attaches one device for every other path at which a listed interface is accepted and
opens, in the order of the listing (`Reconciled`).  Standard gamepads come and go without touching a
HID device.
-/

namespace GamepadInput

namespace Windows

namespace Offer

/-- A device was opened from a listed interface. -/
structure Opened (standardGamepads : Bool) (offer : Offer) (entry : Entry Pad) : Prop where
  accepted : offer.info.accepted standardGamepads = true
  opens : offer.open?.isSome = true
  path : entry.data.hidPath? = some offer.info.path
  vendor : entry.device.vendor = offer.info.vendor
  product : entry.device.product = offer.info.product
  metadata : entry.device.metadata = offer.info.metadata

end Offer

/-- The interfaces that an enumeration opens, some paths being taken: the first that is accepted and
opens of each other path. -/
def newcomers (standardGamepads : Bool) (taken : String → Bool) : List Offer → List Newcomer
  | [] => []
  | offer :: rest =>
    if !offer.info.accepted standardGamepads || taken offer.info.path then
      newcomers standardGamepads taken rest
    else
      match offer.open? with
      | none => newcomers standardGamepads taken rest
      | some pad =>
        ⟨offer, pad⟩ ::
          newcomers standardGamepads (fun path => path = offer.info.path || taken path) rest

section Newcomers

variable {standardGamepads : Bool} {taken : String → Bool} {offers : List Offer}

/-- An offer is passed over, or it is the next newcomer and takes its path. -/
theorem newcomers_cons (offer : Offer) (rest : List Offer) :
    (newcomers standardGamepads taken (offer :: rest) = newcomers standardGamepads taken rest ∧
        (offer.opens standardGamepads = true → taken offer.info.path = true)) ∨
      ∃ pad, offer.info.accepted standardGamepads = true ∧ offer.open? = some pad ∧
        taken offer.info.path = false ∧
        newcomers standardGamepads taken (offer :: rest) = ⟨offer, pad⟩ ::
          newcomers standardGamepads (fun path => path = offer.info.path || taken path) rest := by
  cases accepted : offer.info.accepted standardGamepads with
  | false => exact .inl ⟨by simp [newcomers, accepted], by simp [Offer.opens, accepted]⟩
  | true =>
    cases held : taken offer.info.path with
    | true => exact .inl ⟨by simp [newcomers, held], fun _ => rfl⟩
    | false =>
      cases opened : offer.open? with
      | none =>
        exact .inl ⟨by simp [newcomers, accepted, held, opened], by simp [Offer.opens, opened]⟩
      | some pad =>
        exact .inr ⟨pad, rfl, rfl, rfl, by simp [newcomers, accepted, held, opened]⟩

theorem newcomers_sublist :
    ((newcomers standardGamepads taken offers).map (·.offer)).Sublist offers := by
  induction offers generalizing taken with
  | nil => exact .slnil
  | cons offer rest ih =>
    rcases @newcomers_cons standardGamepads taken offer rest with
      ⟨passed, -⟩ | ⟨pad, -, -, -, opened⟩
    · rw [passed]
      exact ih.cons offer
    · rw [opened]
      exact ih.cons_cons offer

theorem opened_of_mem_newcomers {newcomer : Newcomer}
    (member : newcomer ∈ newcomers standardGamepads taken offers) :
    newcomer.offer.info.accepted standardGamepads = true ∧
      newcomer.offer.open? = some newcomer.pad := by
  induction offers generalizing taken with
  | nil => cases member
  | cons offer rest ih =>
    rcases @newcomers_cons standardGamepads taken offer rest with
      ⟨passed, -⟩ | ⟨pad, accepted, opens, -, opened⟩
    · exact ih (passed ▸ member)
    · rw [opened] at member
      rcases List.mem_cons.mp member with rfl | later
      · exact ⟨accepted, opens⟩
      · exact ih later

/-- A path is newly opened just if it is not taken and some listed interface opens at it. -/
theorem newcomers_path_iff {path : String} :
    (∃ newcomer ∈ newcomers standardGamepads taken offers, newcomer.path = path) ↔
      taken path = false ∧
        ∃ offer ∈ offers, offer.info.path = path ∧ offer.opens standardGamepads = true := by
  induction offers generalizing taken with
  | nil => simp [newcomers]
  | cons offer rest ih =>
    rcases @newcomers_cons standardGamepads taken offer rest with
      ⟨passed, held⟩ | ⟨pad, accepted, opens, free, opened⟩
    · rw [passed, ih]
      constructor
      · rintro ⟨free, other, member, at_⟩
        exact ⟨free, other, List.mem_cons_of_mem _ member, at_⟩
      · rintro ⟨free, other, member, at_, opens⟩
        refine ⟨free, other, ?_, at_, opens⟩
        rcases List.mem_cons.mp member with rfl | later
        · rw [at_, free] at held
          exact absurd (held opens) (by simp)
        · exact later
    · have here : offer.opens standardGamepads = true := by simp [Offer.opens, accepted, opens]
      simp only [opened, List.exists_mem_cons_iff, ih]
      constructor
      · rintro (rfl | ⟨free, other, member, at_⟩)
        · exact ⟨free, .inl ⟨rfl, here⟩⟩
        · simp only [Bool.or_eq_false_iff] at free
          exact ⟨free.2, .inr ⟨other, member, at_⟩⟩
      · rintro ⟨free, ⟨at_, -⟩ | ⟨other, member, at_⟩⟩
        · exact .inl at_
        · by_cases same : path = offer.info.path
          · exact .inl same.symm
          · exact .inr ⟨by simp [same, free], other, member, at_⟩

theorem newcomers_nodup :
    ((newcomers standardGamepads taken offers).map Newcomer.path).Nodup := by
  induction offers generalizing taken with
  | nil => exact .nil
  | cons offer rest ih =>
    rcases @newcomers_cons standardGamepads taken offer rest with
      ⟨passed, -⟩ | ⟨pad, -, -, -, opened⟩
    · exact passed ▸ ih
    · rw [opened, List.map_cons, List.nodup_cons]
      refine ⟨fun member => ?_, ih⟩
      obtain ⟨later, among, same⟩ := List.mem_map.mp member
      have free := (newcomers_path_iff.mp ⟨later, among, same⟩).1
      simp [Newcomer.path] at free

end Newcomers

/-- A device stays what was opened, whatever it reports. -/
theorem Offer.Opened.answers {standardGamepads : Bool} {offer : Offer} {old : Entry Pad}
    {limit : Nat} {standard : Option SampleQuery} {readings : Readings} {poll : Backend.Poll}
    (opened : offer.Opened standardGamepads old)
    (polled : Backend.pollPad limit standard readings old.data = .ok poll) :
    offer.Opened standardGamepads ⟨old.device.replay poll.kinds, poll.pad⟩ := by
  obtain ⟨axes, buttons, is_⟩ := old.device.replay_eq poll.kinds
  rw [is_]
  exact { opened with path := (Backend.hidPath?_pollPad polled).trans opened.path }

/-- No device of the standard path is opened beside it. -/
theorem Offer.Opened.not_standard {offer : Offer} {entry : Entry Pad}
    (opened : offer.Opened true entry) {path : String} (at_ : path ∈ entry.data.hidPath?) :
    Hid.isStandard entry.device.vendor entry.device.product path = false := by
  have accepted := opened.accepted
  rw [opened.path, Option.mem_some_iff] at at_
  simp only [Hid.Info.accepted, Bool.true_and, Bool.and_eq_true, Bool.not_eq_true'] at accepted
  rw [opened.vendor, opened.product, ← at_]
  exact accepted.2

namespace Backend

variable {backend : Backend} {session : Session} {hub : Hub Pad} {offers : List Offer}
  {standardGamepads : Bool} {sighting : Sighting}

/-- The live HID devices, in order. -/
def hidDevices (hub : Hub Pad) : List (Entry Pad) :=
  hub.registry.live.filter (·.data.hidPath?.isSome)

/-- The path of a HID device is listed. -/
def isListed (offers : List Offer) (entry : Entry Pad) : Bool :=
  entry.data.hidPath?.any fun path => offers.any (·.info.path = path)

/-- What a listing makes of the HID devices. -/
structure Reconciled (standardGamepads : Bool) (hub after : Hub Pad) (offers : List Offer)
    (fresh : List Newcomer) : Prop where
  /-- Those stay that are listed, and the new ones follow under the next numbers. -/
  devices : hidDevices after = (hidDevices hub).filter (isListed offers) ++
    fresh.mapIdx fun index newcomer => newcomer.entry (hub.registry.nextId + index)
  older : ∀ entry ∈ hidDevices hub, entry.id < hub.registry.nextId
  /-- The new ones are in the order of the listing. -/
  ordered : (fresh.map (·.offer)).Sublist offers
  opened : ∀ newcomer ∈ fresh, newcomer.offer.info.accepted standardGamepads = true ∧
    newcomer.offer.open? = some newcomer.pad
  single : (fresh.map Newcomer.path).Nodup
  /-- A path has a new device just if none was open at it and some accepted entry of it opens. -/
  complete : ∀ path, (∃ newcomer ∈ fresh, newcomer.path = path) ↔ isOpen hub path = false ∧
    ∃ offer ∈ offers, offer.info.path = path ∧
      offer.info.accepted standardGamepads = true ∧ offer.open?.isSome = true

/-! ## One enumeration -/

theorem mem_gone_iff (stood : hub.Stood) {entry : Entry Pad} (live : entry ∈ hub.registry.live) :
    entry.id ∈ gone hub offers ↔ entry.data.hidPath?.isSome = true ∧ isListed offers entry = false := by
  have told : entry.id ∈ gone hub offers ↔ (entry.data.hidPath?.any fun path =>
      offers.all fun offer => offer.info.path ≠ path) = true := by
    simp only [gone, List.mem_map, List.mem_filter]
    constructor
    · rintro ⟨other, ⟨there, missing⟩, same⟩
      rwa [stood.eq_of_id there live same] at missing
    · exact fun missing => ⟨entry, ⟨live, missing⟩, rfl⟩
  rw [told, isListed]
  cases entry.data.hidPath? <;> simp

/-- Letting go of what is not listed leaves the HID devices that are. -/
theorem hidDevices_gone (ranked : hub.Ranked) (stood : hub.Stood) :
    hidDevices ((gone hub offers).foldl Hub.unplug hub) =
      (hidDevices hub).filter (isListed offers) := by
  rw [hidDevices, hidDevices, ranked.live_unplugAll_eq stood, List.filter_filter,
    List.filter_filter]
  refine List.filter_congr fun entry live => ?_
  have goes := @mem_gone_iff hub offers stood entry live
  cases hid : entry.data.hidPath?.isSome <;> cases listed : isListed offers entry <;>
    simp_all

theorem isOpen_attach {device : Device} {pad : Hid.Pad} :
    isOpen (hub.attach device (.hid pad)).1 = fun path => path = pad.path || isOpen hub path := by
  funext path
  rw [Bool.eq_iff_iff, isOpen_iff, mem_openPaths_attach, ← isOpen_iff]
  simp only [Pad.hidPath?, Option.some.injEq, Bool.or_eq_true, decide_eq_true_eq]
  exact Or.comm.trans (or_congr_left eq_comm)

/-- The newcomers join behind the live devices. -/
theorem live_attachOffers :
    (offers.foldl (attachOffer standardGamepads) hub).registry.live =
      hub.registry.live ++ (newcomers standardGamepads (isOpen hub) offers).mapIdx
        fun index newcomer => newcomer.entry (hub.registry.nextId + index) := by
  induction offers generalizing hub with
  | nil => simp [newcomers]
  | cons offer rest ih =>
    rw [List.foldl_cons, ih, attachOffer_eq, newcomers]
    split
    · rfl
    · cases opened : offer.open? with
      | none => rfl
      | some pad =>
        simp only [Option.elim_some, isOpen_attach, Offer.path_open? opened, List.mapIdx_cons]
        simp [Hub.attach, Registry.insert, Newcomer.entry, Nat.add_assoc, Nat.add_comm 1]

theorem hidDevices_attachOffers :
    hidDevices (offers.foldl (attachOffer standardGamepads) hub) =
      hidDevices hub ++ (newcomers standardGamepads (isOpen hub) offers).mapIdx
        fun index newcomer => newcomer.entry (hub.registry.nextId + index) := by
  rw [hidDevices, live_attachOffers, List.filter_append, ← hidDevices]
  congr 1
  refine List.filter_eq_self.mpr fun entry member => ?_
  obtain ⟨index, _, rfl⟩ := List.mem_mapIdx.mp member
  rfl

theorem nextId_unplugAll (hub : Hub Pad) (ids : List DeviceId) :
    (ids.foldl Hub.unplug hub).registry.nextId = hub.registry.nextId := by
  induction ids generalizing hub with
  | nil => rfl
  | cons id rest ih => rw [List.foldl_cons, ih, hub.nextId_unplug]

theorem scanHid_reconciled (ranked : hub.Ranked) (stood : hub.Stood) :
    ∃ fresh, Reconciled standardGamepads hub (scanHid standardGamepads hub offers) offers fresh := by
  refine ⟨newcomers standardGamepads (isOpen ((gone hub offers).foldl Hub.unplug hub)) offers,
    ⟨?_, ?_, newcomers_sublist, fun _ => opened_of_mem_newcomers, newcomers_nodup, fun path => ?_⟩⟩
  · rw [scanHid, hidDevices_attachOffers, hidDevices_gone ranked stood, nextId_unplugAll]
  · exact fun entry member => stood.lt_nextId (List.mem_filter.mp member).1
  · -- letting go of what is not listed frees no path that is listed
    rw [newcomers_path_iff]
    have still (listed : ∃ offer ∈ offers, offer.info.path = path) :
        isOpen ((gone hub offers).foldl Hub.unplug hub) path = isOpen hub path := by
      rw [Bool.eq_iff_iff, isOpen_iff, isOpen_iff, mem_openPaths_gone stood]
      exact and_iff_left listed
    simp only [Offer.opens, Bool.and_eq_true]
    refine and_congr_left ?_
    rintro ⟨offer, listed, at_, -⟩
    rw [still ⟨offer, listed, at_⟩]

/-! ## Detections -/

/-- Standard gamepads come and go without a HID device being touched. -/
theorem hidDevices_scanSlot (ranked : hub.Ranked) (stood : hub.Stood) (connected : Nat → Bool)
    (slot : Nat) : hidDevices (scanSlot connected hub slot) = hidDevices hub := by
  rcases scanSlot_cases connected hub slot with same | attached | ⟨entry, there, slotted, dropped⟩
  · rw [same]
  · rw [attached]
    simp [hidDevices, Hub.attach, Registry.insert, Pad.hidPath?]
  · rw [dropped, hidDevices, ranked.live_unplug_eq stood, List.filter_filter, hidDevices]
    refine List.filter_congr fun other live => ?_
    by_cases same : other.id = entry.id
    · rw [stood.eq_of_id live there same, slotted]
      rfl
    · simp [same]

theorem hidDevices_scanSlots (ranked : hub.Ranked) (stood : hub.Stood) (connected : Nat → Bool) :
    hidDevices (scanSlots connected hub) = hidDevices hub := by
  have kept : (scanSlots connected hub).Ranked ∧ (scanSlots connected hub).Stood ∧
      hidDevices (scanSlots connected hub) = hidDevices hub := by
    refine List.foldlRecOn (List.range XInput.slotCount) (scanSlot connected)
      (motive := fun after => after.Ranked ∧ after.Stood ∧ hidDevices after = hidDevices hub)
      ⟨ranked, stood, rfl⟩ fun after ⟨ranked, stood, same⟩ slot _ => ?_
    have search : Search after (scanSlot connected after slot) := .scanSlot connected after slot
    exact ⟨search.ranked ranked stood, search.stood stood,
      (hidDevices_scanSlot ranked stood connected slot).trans same⟩
  exact kept.2.2

/-- The HID devices after a detection are those it compared with the listing. -/
theorem Settled.hidDevices_detect (settled : Settled backend) (sighting : Sighting) :
    hidDevices (backend.detect sighting).1.hub = hidDevices (backend.compared sighting) := by
  cases started : backend.session with
  | none => simp [detect, compared, listed?, enumerates, started]
  | some session =>
    have search : Search backend.hub (backend.compared sighting) := .compared backend sighting
    rw [hidDevices, settled.live_detect started, ← hidDevices, found_eq started]
    split
    · exact hidDevices_scanSlots (search.ranked settled.ranked settled.sound.stood)
        (search.stood settled.sound.stood) sighting.connected
    · rfl

/-- An enumeration that gets a listing reconciles the HID devices with it, and no other detection
touches them. -/
theorem Settled.reconciled (settled : Settled backend) (sighting : Sighting) :
    match backend.listed? sighting with
    | none => hidDevices (backend.detect sighting).1.hub = hidDevices backend.hub
    | some offers => ∃ fresh, Reconciled backend.standardGamepads backend.hub
        (backend.detect sighting).1.hub offers fresh := by
  have detected := settled.hidDevices_detect sighting
  unfold compared at detected
  cases listed : backend.listed? sighting with
  | none => rwa [listed] at detected
  | some offers =>
    rw [listed] at detected
    obtain ⟨fresh, reconciled⟩ := @scanHid_reconciled backend.hub offers backend.standardGamepads
      settled.ranked settled.sound.stood
    exact ⟨fresh, { reconciled with devices := detected.trans reconciled.devices }⟩

/-! ## Runs -/

/-- A live HID device was opened from an entry of a listing that some detection got. -/
def Listed (standardGamepads : Bool) (calls : List Call) (entry : Entry Pad) : Prop :=
  ∃ sighting offers offer, .detect sighting ∈ calls ∧ sighting.listing = some offers ∧
    offer ∈ offers ∧ offer.Opened standardGamepads entry

theorem Settled.listed {calls : List Call} {call : Call} {done : Outcome Backend}
    (settled : Settled backend) (member : call ∈ calls) (fits : call.Fits)
    (performed : backend.perform call = .ok done)
    (listed : ∀ entry ∈ hidDevices backend.hub, Listed backend.standardGamepads calls entry) :
    ∀ entry ∈ hidDevices done.backend.hub, Listed backend.standardGamepads calls entry := by
  intro entry live
  obtain ⟨live, shown⟩ := List.mem_filter.mp live
  cases settled.came fits performed live with
  | stays old => exact listed entry (List.mem_filter.mpr ⟨old, shown⟩)
  | joins detects _ joins =>
    cases joins with
    | hid listing among accepted opens id =>
      refine ⟨_, _, _, detects ▸ member, listing, among, accepted, by simp [opens], ?_, rfl, rfl, rfl⟩
      exact congrArg some (Offer.path_open? opens)
    | xinput => cases shown
  | @answers _ _ old poll _ _ was polled _ is_ =>
    subst is_
    have there : old ∈ hidDevices backend.hub :=
      List.mem_filter.mpr ⟨was, by rwa [← hidPath?_pollPad polled]⟩
    obtain ⟨sighting, offers, offer, detect, listing, among, opened⟩ := listed old there
    exact ⟨sighting, offers, offer, detect, listing, among, opened.answers polled⟩

/-- No two live HID devices are open at one path. -/
theorem Settled.nodup_openPaths (settled : Settled backend) : (openPaths backend.hub).Nodup := by
  have ids := settled.ranked
  rw [Hub.Ranked, List.pairwise_map] at ids
  rw [openPaths, Registry.kept, List.filterMap_map, List.Nodup, List.pairwise_filterMap]
  refine ids.imp_of_mem fun {first second} here there before path at_ other at_' same => ?_
  subst same
  rw [settled.orderly.apart first here second there path at_ at_'] at before
  exact Nat.lt_irrefl _ before

/-- Whatever the system answers, as long as it fits 32 bits: the live HID devices have different
paths, and each was accepted when it was opened, so that with standard gamepads on none of them is
one.  A detection that gets a listing reconciles them with it, and any other leaves them alone. -/
theorem listing_reconciled (standardGamepads : Bool) (maxReports : Nat) (calls : List Call)
    (fits : ∀ call ∈ calls, call.Fits) :
    ∃ done, (ofSettings standardGamepads maxReports).run calls = .ok done ∧
      (openPaths done.backend.hub).Nodup ∧
      (∀ entry ∈ hidDevices done.backend.hub, Listed standardGamepads calls entry ∧
        (standardGamepads = true → ∀ path ∈ entry.data.hidPath?,
          Hid.isStandard entry.device.vendor entry.device.product path = false)) ∧
      ∀ sighting, match done.backend.listed? sighting with
        | none => hidDevices (done.backend.detect sighting).1.hub = hidDevices done.backend.hub
        | some offers => ∃ fresh, Reconciled standardGamepads done.backend.hub
            (done.backend.detect sighting).1.hub offers fresh := by
  have new := Settled.new standardGamepads maxReports
  obtain ⟨done, ran, -⟩ := new.sound.run fits
  have settled := new.run fits ran
  have setting := standardGamepads_run ran
  have shown : done.backend.standardGamepads = standardGamepads ∧
      ∀ entry ∈ hidDevices done.backend.hub, Listed standardGamepads calls entry := by
    refine new.keeps (P := fun backend => backend.standardGamepads = standardGamepads ∧
      ∀ entry ∈ hidDevices backend.hub, Listed standardGamepads calls entry) ⟨rfl, nofun⟩ ?_ fits ran
    rintro backend call done member settled ⟨rfl, listed⟩ performed
    exact ⟨standardGamepads_perform performed,
      settled.listed member (fits call member) performed listed⟩
  refine ⟨done, ran, settled.nodup_openPaths, fun entry live => ?_, fun sighting => ?_⟩
  · have listed := shown.2 entry live
    refine ⟨listed, fun on path at_ => ?_⟩
    obtain ⟨sighting, offers, offer, -, -, -, opened⟩ := listed
    subst on
    exact opened.not_standard at_
  · have reconciled := settled.reconciled sighting
    rwa [setting] at reconciled

/-- A pad stays when another is listed before it, and twice. -/
theorem listing_reconciled_twice :
    let other : Offer := { plainPad with info := { plainPad.info with path := "other" } }
    let standard : Offer := { plainPad with info := { plainPad.info with path := "IG_00" } }
    let calls : List Call := [.start ⟨none, .plain, true⟩,
      .detect ⟨false, some [plainPad, standard], fun _ => false⟩]
    let sighting : Sighting := ⟨true, some [other, plainPad, other], fun _ => false⟩
    (∀ call ∈ calls, call.Fits) ∧
      ∃ done, (ofSettings true 8).run calls = .ok done ∧ openPaths done.backend.hub = ["pad"] ∧
        openPaths (done.backend.detect sighting).1.hub = ["pad", "other"] ∧
        ∃ fresh, Reconciled true done.backend.hub (done.backend.detect sighting).1.hub
          [other, plainPad, other] fresh := by
  intro other standard calls sighting
  have offers : ∀ offer ∈ [plainPad, standard], offer.Fits := by
    simp [Offer.Fits, Hid.Description.Fits, plainPad, standard]
  have fits : ∀ call ∈ calls, call.Fits := by
    simpa [calls, Call.Fits, Sighting.Fits] using offers
  obtain ⟨done, ran, -, -, reconciled⟩ := listing_reconciled true 8 calls fits
  have known : ((ofSettings true 8).run calls).map (fun done =>
      (openPaths done.backend.hub, openPaths (done.backend.detect sighting).1.hub,
        done.backend.enumerates sighting)) = .ok (["pad"], ["pad", "other"], true) := by
    decide +kernel
  rw [ran] at known
  simp only [Except.map, Except.ok.injEq, Prod.mk.injEq] at known
  obtain ⟨before, after, enumerates⟩ := known
  have listed : done.backend.listed? sighting = some [other, plainPad, other] := by
    rw [listed?, if_pos enumerates]
  have whole := reconciled sighting
  rw [listed] at whole
  exact ⟨fits, done, ran, before, after, whole⟩

end Backend

end Windows

end GamepadInput
