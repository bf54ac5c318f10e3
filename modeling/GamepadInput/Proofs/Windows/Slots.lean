import GamepadInput.Proofs.Windows.Listing

/-!
# Who sits in a slot

A detection asks once for every slot, and a processing samples the slot of every standard gamepad.
A device keeps its slot as long as both succeed (`sits_perform`), and the device that takes the slot
after it has a higher number and is heard to come after the other was heard to go (`Remains`).
-/

namespace GamepadInput.Windows

/-- A call lets the device in a slot stay. -/
def Call.keepsSlot (standard : Option SampleQuery) (slot : Nat) : Call → Bool
  | start _ => true
  | detect sighting => sighting.connected slot
  | process readings => (standard.bind fun query => readings.sample query slot).isSome
  | shutdown => false

namespace Backend

variable {backend : Backend} {session : Session} {call : Call} {calls : List Call}
  {done : Outcome Backend} {readings : Readings} {hub after : Hub Pad} {slot : Nat}
  {id other : DeviceId} {connected : Nat → Bool} {sighting : Sighting}

/-- A live device sits in a slot. -/
def Sits (hub : Hub Pad) (slot : Nat) (id : DeviceId) : Prop :=
  ∃ entry ∈ hub.registry.live, entry.id = id ∧ entry.data.slot? = some slot

/-- Nobody sits in a slot that is none, and no two in one. -/
structure Seated (hub : Hub Pad) : Prop where
  inRange : ∀ {slot id}, Sits hub slot id → slot < XInput.slotCount
  alone : ∀ {slot first second}, Sits hub slot first → Sits hub slot second → first = second

theorem Seated.of_nil (empty : hub.registry.live = []) : Seated hub := by
  have nobody {slot : Nat} {id : DeviceId} : ¬Sits hub slot id := by
    rintro ⟨entry, live, -⟩
    rw [empty] at live
    cases live
  exact ⟨fun sits => absurd sits nobody, fun sits => absurd sits nobody⟩

theorem sits_of_inSlot? (found : inSlot? hub slot = some id) : Sits hub slot id := by
  obtain ⟨entry, there, mine⟩ := Option.map_eq_some_iff.mp found
  exact ⟨entry, List.mem_of_find?_eq_some there, mine, by simpa using List.find?_some there⟩

theorem inSlot?_none_iff : inSlot? hub slot = none ↔ ∀ id, ¬Sits hub slot id := by
  simp only [inSlot?, Option.map_eq_none_iff, List.find?_eq_none, decide_eq_true_eq]
  exact ⟨fun empty id ⟨entry, live, _, at_⟩ => empty entry live at_,
    fun empty entry live at_ => empty entry.id ⟨entry, live, rfl, at_⟩⟩

theorem Seated.inSlot?_iff (seated : Seated hub) :
    inSlot? hub slot = some id ↔ Sits hub slot id := by
  refine ⟨sits_of_inSlot?, fun sits => ?_⟩
  cases found : inSlot? hub slot with
  | none => exact absurd sits (inSlot?_none_iff.mp found id)
  | some other => rw [seated.alone (sits_of_inSlot? found) sits]

/-- A device sits in one slot. -/
theorem Sits.slot_eq {entry : Entry Pad} (stood : hub.Stood) (sits : Sits hub slot id)
    (live : entry ∈ hub.registry.live) (mine : entry.id = id) : entry.data.slot? = some slot := by
  obtain ⟨there, live', mine', at_⟩ := sits
  rwa [stood.eq_of_id live live' (mine.trans mine'.symm)]

theorem sits_attach {device : Device} {pad : Pad} :
    Sits (hub.attach device pad).1 slot id ↔
      Sits hub slot id ∨ pad.slot? = some slot ∧ id = hub.registry.nextId := by
  simp only [Sits, hub.mem_live_attach]
  constructor
  · rintro ⟨entry, old | rfl, mine, at_⟩
    · exact .inl ⟨entry, old, mine, at_⟩
    · exact .inr ⟨at_, mine.symm⟩
  · rintro (⟨entry, old, mine, at_⟩ | ⟨at_, rfl⟩)
    · exact ⟨entry, .inl old, mine, at_⟩
    · exact ⟨_, .inr rfl, rfl, at_⟩

theorem sits_unplug (stood : hub.Stood) :
    Sits (hub.unplug other) slot id ↔ Sits hub slot id ∧ id ≠ other := by
  simp only [Sits, stood.mem_live_unplug]
  constructor
  · rintro ⟨entry, ⟨live, differ⟩, rfl, at_⟩
    exact ⟨⟨entry, live, rfl, at_⟩, differ⟩
  · rintro ⟨⟨entry, live, rfl, at_⟩, differ⟩
    exact ⟨entry, ⟨live, differ⟩, rfl, at_⟩

/-! ## Detections -/

/-- HID devices come and go without a slot changing hands. -/
theorem sits_scanHid (stood : hub.Stood) {standardGamepads : Bool} {offers : List Offer} :
    Sits (scanHid standardGamepads hub offers) slot id ↔ Sits hub slot id := by
  have dropped : Sits ((gone hub offers).foldl Hub.unplug hub) slot id ↔ Sits hub slot id := by
    simp only [Sits, stood.mem_live_unplugAll]
    refine exists_congr fun entry => ⟨fun ⟨⟨live, _⟩, at_⟩ => ⟨live, at_⟩, fun ⟨live, at_⟩ =>
      ⟨⟨live, fun gone => ?_⟩, at_⟩⟩
    have hid := ((mem_gone_iff stood live).mp gone).1
    cases pad : entry.data with
    | hid => simp [pad, Pad.slot?] at at_
    | xinput => simp [pad, Pad.hidPath?] at hid
  refine Iff.trans ?_ dropped
  refine List.foldlRecOn offers (attachOffer standardGamepads)
    (motive := fun after => Sits after slot id ↔ _) .rfl fun after same offer _ => ?_
  rw [attachOffer_eq, ← same]
  split
  · rfl
  · cases offer.open? with
    | none => rfl
    | some pad => simp [sits_attach, Pad.slot?]

theorem sits_scanSlot_other (stood : hub.Stood) {here : Nat} (differ : here ≠ slot) :
    Sits (scanSlot connected hub here) slot id ↔ Sits hub slot id := by
  unfold scanSlot
  split
  · simp [sits_attach, Pad.slot?, XInput.Pad.atRest, differ]
  · rename_i other _ found
    rw [sits_unplug stood]
    refine and_iff_left_of_imp fun sits same => ?_
    obtain ⟨entry, live, mine, at_⟩ := sits_of_inSlot? found
    have there := sits.slot_eq stood live (mine.trans same.symm)
    rw [at_, Option.some.injEq] at there
    exact differ there
  · rfl

/-- What looking at a slot makes of it. -/
theorem sits_scanSlot_self (stood : hub.Stood)
    (alone : ∀ {first second}, Sits hub slot first → Sits hub slot second → first = second) :
    Sits (scanSlot connected hub slot) slot id ↔ connected slot = true ∧
      (Sits hub slot id ∨ (∀ other, ¬Sits hub slot other) ∧ id = hub.registry.nextId) := by
  unfold scanSlot
  cases found : inSlot? hub slot with
  | none =>
    have empty := inSlot?_none_iff.mp found
    cases connected slot with
    | true => simp [sits_attach, Pad.slot?, XInput.Pad.atRest, empty]
    | false => simp [empty]
  | some other =>
    have sits := sits_of_inSlot? found
    cases connected slot with
    | true =>
      simp only [true_and]
      exact ⟨.inl, fun there => there.resolve_right fun empty => empty.1 other sits⟩
    | false =>
      simp only [sits_unplug stood, Bool.false_eq_true, false_and, iff_false, not_and, not_not]
      exact fun here => alone here sits

/-- The other slots do not matter to one. -/
theorem sits_scanSlots_other (stood : hub.Stood) {slots : List Nat} (elsewhere : slot ∉ slots) :
    (slots.foldl (scanSlot connected) hub).Stood ∧
      (slots.foldl (scanSlot connected) hub).registry.nextId ≥ hub.registry.nextId ∧
      ∀ id, Sits (slots.foldl (scanSlot connected) hub) slot id ↔ Sits hub slot id := by
  induction slots generalizing hub with
  | nil => exact ⟨stood, Nat.le_refl _, fun _ => .rfl⟩
  | cons here rest ih =>
    obtain ⟨differ, elsewhere⟩ := List.ne_and_not_mem_of_not_mem_cons elsewhere
    have search : Search hub (scanSlot connected hub here) := .scanSlot connected hub here
    obtain ⟨ends, counts, same⟩ := ih (search.stood stood) elsewhere
    exact ⟨ends, Nat.le_trans search.old_or_new.1 counts, fun id =>
      (same id).trans (sits_scanSlot_other stood (Ne.symm differ))⟩

/-- After every slot was looked at, a connected slot keeps its device or has a new one, and any other
has none. -/
theorem sits_scanSlots (stood : hub.Stood) (seated : Seated hub) (inRange : slot < XInput.slotCount) :
    ∃ new, hub.registry.nextId ≤ new ∧ ∀ id, Sits (scanSlots connected hub) slot id ↔
      connected slot = true ∧
        (Sits hub slot id ∨ (∀ other, ¬Sits hub slot other) ∧ id = new) := by
  obtain ⟨first, second, split⟩ := List.append_of_mem (List.mem_range.mpr inRange)
  have once : (first ++ slot :: second).Nodup := split ▸ List.nodup_range
  rw [List.nodup_append, List.nodup_cons] at once
  obtain ⟨-, ⟨later, -⟩, earlier⟩ := once
  have before : slot ∉ first := fun member => earlier slot member slot (List.mem_cons_self ..) rfl
  obtain ⟨stood', counts, same⟩ := @sits_scanSlots_other hub slot connected stood first before
  have alone {one two : DeviceId} (here : Sits (first.foldl (scanSlot connected) hub) slot one)
      (there : Sits (first.foldl (scanSlot connected) hub) slot two) : one = two :=
    seated.alone ((same one).mp here) ((same two).mp there)
  have search : Search (first.foldl (scanSlot connected) hub) _ := .scanSlot connected _ slot
  obtain ⟨-, -, same'⟩ := @sits_scanSlots_other _ slot connected (search.stood stood') second later
  refine ⟨(first.foldl (scanSlot connected) hub).registry.nextId, counts, fun id => ?_⟩
  rw [scanSlots, split, List.foldl_append, List.foldl_cons, same', sits_scanSlot_self stood' alone]
  simp only [same]

theorem sits_compared (stood : backend.hub.Stood) :
    Sits (backend.compared sighting) slot id ↔ Sits backend.hub slot id := by
  unfold compared
  cases backend.listed? sighting with
  | none => rfl
  | some offers => exact sits_scanHid stood

/-- What a detection makes of a slot. -/
theorem sits_detect (settled : Settled backend) (seated : Seated backend.hub)
    (started : backend.session = some session) (on : session.standard.isSome = true)
    (sighting : Sighting) (inRange : slot < XInput.slotCount) :
    ∃ new, ∀ id, Sits (backend.detect sighting).1.hub slot id ↔
      sighting.connected slot = true ∧
        (Sits backend.hub slot id ∨ (∀ other, ¬Sits backend.hub slot other) ∧ id = new) := by
  have stood := settled.sound.stood
  have same {slot : Nat} {id : DeviceId} :
      Sits (backend.compared sighting) slot id ↔ Sits backend.hub slot id := sits_compared stood
  have compared : Seated (backend.compared sighting) :=
    ⟨fun sits => seated.inRange (same.mp sits), fun one two => seated.alone (same.mp one) (same.mp two)⟩
  obtain ⟨new, -, after⟩ := @sits_scanSlots _ slot sighting.connected
    ((Search.compared backend sighting).stood stood) compared inRange
  refine ⟨new, fun id => ?_⟩
  have live := settled.live_detect started sighting
  rw [found_eq started, if_pos on] at live
  rw [Sits, live, ← Sits, after]
  simp only [same]

/-! ## Processing -/

/-- A gamepad stays in its slot. -/
theorem slot?_pollPad {limit : Nat} {standard : Option SampleQuery} {pad : Pad} {poll : Poll}
    (polled : pollPad limit standard readings pad = .ok poll) : poll.pad.slot? = pad.slot? := by
  cases pad with
  | hid pad =>
    obtain ⟨done, -, polled⟩ := exists_of_bind_ok polled
    cases polled
    rfl
  | xinput pad =>
    simp only [pollPad] at polled
    split at polled
    · cases polled
      rfl
    · obtain ⟨updated, update, polled⟩ := exists_of_bind_ok polled
      obtain ⟨values, -, update⟩ := exists_of_bind_ok update
      cases update
      cases polled
      rfl

/-- It fails just if its slot cannot be sampled. -/
theorem failed_pollPad {limit : Nat} {standard : Option SampleQuery} {pad : Pad} {poll : Poll}
    (polled : pollPad limit standard readings pad = .ok poll) (sits : pad.slot? = some slot) :
    poll.failed = !(Call.process readings).keepsSlot standard slot := by
  cases pad with
  | hid pad => cases sits
  | xinput pad =>
    cases sits
    simp only [pollPad] at polled
    split at polled
    · rename_i missing
      cases polled
      simp [Call.keepsSlot, missing]
    · rename_i sample given
      obtain ⟨updated, -, polled⟩ := exists_of_bind_ok polled
      cases polled
      simp [Call.keepsSlot, given]

theorem sits_process (settled : Settled backend) (started : backend.session = some session)
    (fits : readings.Fits) (performed : backend.perform (.process readings) = .ok done) :
    Sits done.backend.hub slot id ↔
      Sits backend.hub slot id ∧ (Call.process readings).keepsSlot session.standard slot = true := by
  simp only [Sits, settled.mem_live_process started fits performed]
  constructor
  · rintro ⟨_, ⟨old, live, poll, polled, answers, rfl⟩, rfl, at_⟩
    have there := (slot?_pollPad polled).symm.trans at_
    have kept := failed_pollPad polled there
    rw [answers, eq_comm, Bool.not_eq_false'] at kept
    exact ⟨⟨old, live, (old.device.id_replay poll.kinds).symm, there⟩, kept⟩
  · rintro ⟨⟨old, live, rfl, at_⟩, kept⟩
    obtain ⟨poll, polled, -⟩ := pollPad_ok backend.maxReports session.standard fits
      (settled.sound.bounded old.data (List.mem_map_of_mem live))
    have answers : poll.failed = false := by rw [failed_pollPad polled at_, kept]; rfl
    exact ⟨_, ⟨old, live, poll, polled, answers, rfl⟩,
      old.device.id_replay poll.kinds, (slot?_pollPad polled).trans at_⟩

/-! ## Calls -/

/-- The device in a slot stays just if the call lets it, and nobody takes its place meanwhile. -/
theorem sits_perform (settled : Settled backend) (seated : Seated backend.hub)
    (started : backend.session = some session) (on : session.standard.isSome = true)
    (fits : call.Fits) (performed : backend.perform call = .ok done)
    (sits : Sits backend.hub slot id) :
    Sits done.backend.hub slot other ↔
      call.keepsSlot session.standard slot = true ∧ other = id := by
  have mine : Sits backend.hub slot other ↔ other = id :=
    ⟨fun here => seated.alone here sits, fun same => same ▸ sits⟩
  cases call with
  | start startup =>
    simp only [perform, start_of_session started, Except.ok.injEq] at performed
    rw [← performed]
    simpa [Call.keepsSlot] using mine
  | shutdown =>
    cases performed
    simp [Sits, shutdown, Hub.clear, Registry.drain, Call.keepsSlot]
  | process readings =>
    rw [sits_process settled started fits performed, mine, and_comm]
  | detect sighting =>
    cases performed
    obtain ⟨new, after⟩ := sits_detect settled seated started on sighting (seated.inRange sits)
    rw [after, mine]
    refine and_congr_right fun _ => or_iff_left ?_
    exact fun empty => empty.1 id sits

theorem Seated.perform (settled : Settled backend) (seated : Seated backend.hub)
    (setting : backend.standardGamepads = true) (fits : call.Fits)
    (performed : backend.perform call = .ok done) : Seated done.backend.hub := by
  have inRange {slot : Nat} {id : DeviceId} (sits : Sits done.backend.hub slot id) :
      slot < XInput.slotCount := by
    obtain ⟨entry, live, rfl, at_⟩ := sits
    cases settled.came fits performed live with
    | stays old => exact seated.inRange ⟨entry, old, rfl, at_⟩
    | joins _ _ joins =>
      cases joins with
      | hid => cases at_
      | xinput inRange =>
        cases at_
        exact inRange
    | answers _ _ old polled _ is_ =>
      subst is_
      rw [slot?_pollPad polled] at at_
      exact seated.inRange ⟨_, old, rfl, at_⟩
  refine ⟨inRange, fun {slot first second} one two => ?_⟩
  cases call with
  | shutdown =>
    cases performed
    exact (Seated.of_nil rfl).alone one two
  | start startup =>
    rw [(hub_perform_start performed).1] at one two
    exact seated.alone one two
  | process readings =>
    cases started : backend.session with
    | none =>
      simp only [Backend.perform, process, started] at performed
      cases performed
      exact seated.alone one two
    | some session =>
      exact seated.alone ((sits_process settled started fits performed).mp one).1
        ((sits_process settled started fits performed).mp two).1
  | detect sighting =>
    cases performed
    cases started : backend.session with
    | none =>
      simp only [detect, started] at one two
      exact seated.alone one two
    | some session =>
      have on : session.standard.isSome = true := (settled.standard session started).trans setting
      obtain ⟨new, after⟩ := sits_detect settled seated started on sighting (inRange one)
      obtain ⟨-, sat | ⟨empty, rfl⟩⟩ := (after first).mp one <;>
        obtain ⟨-, sat' | ⟨empty', rfl⟩⟩ := (after second).mp two
      · exact seated.alone sat sat'
      · exact absurd sat (empty' first)
      · exact absurd sat' (empty second)
      · rfl

/-! ## Runs -/

/-- The devices that have been live since another time are in the slots they had then. -/
structure Remains (before : Hub Pad) (backend : Backend) : Prop where
  counts : before.registry.nextId ≤ backend.hub.registry.nextId
  older : ∀ entry ∈ backend.hub.registry.live, entry.id < before.registry.nextId →
    ∃ old ∈ before.registry.live, old.id = entry.id ∧ old.data.slot? = entry.data.slot?

theorem Settled.counts (settled : Settled backend) (fits : call.Fits)
    (performed : backend.perform call = .ok done) :
    backend.hub.registry.nextId ≤ done.backend.hub.registry.nextId := by
  by_cases stops : call = .shutdown
  · subst stops
    cases performed
    exact Nat.le_refl _
  · obtain ⟨again, same, -, carries⟩ := settled.sound.perform fits stops
    cases performed.symm.trans same
    exact carries.nextId_le settled.sound.told

theorem Remains.perform {before : Hub Pad} (remains : Remains before backend)
    (settled : Settled backend) (fits : call.Fits) (performed : backend.perform call = .ok done) :
    Remains before done.backend := by
  refine ⟨Nat.le_trans remains.counts (settled.counts fits performed), fun entry live early => ?_⟩
  cases settled.came fits performed live with
  | stays was => exact remains.older entry was early
  | joins _ fresh => exact absurd early (Nat.not_lt_of_le (Nat.le_trans remains.counts fresh))
  | @answers _ _ last poll _ _ was polled _ is_ =>
    subst is_
    have mine : (last.device.replay poll.kinds).id = last.id := last.device.id_replay poll.kinds
    obtain ⟨old, there, same, slot⟩ := remains.older last was (mine ▸ early)
    exact ⟨old, there, same.trans mine.symm, slot.trans (slot?_pollPad polled).symm⟩

theorem Settled.remains (settled : Settled backend) (fits : ∀ call ∈ calls, call.Fits)
    (ran : backend.run calls = .ok done) : Remains backend.hub done.backend :=
  settled.keeps ⟨Nat.le_refl _, fun entry live _ => ⟨entry, live, rfl, rfl⟩⟩
    (fun member settled remains performed => remains.perform settled (fits _ member) performed) fits ran

theorem Sits.mem_devices (sits : Sits hub slot id) : id ∈ hub.registry.devices.map (·.id) := by
  obtain ⟨entry, live, rfl, -⟩ := sits
  exact List.mem_map_of_mem (List.mem_map_of_mem live)

/-- Who sits in a slot after a run and had come before it sat there before. -/
theorem Remains.sits {before : Hub Pad} (remains : Remains before backend)
    (early : id < before.registry.nextId) (sits : Sits backend.hub slot id) :
    Sits before slot id := by
  obtain ⟨entry, live, rfl, at_⟩ := sits
  obtain ⟨old, there, mine, same⟩ := remains.older entry live early
  exact ⟨old, there, mine, same.trans at_⟩

/-- Who sat in a slot before a run and is live after it sits there still. -/
theorem Remains.sits_of_live {before : Hub Pad} (remains : Remains before backend)
    (stood : before.Stood) (sits : Sits before slot id)
    (live : id ∈ backend.hub.registry.devices.map (·.id)) : Sits backend.hub slot id := by
  obtain ⟨record, member, rfl⟩ := List.mem_map.mp live
  obtain ⟨entry, there, rfl⟩ := List.mem_map.mp member
  have early : entry.id < before.registry.nextId := by
    obtain ⟨old, was, mine, -⟩ := sits
    exact Nat.lt_of_le_of_lt (Nat.le_of_eq mine.symm) (stood.lt_nextId was)
  obtain ⟨old, was, same, slot⟩ := remains.older entry there early
  exact ⟨entry, there, rfl, slot.symm.trans (sits.slot_eq stood was same)⟩

/-- Without a shutdown, a device that is not gone is live after a run just if it was heard to come
and not to go. -/
theorem Sound.live_iff_told (sound : Sound backend.hub) (fits : ∀ call ∈ calls, call.Fits)
    (lasts : .shutdown ∉ calls) (ran : backend.run calls = .ok done) {standing : Standing Pad}
    {heard : List EventKind} (stands : backend.hub.Stands id standing)
    (story : Story standing heard) (alive : standing ≠ .gone) :
    id ∈ done.backend.hub.registry.devices.map (·.id) ↔
      .attached ∈ heard ++ (heardOf done.notices id).map (·.kind) ∧
        .removed ∉ heard ++ (heardOf done.notices id).map (·.kind) := by
  obtain ⟨again, same, ends, carries⟩ := sound.lasting fits lasts
  cases ran.symm.trans same
  obtain ⟨next, turns, arrives⟩ := carries id standing heard stands story
  rw [arrives.mem_live_iff]
  exact (story.turns turns).live_iff (arrives.isDrained ends.idle)
    fun goes => story.quits turns goes alive

/-- A live device that is live no more was heard to go. -/
theorem Sound.heard_to_go (sound : Sound backend.hub) (fits : ∀ call ∈ calls, call.Fits)
    (lasts : .shutdown ∉ calls) (ran : backend.run calls = .ok done)
    (live : id ∈ backend.hub.registry.devices.map (·.id))
    (left : id ∉ done.backend.hub.registry.devices.map (·.id)) :
    .removed ∈ (heardOf done.notices id).map (·.kind) := by
  obtain ⟨record, member, rfl⟩ := List.mem_map.mp live
  obtain ⟨entry, there, rfl⟩ := List.mem_map.mp member
  obtain ⟨stands, story⟩ := sound.stands_of_live there
  have silent := (sound.live_iff_told fits lasts ran stands story (by simp)).not.mp left
  simpa [Entry.id] using silent

/-- A live device that had not come was heard to come. -/
theorem Sound.heard_to_come (sound : Sound backend.hub) (fits : ∀ call ∈ calls, call.Fits)
    (lasts : .shutdown ∉ calls) (ran : backend.run calls = .ok done)
    (fresh : backend.hub.registry.nextId ≤ id)
    (live : id ∈ done.backend.hub.registry.devices.map (·.id)) :
    .attached ∈ (heardOf done.notices id).map (·.kind) := by
  obtain ⟨standing, -, stands, -⟩ := sound.told id
  have absent := stands.absent_iff.mpr fresh
  cases standing with
  | present | unplugged | gone => cases absent
  | absent => exact ((sound.live_iff_told fits lasts ran stands .absent (by simp)).mp live).1

/-- How standard gamepads hold the slots, and what calls from here on do to that. -/
structure SlotsHeld (backend : Backend) : Prop where
  single : (backend.hub.registry.kept.filterMap Pad.slot?).Nodup
  /-- A detection asks which slots are connected, and those have a device after it. -/
  detected : backend.session.isSome = true → ∀ sighting, ∀ slot < XInput.slotCount,
    (inSlot? (backend.detect sighting).1.hub slot).isSome = sighting.connected slot
  /-- A device leaves its slot in a detection that does not find it connected, in a processing that
  cannot sample it, or in a shutdown. -/
  stays_iff : ∀ session call done slot id, backend.session = some session → call.Fits →
    backend.perform call = .ok done → inSlot? backend.hub slot = some id →
    (inSlot? done.backend.hub slot = some id ↔ call.keepsSlot session.standard slot = true)
  stays : ∀ session calls done slot id, backend.session = some session →
    (∀ call ∈ calls, call.Fits) → (∀ call ∈ calls, call.keepsSlot session.standard slot = true) →
    backend.run calls = .ok done → inSlot? backend.hub slot = some id →
    inSlot? done.backend.hub slot = some id
  /-- The next device in a slot is another one: it is heard to come after the last was heard to go. -/
  regained : ∀ lost regained gone back slot last next,
    (∀ call ∈ lost, call.Fits) → (∀ call ∈ regained, call.Fits) →
    inSlot? backend.hub slot = some last →
    backend.run lost = .ok gone → inSlot? gone.backend.hub slot = none →
    gone.backend.run regained = .ok back → inSlot? back.backend.hub slot = some next →
    last < next ∧
      (.shutdown ∉ lost → .removed ∈ (heardOf gone.notices last).map (·.kind)) ∧
      (.shutdown ∉ regained → .attached ∈ (heardOf back.notices next).map (·.kind))

/-- What a run with standard gamepads on keeps. -/
structure Manned (backend : Backend) : Prop extends Settled backend where
  seated : Seated backend.hub
  setting : backend.standardGamepads = true

namespace Manned

theorem new (maxReports : Nat) : Manned (ofSettings true maxReports) where
  toSettled := .new true maxReports
  seated := .of_nil rfl
  setting := rfl

theorem of_perform (manned : Manned backend) (fits : call.Fits)
    (performed : backend.perform call = .ok done) : Manned done.backend where
  toSettled := manned.toSettled.of_perform fits performed
  seated := manned.seated.perform manned.toSettled manned.setting fits performed
  setting := (standardGamepads_perform performed).trans manned.setting

theorem run (manned : Manned backend) (fits : ∀ call ∈ calls, call.Fits)
    (ran : backend.run calls = .ok done) : Manned done.backend :=
  manned.toSettled.keeps manned (fun member _ manned performed =>
    manned.of_perform (fits _ member) performed) fits ran

theorem on (manned : Manned backend) (started : backend.session = some session) :
    session.standard.isSome = true :=
  (manned.standard session started).trans manned.setting

theorem nodup_slots (manned : Manned backend) :
    (backend.hub.registry.kept.filterMap Pad.slot?).Nodup := by
  have ids := manned.ranked
  rw [Hub.Ranked, List.pairwise_map] at ids
  rw [Registry.kept, List.filterMap_map, List.Nodup, List.pairwise_filterMap]
  refine ids.imp_of_mem fun {first second} here there before slot at_ other at_' same => ?_
  subst same
  have alone := manned.seated.alone ⟨first, here, rfl, at_⟩ ⟨second, there, rfl, at_'⟩
  exact Nat.ne_of_lt before alone

theorem isSome_inSlot?_detect (manned : Manned backend) (started : backend.session = some session)
    (sighting : Sighting) (inRange : slot < XInput.slotCount) :
    (inSlot? (backend.detect sighting).1.hub slot).isSome = sighting.connected slot := by
  obtain ⟨new, after⟩ :=
    sits_detect manned.toSettled manned.seated started (manned.on started) sighting inRange
  rw [Bool.eq_iff_iff, ← not_iff_not, Bool.not_eq_true, Option.isSome_eq_false_iff,
    Option.isNone_iff_eq_none, inSlot?_none_iff]
  simp only [after, not_and, not_or]
  refine ⟨fun empty connected => ?_, fun missing id connected => absurd connected missing⟩
  exact (empty new connected).2 (fun id => (empty id connected).1) rfl

theorem inSlot?_perform_iff (manned : Manned backend) (started : backend.session = some session)
    (fits : call.Fits) (performed : backend.perform call = .ok done)
    (sits : inSlot? backend.hub slot = some id) :
    inSlot? done.backend.hub slot = some id ↔ call.keepsSlot session.standard slot = true := by
  rw [(manned.of_perform fits performed).seated.inSlot?_iff,
    sits_perform manned.toSettled manned.seated started (manned.on started) fits performed
      (sits_of_inSlot? sits)]
  simp

theorem inSlot?_run (manned : Manned backend) (started : backend.session = some session)
    (fits : ∀ call ∈ calls, call.Fits)
    (keep : ∀ call ∈ calls, call.keepsSlot session.standard slot = true)
    (ran : backend.run calls = .ok done) (sits : inSlot? backend.hub slot = some id) :
    inSlot? done.backend.hub slot = some id := by
  induction calls generalizing backend session done with
  | nil =>
    cases ran
    exact sits
  | cons call rest ih =>
    rw [List.forall_mem_cons] at fits keep
    obtain ⟨first, others, performed, onward, same⟩ := of_runAll_cons ran
    have goes : call ≠ .shutdown := by
      rintro rfl
      cases keep.1
    have still := (manned.inSlot?_perform_iff started fits.1 performed sits).mpr keep.1
    rw [same]
    exact ih (manned.of_perform fits.1 performed) (session_perform started goes performed) fits.2
      keep.2 onward still

theorem regained (manned : Manned backend) {lost regained : List Call} {gone back : Outcome Backend}
    {last next : DeviceId} (fits : ∀ call ∈ lost, call.Fits) (fits' : ∀ call ∈ regained, call.Fits)
    (sits : Sits backend.hub slot last) (loses : backend.run lost = .ok gone)
    (empty : ∀ id, ¬Sits gone.backend.hub slot id) (regains : gone.backend.run regained = .ok back)
    (sits' : Sits back.backend.hub slot next) :
    last < next ∧
      (.shutdown ∉ lost → .removed ∈ (heardOf gone.notices last).map (·.kind)) ∧
      (.shutdown ∉ regained → .attached ∈ (heardOf back.notices next).map (·.kind)) := by
  have between := manned.run fits loses
  have remains := manned.toSettled.remains fits loses
  have remains' := between.toSettled.remains fits' regains
  have stood := manned.sound.stood
  have left : last ∉ gone.backend.hub.registry.devices.map (·.id) :=
    fun live => empty last (remains.sits_of_live stood sits live)
  have fresh : gone.backend.hub.registry.nextId ≤ next := by
    by_contra early
    exact empty next (remains'.sits (Nat.lt_of_not_le early) sits')
  have early : last < backend.hub.registry.nextId := by
    obtain ⟨entry, live, rfl, -⟩ := sits
    exact stood.lt_nextId live
  exact ⟨Nat.lt_of_lt_of_le early (Nat.le_trans remains.counts fresh),
    fun lasts => manned.sound.heard_to_go fits lasts loses sits.mem_devices left,
    fun lasts => between.sound.heard_to_come fits' lasts regains fresh sits'.mem_devices⟩

theorem slotsHeld (manned : Manned backend) : SlotsHeld backend where
  single := manned.nodup_slots
  detected started sighting slot inRange := by
    obtain ⟨session, started⟩ := Option.isSome_iff_exists.mp started
    exact manned.isSome_inSlot?_detect started sighting inRange
  stays_iff _ _ _ _ _ started fits performed sits :=
    manned.inSlot?_perform_iff started fits performed sits
  stays _ _ _ _ _ started fits keep ran sits := manned.inSlot?_run started fits keep ran sits
  regained _ _ _ _ _ _ _ fits fits' sits loses empty regains sits' :=
    manned.regained fits fits' (sits_of_inSlot? sits) loses (inSlot?_none_iff.mp empty) regains
      (sits_of_inSlot? sits')

end Manned

/-- With standard gamepads on, and whatever the system answers, as long as it fits 32 bits. -/
theorem slots_held (maxReports : Nat) (calls : List Call) (fits : ∀ call ∈ calls, call.Fits) :
    ∃ done, (ofSettings true maxReports).run calls = .ok done ∧ SlotsHeld done.backend := by
  have new := Manned.new maxReports
  obtain ⟨done, ran, -⟩ := new.sound.run fits
  exact ⟨done, ran, (new.run fits ran).slotsHeld⟩

/-- A gamepad that cannot be sampled once comes back under the next number. -/
theorem slots_held_regained :
    let found : Sighting := ⟨false, none, fun slot => slot = 2⟩
    let missing : Readings := ⟨fun _ => ⟨[], ⟨fun _ _ _ => none, fun _ _ _ _ => none⟩⟩, fun _ _ => none⟩
    let calls : List Call := [.start ⟨none, .plain, true⟩, .detect found]
    (∀ call ∈ calls, call.Fits) ∧
      ∃ done gone back, (ofSettings true 8).run calls = .ok done ∧ SlotsHeld done.backend ∧
        inSlot? done.backend.hub 2 = some 0 ∧
        done.backend.run [.process missing] = .ok gone ∧ inSlot? gone.backend.hub 2 = none ∧
        .removed ∈ (heardOf gone.notices 0).map (·.kind) ∧
        gone.backend.run [.detect found] = .ok back ∧ inSlot? back.backend.hub 2 = some 1 ∧
        .attached ∈ (heardOf back.notices 1).map (·.kind) := by
  intro found missing calls
  have fits : ∀ call ∈ calls, call.Fits := by
    simp [calls, Call.Fits, Sighting.Fits, found]
  have lost : ∀ call ∈ [Call.process missing], call.Fits := by
    have read : missing.Fits := ⟨fun _ => by simp [Hid.Queries.Fits, missing], by simp [missing]⟩
    simpa [Call.Fits] using read
  have regained : ∀ call ∈ [Call.detect found], call.Fits := by
    simp [Call.Fits, Sighting.Fits, found]
  have known : (do
      let done ← (ofSettings true 8).run calls
      let gone ← done.backend.run [.process missing]
      let back ← gone.backend.run [.detect found]
      pure (inSlot? done.backend.hub 2, inSlot? gone.backend.hub 2, inSlot? back.backend.hub 2)) =
        .ok (some 0, none, some 1) := by
    decide +kernel
  obtain ⟨done, ran, known⟩ := exists_of_bind_ok known
  obtain ⟨gone, loses, known⟩ := exists_of_bind_ok known
  obtain ⟨back, regains, known⟩ := exists_of_bind_ok known
  simp only [pure, Except.pure, Except.ok.injEq, Prod.mk.injEq] at known
  obtain ⟨first, empty, second⟩ := known
  obtain ⟨again, same, held⟩ := slots_held 8 calls fits
  cases ran.symm.trans same
  obtain ⟨-, goes, comes⟩ := held.regained _ _ _ _ 2 0 1 lost regained first loses empty regains second
  exact ⟨fits, done, gone, back, ran, held, first, loses, empty, goes (by simp), regains, second,
    comes (by simp)⟩

end Backend

end GamepadInput.Windows
