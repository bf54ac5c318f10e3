import GamepadInput.Proofs.IoKit.Run

/-!
# What is heard of the devices of a manager

Callbacks come in any order and number.  No two live devices are one native device, the life of
every device is in order, a device that is fed before it was announced is announced ahead of its
input, and a removal takes the waiting input of its device with it (`hears_callbacks`).
-/

namespace GamepadInput.IoKit.Backend

/-- A moment of a run, between two callbacks of one of its calls. -/
structure Moment (calls : List Call) where
  before : List Call
  call : Call
  later : List Call
  split : calls = before ++ call :: later
  /-- What the calls before did. -/
  there : Outcome Backend
  ran : closed.run before = .ok there
  /-- Callbacks of this call that came in already. -/
  past : List Callback
  coming : List Callback
  handled : call.handled there.backend = past ++ coming
  hub : Hub Pad
  received : receiveAll there.backend.hub past = .ok hub

/-- What listeners hear in a run from a closed backend on. -/
structure Hears (calls : List Call) (whole : Outcome Backend) : Prop where
  lifecycle : ∀ id, Lifecycle ((heardOf whole.notices id).map (·.kind))
  refs_nodup : (whole.backend.hub.registry.kept.map (·.ref)).Nodup
  /-- Within pumps too. -/
  refs_nodup_within : ∀ moment : Moment calls, (moment.hub.registry.kept.map (·.ref)).Nodup
  /-- A device that was matched during the call is news. -/
  unheard_of_matched : ∀ (moment : Moment calls) (entry : Entry Pad),
    entry ∈ moment.hub.registry.live →
    moment.there.backend.hub.registry.get? entry.id = none →
    heardOf moment.there.notices entry.id = []
  /-- What a sample changes is heard when the processing that pumped it is over, and if the device
  is news, its attach ahead. -/
  announced : ∀ (moment : Moment calls) (passes : List (List Callback)) (sample : Sample)
    (others : List Callback) (entry : Entry Pad) (pad : Pad) (kinds : List EventKind),
    moment.call = .process passes → moment.coming = .value (some sample) :: others →
    attached? moment.hub sample.device = some entry → entry.data.update sample = .ok (pad, kinds) →
    kinds ≠ [] → .removed sample.device ∉ others →
    heardOf moment.there.notices entry.id = [] →
    ∃ done inputs, moment.there.backend.perform moment.call = .ok done ∧
      (heardOf done.notices entry.id).map (·.kind) = .attached :: inputs ∧ kinds <:+: inputs ∧
      ∀ kind ∈ inputs, kind.isInput = true
  /-- After its removal came in, no input of a device is heard, and of a device that was not
  announced nothing. -/
  removed : ∀ (moment : Moment calls) (ref : DeviceRef) (others : List Callback)
    (entry : Entry Pad),
    moment.coming = .removed ref :: others → attached? moment.hub ref = some entry →
    ∃ more : List Notice,
      heardOf whole.notices entry.id = heardOf moment.there.notices entry.id ++ more ∧
      (∀ notice ∈ more, notice.kind.isInput = false) ∧
      (heardOf moment.there.notices entry.id = [] → more = [])

theorem sound_closed : Sound closed.hub := .empty

/-- Where devices stand after calls. -/
theorem story_run {calls : List Call} {there : Outcome Backend} (fits : ∀ call ∈ calls, call.Fits)
    (ran : closed.run calls = .ok there) :
    Sound there.backend.hub ∧ ∀ id, ∃ standing, there.backend.hub.Stands id standing ∧
      Story standing ((heardOf there.notices id).map (·.kind)) := by
  obtain ⟨done, same, sound, path⟩ := sound_closed.run fits
  rw [ran, Except.ok.injEq] at same
  subst same
  exact ⟨sound, fun id => path.story (Hub.Stands.empty id) .absent⟩

namespace Moment

variable {calls : List Call} (moment : Moment calls)

theorem fits_before (fits : ∀ call ∈ calls, call.Fits) : ∀ call ∈ moment.before, call.Fits :=
  fun call member => fits call (by simp [moment.split, member])

theorem fits_later (fits : ∀ call ∈ calls, call.Fits) : ∀ call ∈ moment.later, call.Fits :=
  fun call member => fits call (by simp [moment.split, member])

theorem fits_handled (fits : ∀ call ∈ calls, call.Fits) :
    ∀ callback ∈ moment.past ++ moment.coming, callback.Fits := by
  have fit : moment.call.Fits := fits _ (by simp [moment.split])
  rw [← moment.handled]
  exact fit.handled moment.there.backend

theorem sound (fits : ∀ call ∈ calls, call.Fits) : Sound moment.hub := by
  obtain ⟨sound, -⟩ := story_run (moment.fits_before fits) moment.ran
  obtain ⟨hub, received, kept⟩ := sound.receiveAll fun callback member =>
    moment.fits_handled fits callback (List.mem_append_left _ member)
  rw [moment.received, Except.ok.injEq] at received
  exact received ▸ kept

/-- Nothing was heard within the call so far. -/
theorem story (fits : ∀ call ∈ calls, call.Fits) (id : DeviceId) :
    ∃ standing, moment.hub.Stands id standing ∧
      Story standing ((heardOf moment.there.notices id).map (·.kind)) := by
  obtain ⟨-, stories⟩ := story_run (moment.fits_before fits) moment.ran
  obtain ⟨standing, stands, story⟩ := stories id
  obtain ⟨next, turns, arrives⟩ :=
    carries_receiveAll moment.received id standing _ stands story
  exact ⟨next, arrives, by simpa using story.turns turns⟩

/-- How the call ends, and the run. -/
theorem onward (fits : ∀ call ∈ calls, call.Fits) {whole : Outcome Backend}
    (ran : closed.run calls = .ok whole) :
    ∃ pumped done more, receiveAll moment.hub moment.coming = .ok pumped ∧
      moment.there.backend.perform moment.call = .ok done ∧
      done.notices = (moment.call.finish pumped).2 ∧
      whole.notices = moment.there.notices ++ more ∧
      Hub.Path pumped more whole.backend.hub := by
  obtain ⟨pumped, received, sound⟩ := (moment.sound fits).receiveAll fun callback member =>
    moment.fits_handled fits callback (List.mem_append_right _ member)
  have handled : receiveAll moment.there.backend.hub
      (moment.call.handled moment.there.backend) = .ok pumped := by
    rw [moment.handled, receiveAll, List.foldlM_append]
    change receiveAll moment.there.backend.hub moment.past >>= _ = _
    rw [moment.received]
    exact received
  obtain ⟨after, performed, hub⟩ := perform_pumped handled
  have arrives : Sound after.hub := hub ▸ sound.finish moment.call
  obtain ⟨last, rest, -, path⟩ := arrives.run (moment.fits_later fits)
  have all := runAll_append moment.ran (runAll_cons performed rest)
  rw [← moment.split] at all
  cases ran.symm.trans all
  have finished := path_finish pumped moment.call
  rw [← hub] at finished
  exact ⟨pumped, _, _, received, performed, rfl, rfl, finished.append path⟩

theorem unheard_of_matched (fits : ∀ call ∈ calls, call.Fits) {entry : Entry Pad}
    (live : entry ∈ moment.hub.registry.live)
    (matched : moment.there.backend.hub.registry.get? entry.id = none) :
    heardOf moment.there.notices entry.id = [] := by
  obtain ⟨-, stories⟩ := story_run (moment.fits_before fits) moment.ran
  obtain ⟨standing, stands, story⟩ := stories entry.id
  obtain ⟨next, turns, arrives⟩ :=
    carries_receiveAll moment.received entry.id standing _ stands story
  have here := arrives.live?_eq live rfl
  rw [stands.get?_eq] at matched
  cases standing with
  | present => cases matched
  | unplugged old =>
    obtain ⟨rfl | rfl, -⟩ := turns.of_unplugged
    · cases here
    · cases here
  | gone =>
    obtain ⟨rfl, -⟩ := turns.of_gone
    cases here
  | absent =>
    generalize told : (heardOf moment.there.notices entry.id).map (·.kind) = heard at story
    cases story
    simpa using told

theorem announced (fits : ∀ call ∈ calls, call.Fits) {passes : List (List Callback)}
    {sample : Sample} {others : List Callback} {entry : Entry Pad} {pad : Pad}
    {kinds : List EventKind} (processes : moment.call = .process passes)
    (comes : moment.coming = .value (some sample) :: others)
    (found : attached? moment.hub sample.device = some entry)
    (updated : entry.data.update sample = .ok (pad, kinds)) (changes : kinds ≠ [])
    (stays : .removed sample.device ∉ others)
    (unheard : heardOf moment.there.notices entry.id = []) :
    ∃ done inputs, moment.there.backend.perform moment.call = .ok done ∧
      (heardOf done.notices entry.id).map (·.kind) = .attached :: inputs ∧ kinds <:+: inputs ∧
      ∀ kind ∈ inputs, kind.isInput = true := by
  obtain ⟨whole, ran, -⟩ := sound_closed.run fits
  obtain ⟨pumped, done, -, received, performed, said, -⟩ := moment.onward fits ran
  obtain ⟨live, mine, -⟩ := live_of_attached? found
  obtain ⟨standing, stands, story⟩ := moment.story fits entry.id
  have pumpedCarries : moment.hub.Carries [] pumped := carries_receiveAll received
  obtain ⟨next, turns, arrives⟩ := pumpedCarries entry.id standing _ stands story
  have tale := story.turns turns
  have here := stands.live?_eq live rfl
  cases standing with
  | absent | unplugged | gone => cases here
  | present same announced waiting =>
    cases here
    cases story.unannounced (by simp [unheard])
    rw [comes, receiveAll_cons] at received
    obtain ⟨fed, first, rest⟩ := exists_of_bind_ok received
    cases first.symm.trans (onSample_eq found updated)
    have took := stands.report_self kinds pad
    have same : pad.ref = sample.device := (Pad.update_keeps updated).1.trans mine
    -- the rest of the pump leaves it attached, so what was queued stays
    obtain ⟨data, more, ends⟩ := stands_receiveAll took (by simpa [same] using stays) rest
    cases arrives.unique ends
    obtain ⟨-, heard⟩ := arrives.dispatchAnnounced tale.orderly
    refine ⟨done, waiting ++ kinds ++ more, performed, ?_, ⟨waiting, more, rfl⟩, tale.queued_isInput⟩
    rw [said, processes, Call.finish, heard]
    simp [Standing.delivery, Standing.heralds, changes]

theorem removed (fits : ∀ call ∈ calls, call.Fits) {whole : Outcome Backend}
    (ran : closed.run calls = .ok whole) {ref : DeviceRef} {others : List Callback}
    {entry : Entry Pad} (comes : moment.coming = .removed ref :: others)
    (found : attached? moment.hub ref = some entry) :
    ∃ more : List Notice,
      heardOf whole.notices entry.id = heardOf moment.there.notices entry.id ++ more ∧
      (∀ notice ∈ more, notice.kind.isInput = false) ∧
      (heardOf moment.there.notices entry.id = [] → more = []) := by
  obtain ⟨pumped, -, more, received, -, -, all, path⟩ := moment.onward fits ran
  obtain ⟨live, -⟩ := live_of_attached? found
  obtain ⟨standing, stands, story⟩ := moment.story fits entry.id
  have here := stands.live?_eq live rfl
  refine ⟨heardOf more entry.id, by rw [all, heardOf_append], ?_⟩
  rw [comes, receiveAll_cons] at received
  obtain ⟨without, first, rest⟩ := exists_of_bind_ok received
  -- whatever happens later starts from a hub where the device is unplugged already
  have onward : Hub.Path without more whole.backend.hub :=
    (Hub.Path.single (carries_receiveAll rest)).append path
  cases standing with
  | absent | unplugged | gone => cases here
  | present same announced waiting =>
    cases here
    obtain ⟨after, unplugged, -, leaves⟩ := stands.unplug?_present
    have gone : without = after := by
      simp only [receive, onRemoved, found, Option.elim_some, Hub.unplug, unplugged,
        Option.getD_some, Except.ok.injEq] at first
      exact first.symm
    subst gone
    cases announced with
    | false =>
      have silent := onward.of_gone leaves
      exact ⟨by simp [silent], fun _ => silent⟩
    | true =>
      constructor
      · intro notice member
        exact onward.of_unplugged leaves _ (List.mem_map_of_mem member)
      · intro unheard
        rw [unheard] at story
        cases story

end Moment

/-- Whatever callbacks come in, as long as they fit 32 bits. -/
theorem hears_callbacks (calls : List Call) (fits : ∀ call ∈ calls, call.Fits) :
    ∃ whole, closed.run calls = .ok whole ∧ Hears calls whole := by
  obtain ⟨whole, ran, -⟩ := sound_closed.run fits
  obtain ⟨sound, stories⟩ := story_run fits ran
  refine ⟨whole, ran, ?_⟩
  constructor
  · intro id
    obtain ⟨standing, -, story⟩ := stories id
    exact story.lifecycle
  · exact sound.refs_nodup
  · exact fun moment => (moment.sound fits).refs_nodup
  · exact fun moment entry => moment.unheard_of_matched fits
  · exact fun moment passes sample others entry pad kinds => moment.announced fits
  · exact fun moment ref others entry => moment.removed fits ran

/-- A pad that is matched and pressed in one pump, and let go and pulled out in the next: its attach
and the press are heard at once, the removal by the next detection, and the release never. -/
theorem hears_callbacks_pulled :
    let pad : Description := ⟨none, none, none, none, none, some 1, some 5, [⟨2, 1, 9, 0, 1⟩]⟩
    let first : List Call := [.start (some []),
      .process [[.matched 1 pad], [.value (some ⟨1, 9, 1, 1⟩)]]]
    let calls : List Call :=
      first ++ [.process [[.value (some ⟨1, 9, 1, 0⟩)], [.removed 1]], .detect []]
    (∀ call ∈ calls, call.Fits) ∧
      (closed.run first).map (fun there => there.notices.map (·.kind)) =
        .ok [.attached, .button 0 true] ∧
      ∃ whole, closed.run calls = .ok whole ∧ Hears calls whole ∧
        whole.notices.map (·.kind) = [.attached, .button 0 true, .removed] := by
  intro pad first calls
  have fits : ∀ call ∈ calls, call.Fits := by decide
  obtain ⟨whole, ran, hears⟩ := hears_callbacks calls fits
  have heard : (closed.run calls).map (fun whole => whole.notices.map (·.kind)) =
      .ok [.attached, .button 0 true, .removed] := by
    decide +kernel
  rw [ran] at heard
  exact ⟨fits, by decide +kernel, whole, ran, hears, Except.ok.inj heard⟩

end GamepadInput.IoKit.Backend
