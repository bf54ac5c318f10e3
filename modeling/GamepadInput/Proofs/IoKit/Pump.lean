import GamepadInput.IoKit.Backend
import GamepadInput.Proofs.Axis.Bounds
import GamepadInput.Proofs.Hub.Live
import GamepadInput.Proofs.Hub.Turns

/-!
# Callbacks within a pump

However the callbacks of a pump are ordered, each leaves a sound hub behind: no two live devices
have one reference, every range fits 32 bits, and every device is somewhere in its story.  Samples
of 32 bits never overflow there, and nothing is heard before the pump is over.
-/

namespace GamepadInput.IoKit

/-- The declared range fits 32 bits. -/
def Element.Fits (element : Element) : Prop := Fits32 element.min ∧ Fits32 element.max

/-- What comes with the callback fits 32 bits. -/
def Callback.Fits : Callback → Prop
  | .matched _ description => ∀ element ∈ description.elements, element.Fits
  | .removed _ => True
  | .value sample => ∀ taken ∈ sample, Fits32 taken.raw

instance (element : Element) : Decidable element.Fits := inferInstanceAs (Decidable (_ ∧ _))

instance : DecidablePred Callback.Fits
  | .matched _ description =>
    inferInstanceAs (Decidable (∀ element ∈ description.elements, element.Fits))
  | .removed _ => inferInstanceAs (Decidable True)
  | .value sample => inferInstanceAs (Decidable (∀ taken ∈ sample, Fits32 taken.raw))

/-! ## One pad -/

namespace Pad

theorem bounded_layoutOf {elements : List Element} (fits : ∀ element ∈ elements, element.Fits) :
    (layoutOf elements).Bounded := by
  refine List.foldlRecOn elements _ Axis.Layout.bounded_empty ?_
  intro layout bounded element member
  obtain ⟨low, high⟩ := fits element member
  split
  · exact bounded.pushLinear element.cookie ⟨low, high⟩
  · exact bounded.pushHat element.cookie low high
  · exact bounded

theorem of_ofElements? {ref : DeviceRef} {elements : List Element} {pad : Pad}
    (made : ofElements? ref elements = some pad) (fits : ∀ element ∈ elements, element.Fits) :
    pad.ref = ref ∧ pad.layout.Bounded := by
  obtain ⟨-, ⟨⟩⟩ := Option.ite_none_left_eq_some.mp made
  exact ⟨rfl, bounded_layoutOf fits⟩

variable {pad after : Pad} {sample : Sample} {kinds : List EventKind}

/-- A sample reports input and leaves the pad of its device. -/
theorem update_keeps (updated : pad.update sample = .ok (after, kinds)) :
    after.ref = pad.ref ∧ ∀ kind ∈ kinds, kind.isInput = true := by
  unfold update at updated
  split at updated
  · split at updated
    · cases updated
      exact ⟨rfl, nofun⟩
    · obtain ⟨⟨layout, changes⟩, -, stored⟩ := exists_of_bind_ok updated
      cases stored
      refine ⟨rfl, fun kind member => ?_⟩
      obtain ⟨change, -, rfl⟩ := List.mem_map.mp member
      rfl
  · split at updated
    · cases updated
      exact ⟨rfl, fun _ => Buttons.isInput_of_mem_press⟩
    · cases updated
      exact ⟨rfl, nofun⟩

theorem update_ok (bounded : pad.layout.Bounded) (fits : Fits32 sample.raw) :
    ∃ after kinds, pad.update sample = .ok (after, kinds) ∧ after.layout.Bounded := by
  unfold update
  split
  · rename_i axis _
    split
    · exact ⟨_, _, rfl, bounded⟩
    · obtain ⟨layout, changes, fed, still⟩ := bounded.feed axis fits
      rw [fed]
      exact ⟨_, _, rfl, still⟩
  · split
    · exact ⟨_, _, rfl, bounded⟩
    · exact ⟨_, _, rfl, bounded⟩

end Pad

namespace Backend

/-- What callbacks and calls leave behind. -/
structure Sound (hub : Hub Pad) : Prop where
  refs_nodup : (hub.registry.kept.map (·.ref)).Nodup
  bounded : ∀ pad ∈ hub.registry.kept, pad.layout.Bounded
  told : ∀ id, ∃ standing heard, hub.Stands id standing ∧ Story standing heard

namespace Sound

variable {hub after : Hub Pad} {callback : Callback}

theorem empty : Sound .empty where
  refs_nodup := List.nodup_nil
  bounded := nofun
  told id := ⟨.absent, [], .empty id, .absent⟩

/-- Nothing is kept anew. -/
theorem of_sublist (sound : Sound hub) (kept : after.registry.kept.Sublist hub.registry.kept)
    (told : ∀ id, ∃ standing heard, after.Stands id standing ∧ Story standing heard) :
    Sound after where
  refs_nodup := sound.refs_nodup.sublist (kept.map _)
  bounded pad member := sound.bounded pad (kept.subset member)
  told := told

theorem told_of_carries (sound : Sound hub) {notices : List Notice}
    (carries : hub.Carries notices after) (id : DeviceId) :
    ∃ standing heard, after.Stands id standing ∧ Story standing heard := by
  obtain ⟨standing, heard, stands, story⟩ := sound.told id
  obtain ⟨next, turns, arrives⟩ := carries id standing heard stands story
  exact ⟨next, _, arrives, story.turns turns⟩

end Sound

theorem live_of_attached? {hub : Hub Pad} {ref : DeviceRef} {entry : Entry Pad}
    (found : attached? hub ref = some entry) :
    entry ∈ hub.registry.live ∧ entry.data.ref = ref ∧
      (hub.registry.get? entry.id).isSome = true := by
  have live := List.mem_of_find?_eq_some found
  refine ⟨live, by simpa using List.find?_some found, ?_⟩
  rw [Registry.get?, List.find?_isSome]
  exact ⟨entry, live, by simp⟩

theorem receiveAll_cons (hub : Hub Pad) (callback : Callback) (rest : List Callback) :
    receiveAll hub (callback :: rest) = receive hub callback >>= (receiveAll · rest) := rfl

theorem onSample_eq {hub : Hub Pad} {sample : Sample} {entry : Entry Pad} {pad : Pad}
    {kinds : List EventKind} (found : attached? hub sample.device = some entry)
    (updated : entry.data.update sample = .ok (pad, kinds)) :
    onSample hub sample = .ok (hub.report entry.id kinds pad) := by
  simp only [onSample, found, updated, bind, Except.bind, pure, Except.pure]
  rfl

/-- A sample leaves a hub be, or lets its device report. -/
theorem of_onSample {hub after : Hub Pad} {sample : Sample}
    (received : onSample hub sample = .ok after) :
    after = hub ∨ ∃ entry pad kinds, attached? hub sample.device = some entry ∧
      entry.data.update sample = .ok (pad, kinds) ∧ after = hub.report entry.id kinds pad := by
  unfold onSample at received
  split at received
  · cases received
    exact .inl rfl
  · rename_i entry found
    obtain ⟨⟨pad, kinds⟩, updated, stored⟩ := exists_of_bind_ok received
    cases stored
    exact .inr ⟨entry, pad, kinds, found, updated, rfl⟩

/-! ## One callback -/

theorem carries_onMatched (hub : Hub Pad) (ref : DeviceRef) (description : Description) :
    hub.Carries [] (onMatched hub ref description) := by
  unfold onMatched
  split
  · exact Hub.Carries.attach hub _ _
  · exact Hub.Carries.refl hub

theorem carries_onRemoved (hub : Hub Pad) (ref : DeviceRef) :
    hub.Carries [] (onRemoved hub ref) := by
  unfold onRemoved
  cases attached? hub ref with
  | none => exact Hub.Carries.refl hub
  | some entry => exact Hub.Carries.unplug hub entry.id

theorem carries_receive {hub after : Hub Pad} {callback : Callback}
    (received : receive hub callback = .ok after) : hub.Carries [] after := by
  cases callback with
  | matched ref description =>
    cases received
    exact carries_onMatched hub ref description
  | removed ref =>
    cases received
    exact carries_onRemoved hub ref
  | value sample =>
    cases sample with
    | none =>
      cases received
      exact Hub.Carries.refl hub
    | some sample =>
      rcases of_onSample received with rfl | ⟨entry, pad, kinds, found, updated, rfl⟩
      · exact Hub.Carries.refl _
      · exact Hub.Carries.report hub (live_of_attached? found).2.2 (Pad.update_keeps updated).2 pad

/-- An unattached reference is that of no live device. -/
theorem ref_of_attached?_none {hub : Hub Pad} {ref : DeviceRef}
    (unattached : attached? hub ref = none) : ref ∉ hub.registry.kept.map (·.ref) := by
  intro member
  simp only [Registry.kept, List.map_map] at member
  obtain ⟨entry, live, same⟩ := List.mem_map.mp member
  exact List.find?_eq_none.mp unattached entry live (by simpa using same)

namespace Sound

variable {hub : Hub Pad}

theorem onMatched (sound : Sound hub) (ref : DeviceRef) {description : Description}
    (fits : ∀ element ∈ description.elements, element.Fits) :
    Sound (onMatched hub ref description) := by
  have told := sound.told_of_carries (carries_onMatched hub ref description)
  unfold Backend.onMatched at told ⊢
  split
  · rename_i pad unattached made
    obtain ⟨rfl, bounded⟩ := Pad.of_ofElements? made fits
    simp only [unattached, made] at told
    refine ⟨?_, ?_, told⟩
    · rw [hub.kept_attach, List.map_append, List.nodup_append]
      refine ⟨sound.refs_nodup, List.nodup_singleton _, ?_⟩
      rintro other member ref mine rfl
      rw [List.mem_singleton.mp mine] at member
      exact ref_of_attached?_none unattached member
    · intro other member
      rw [hub.kept_attach] at member
      rcases List.mem_append.mp member with old | new
      · exact sound.bounded other old
      · rw [List.mem_singleton.mp new]
        exact bounded
  · exact sound

theorem onRemoved (sound : Sound hub) (ref : DeviceRef) : Sound (onRemoved hub ref) := by
  have told := sound.told_of_carries (carries_onRemoved hub ref)
  unfold Backend.onRemoved at told ⊢
  cases found : attached? hub ref with
  | none => exact sound
  | some entry =>
    rw [found] at told
    exact sound.of_sublist (hub.kept_unplug entry.id) told

theorem onSample (sound : Sound hub) {sample : Sample} (fits : Fits32 sample.raw) :
    ∃ after, onSample hub sample = .ok after ∧ Sound after := by
  cases found : attached? hub sample.device with
  | none => exact ⟨hub, by simp [Backend.onSample, found], sound⟩
  | some entry =>
    obtain ⟨live, -, known⟩ := live_of_attached? found
    obtain ⟨pad, kinds, updated, bounded⟩ :=
      Pad.update_ok (sound.bounded _ (List.mem_map_of_mem live)) fits
    obtain ⟨same, isInput⟩ := Pad.update_keeps updated
    refine ⟨_, onSample_eq found updated, ?_, ?_, ?_⟩
    · -- only the entry of this number changes, and its pad keeps the reference
      have refs := hub.kept_report_map (·.ref) entry.id kinds pad fun other there mine => by
        obtain ⟨standing, heard, stands, -⟩ := sound.told entry.id
        have one : some entry = some other :=
          (stands.live?_eq live rfl).symm.trans (stands.live?_eq there mine)
        cases one
        exact same
      exact refs ▸ sound.refs_nodup
    · intro other member
      rcases hub.mem_kept_report member with old | rfl
      · exact sound.bounded other old
      · exact bounded
    · exact sound.told_of_carries (Hub.Carries.report hub known isInput pad)

/-- A callback of 32 bits is handled, and leaves a sound hub. -/
theorem receive (sound : Sound hub) {callback : Callback} (fits : callback.Fits) :
    ∃ after, receive hub callback = .ok after ∧ Sound after := by
  cases callback with
  | matched ref description => exact ⟨_, rfl, sound.onMatched ref fits⟩
  | removed ref => exact ⟨_, rfl, sound.onRemoved ref⟩
  | value sample =>
    cases sample with
    | none => exact ⟨hub, rfl, sound⟩
    | some sample => exact sound.onSample (fits sample rfl)

/-- So are any number of them. -/
theorem receiveAll (sound : Sound hub) {callbacks : List Callback}
    (fits : ∀ callback ∈ callbacks, callback.Fits) :
    ∃ after, receiveAll hub callbacks = .ok after ∧ Sound after := by
  induction callbacks generalizing hub with
  | nil => exact ⟨hub, rfl, sound⟩
  | cons callback rest ih =>
    obtain ⟨next, received, kept⟩ := sound.receive (fits callback (by simp))
    obtain ⟨after, others, ends⟩ := ih kept fun other member => fits other (by simp [member])
    refine ⟨after, ?_, ends⟩
    rw [receiveAll_cons, received]
    exact others

end Sound

/-- Nothing is heard while callbacks come in. -/
theorem carries_receiveAll {hub after : Hub Pad} {callbacks : List Callback}
    (received : receiveAll hub callbacks = .ok after) : hub.Carries [] after := by
  induction callbacks generalizing hub with
  | nil =>
    cases received
    exact Hub.Carries.refl _
  | cons callback rest ih =>
    rw [receiveAll_cons] at received
    obtain ⟨next, first, others⟩ := exists_of_bind_ok received
    exact (carries_receive first).trans (ih others)

/-! ## One device within a pump -/

/-- Callbacks that do not remove a device leave it attached, and its queue only grows. -/
theorem stands_receive {hub after : Hub Pad} {callback : Callback} {id : DeviceId}
    {entry : Entry Pad} {announced : Bool} {waiting : List EventKind}
    (stands : hub.Stands id (.present entry announced waiting))
    (stays : callback ≠ .removed entry.data.ref) (received : receive hub callback = .ok after) :
    ∃ data more, after.Stands id (.present { entry with data } announced (waiting ++ more)) ∧
      data.ref = entry.data.ref := by
  have same : hub.Stands id (.present { entry with data := entry.data } announced
      (waiting ++ [])) := by simpa using stands
  cases callback with
  | matched ref description =>
    cases received
    unfold onMatched
    split
    · -- a device that attaches gets a number that was never given out
      have numbered : hub.registry.nextId ≠ id := by
        intro next
        cases stands.absent_iff.mpr (Nat.le_of_eq next)
      exact ⟨_, _, same.attach_other numbered _ _, rfl⟩
    · exact ⟨_, _, same, rfl⟩
  | removed ref =>
    cases received
    unfold onRemoved
    cases found : attached? hub ref with
    | none => exact ⟨_, _, same, rfl⟩
    | some other =>
      obtain ⟨live, mine, -⟩ := live_of_attached? found
      have differ : other.id ≠ id := by
        intro here
        cases stands.live?_eq live here
        exact stays (mine ▸ rfl)
      exact ⟨_, _, same.unplug_other differ, rfl⟩
  | value sample =>
    cases sample with
    | none =>
      cases received
      exact ⟨_, _, same, rfl⟩
    | some sample =>
      rcases of_onSample received with rfl | ⟨other, pad, kinds, found, updated, rfl⟩
      · exact ⟨_, _, same, rfl⟩
      · obtain ⟨live, -⟩ := live_of_attached? found
        by_cases here : other.id = id
        · cases stands.live?_eq live here
          rw [here]
          exact ⟨_, _, stands.report_self kinds pad, (Pad.update_keeps updated).1⟩
        · exact ⟨_, _, same.report_other here kinds pad, rfl⟩

/-- So do any number of them. -/
theorem stands_receiveAll {hub after : Hub Pad} {callbacks : List Callback} {id : DeviceId}
    {entry : Entry Pad} {announced : Bool} {waiting : List EventKind}
    (stands : hub.Stands id (.present entry announced waiting))
    (stays : .removed entry.data.ref ∉ callbacks) (received : receiveAll hub callbacks = .ok after) :
    ∃ data more, after.Stands id (.present { entry with data } announced (waiting ++ more)) := by
  induction callbacks generalizing hub entry waiting with
  | nil =>
    cases received
    exact ⟨entry.data, [], by simpa using stands⟩
  | cons callback rest ih =>
    rw [receiveAll_cons] at received
    obtain ⟨next, first, others⟩ := exists_of_bind_ok received
    obtain ⟨other, later⟩ := List.ne_and_not_mem_of_not_mem_cons stays
    obtain ⟨data, more, there, same⟩ := stands_receive stands (Ne.symm other) first
    rw [← same] at later
    obtain ⟨last, rest, ends⟩ := ih there later others
    exact ⟨last, more ++ rest, by simpa using ends⟩

end Backend

end GamepadInput.IoKit
