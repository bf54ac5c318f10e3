import GamepadInput.Proofs.Hid.Reading
import GamepadInput.Proofs.Hub.Live
import GamepadInput.Proofs.Hub.Turns
import GamepadInput.Windows.Backend

/-!
# Polling the devices of Windows

A processing polls every live device once, whatever the others do.  What the system answers fits
32 bits, so that no sample overflows.
-/

namespace GamepadInput

namespace XInput

/-- The sticks fit 32 bits. -/
structure Sample.Fits (sample : Sample) : Prop where
  leftX : Fits32 sample.leftX
  leftY : Fits32 sample.leftY
  rightX : Fits32 sample.rightX
  rightY : Fits32 sample.rightY

theorem Sample.stick_ok {value : Int} (fits : Fits32 value) : ∃ result, stick value = .ok result :=
  Axis.linear_ok fits (by decide) (by decide)

theorem Sample.Fits.axes_ok {sample : Sample} (fits : sample.Fits) :
    ∃ values, sample.axes = .ok values := by
  obtain ⟨leftX, first⟩ := stick_ok fits.leftX
  obtain ⟨leftY, second⟩ := stick_ok fits.leftY
  obtain ⟨rightX, third⟩ := stick_ok fits.rightX
  obtain ⟨rightY, fourth⟩ := stick_ok fits.rightY
  simp only [axes, first, second, third, fourth, bind, Except.bind]
  exact ⟨_, rfl⟩

namespace Pad

theorem isInput_of_mem_buttonChanges {before after : BitVec 16} {index : Nat}
    {masks : List (BitVec 16)} {kind : EventKind}
    (reported : kind ∈ buttonChanges before after index masks) : kind.isInput = true := by
  induction masks generalizing index with
  | nil => cases reported
  | cons mask rest ih =>
    simp only [buttonChanges] at reported
    split at reported
    · exact ih reported
    · rcases List.mem_cons.mp reported with rfl | others
      · rfl
      · exact ih others

theorem isInput_of_mem_axisChanges {index : Nat} {before after : List Binary32} {kind : EventKind}
    (reported : kind ∈ axisChanges index before after) : kind.isInput = true := by
  induction before generalizing index after with
  | nil => cases reported
  | cons last rest ih =>
    cases after with
    | nil => cases reported
    | cons value more =>
      simp only [axisChanges] at reported
      split at reported
      · exact ih reported
      · rcases List.mem_cons.mp reported with rfl | others
        · rfl
        · exact ih others

theorem update_ok (pad : Pad) {sample : Sample} (fits : sample.Fits) :
    ∃ after kinds, pad.update sample = .ok (after, kinds) ∧
      ∀ kind ∈ kinds, kind.isInput = true := by
  obtain ⟨values, normalized⟩ := fits.axes_ok
  refine ⟨_, _, by rw [update, normalized]; rfl, ?_⟩
  intro kind member
  exact (List.mem_append.mp member).elim isInput_of_mem_buttonChanges isInput_of_mem_axisChanges

end Pad

end XInput

namespace Windows

/-- The ranges of a HID device fit 32 bits. -/
def Pad.Bounded : Pad → Prop
  | .hid pad => pad.parser.layout.Bounded
  | .xinput _ => True

/-- What the system answers fits 32 bits. -/
structure Readings.Fits (readings : Readings) : Prop where
  link : ∀ path, (readings.link path).queries.Fits
  sample : ∀ query slot sample, readings.sample query slot = some sample → sample.Fits

namespace Backend

variable {limit : Nat} {standard : Option SampleQuery} {readings : Readings}

/-- Any device is polled, and all that it reports is input. -/
theorem pollPad_ok (limit : Nat) (standard : Option SampleQuery) (fits : readings.Fits) {pad : Pad}
    (bounded : pad.Bounded) :
    ∃ poll, pollPad limit standard readings pad = .ok poll ∧ poll.pad.Bounded ∧
      ∀ kind ∈ poll.kinds, kind.isInput = true := by
  cases pad with
  | hid pad =>
    obtain ⟨poll, polled, still, inputs⟩ := Hid.Pad.poll_ok bounded limit (fits.link pad.path)
    refine ⟨⟨.hid poll.pad, poll.kinds, poll.failed, some (pad.path, poll.taken)⟩, ?_, still, inputs⟩
    rw [pollPad, polled]
    rfl
  | xinput pad =>
    cases answered : standard.bind fun query => readings.sample query pad.slot with
    | none => exact ⟨⟨.xinput pad, [], true, none⟩, by simp only [pollPad, answered], trivial, nofun⟩
    | some sample =>
      obtain ⟨query, -, given⟩ := Option.bind_eq_some_iff.mp answered
      obtain ⟨after, kinds, updated, inputs⟩ := pad.update_ok (fits.sample _ _ _ given)
      refine ⟨⟨.xinput after, kinds, false, none⟩, ?_, trivial, inputs⟩
      simp only [pollPad, answered, updated]
      rfl

/-! ## All devices -/

section All

variable {hub after : Hub Pad} {entry : Entry Pad} {entries : List (Entry Pad)} {poll : Poll}
  {failed : List DeviceId} {taken : List (String × Nat)}

theorem pollAll_cons {rest : List (Entry Pad)}
    (polled : pollPad limit standard readings entry.data = .ok poll)
    (others : pollAll limit standard readings (hub.report entry.id poll.kinds poll.pad) rest =
      .ok (after, failed, taken)) :
    pollAll limit standard readings hub (entry :: rest) =
      .ok (after, (if poll.failed then [entry.id] else []) ++ failed,
        poll.taken.toList ++ taken) := by
  unfold Hub.report at others
  simp only [pollAll, polled, others, bind, Except.bind, pure, Except.pure]

theorem of_pollAll_cons {rest : List (Entry Pad)}
    (polled : pollAll limit standard readings hub (entry :: rest) = .ok (after, failed, taken)) :
    ∃ poll later more, pollPad limit standard readings entry.data = .ok poll ∧
      pollAll limit standard readings (hub.report entry.id poll.kinds poll.pad) rest = .ok (after, later, more) ∧
      failed = (if poll.failed then [entry.id] else []) ++ later := by
  obtain ⟨poll, first, polled⟩ := exists_of_bind_ok polled
  obtain ⟨⟨hub, later, more⟩, others, polled⟩ := exists_of_bind_ok polled
  cases polled
  exact ⟨poll, later, more, first, others, rfl⟩

/-- Polling succeeds, and the ranges still fit 32 bits. -/
theorem pollAll_ok (limit : Nat) (standard : Option SampleQuery) (fits : readings.Fits)
    (bounded : ∀ entry ∈ entries, entry.data.Bounded)
    (within : ∀ pad ∈ hub.registry.kept, pad.Bounded) :
    ∃ after failed taken, pollAll limit standard readings hub entries =
        .ok (after, failed, taken) ∧ ∀ pad ∈ after.registry.kept, pad.Bounded := by
  induction entries generalizing hub with
  | nil => exact ⟨hub, [], [], rfl, within⟩
  | cons entry rest ih =>
    obtain ⟨poll, polled, still, -⟩ := pollPad_ok limit standard fits (bounded entry (by simp))
    have stored : ∀ pad ∈ (hub.report entry.id poll.kinds poll.pad).registry.kept, pad.Bounded := by
      intro pad member
      rcases hub.mem_kept_report member with old | rfl
      · exact within pad old
      · exact still
    obtain ⟨after, failed, taken, others, ends⟩ :=
      ih (fun other member => bounded other (List.mem_cons_of_mem _ member)) stored
    exact ⟨after, _, _, pollAll_cons polled others, ends⟩

variable {id : DeviceId} {standing : Standing Pad}

/-- A device is not touched by polling others. -/
theorem stands_pollAll_other
    (polled : pollAll limit standard readings hub entries = .ok (after, failed, taken))
    (absent : id ∉ entries.map (·.id)) (stands : hub.Stands id standing) :
    after.Stands id standing ∧ id ∉ failed := by
  induction entries generalizing hub failed taken with
  | nil =>
    cases polled
    exact ⟨stands, List.not_mem_nil⟩
  | cons first rest ih =>
    obtain ⟨poll, later, more, -, others, rfl⟩ := of_pollAll_cons polled
    obtain ⟨differ, elsewhere⟩ := List.ne_and_not_mem_of_not_mem_cons absent
    obtain ⟨arrives, unfailed⟩ :=
      ih others elsewhere (stands.report_other (Ne.symm differ) poll.kinds poll.pad)
    refine ⟨arrives, ?_⟩
    split
    · simpa [differ] using unfailed
    · exact unfailed

/-- Every device is polled once. -/
theorem stands_pollAll
    (polled : pollAll limit standard readings hub entries = .ok (after, failed, taken))
    (nodup : (entries.map (·.id)).Nodup) (member : entry ∈ entries) (mine : entry.id = id)
    {announced : Bool} {waiting : List EventKind}
    (stands : hub.Stands id (.present entry announced waiting)) :
    ∃ poll, pollPad limit standard readings entry.data = .ok poll ∧
      after.Stands id
        (.present { entry with data := poll.pad } announced (waiting ++ poll.kinds)) ∧
      (id ∈ failed ↔ poll.failed = true) := by
  induction entries generalizing hub failed taken with
  | nil => cases member
  | cons first rest ih =>
    obtain ⟨poll, later, more, read, others, rfl⟩ := of_pollAll_cons polled
    obtain ⟨single, nodup⟩ := List.nodup_cons.mp nodup
    rcases List.mem_cons.mp member with rfl | among
    · -- numbers are distinct, so the devices polled after this one are others
      subst mine
      obtain ⟨arrives, unfailed⟩ := stands_pollAll_other others single
        (stands.report_self poll.kinds poll.pad)
      refine ⟨poll, read, arrives, ?_⟩
      cases poll.failed <;> simp [unfailed]
    · have differ : first.id ≠ id := by
        intro here
        exact single (List.mem_map.mpr ⟨entry, among, mine.trans here.symm⟩)
      obtain ⟨own, done, arrives, fails⟩ := ih others nodup among
        (stands.report_other differ poll.kinds poll.pad)
      refine ⟨own, done, arrives, ?_⟩
      rw [← fails]
      cases poll.failed <;> simp [Ne.symm differ]

end All

end Backend

end Windows

end GamepadInput
