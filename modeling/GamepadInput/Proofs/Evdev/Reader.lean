import GamepadInput.Evdev.Reader

/-!
# What a reader queues

Over its life a reader queues input, and at most one removal, after which it queues nothing.
-/

namespace GamepadInput.Evdev

/-- Samples are decoded to input. -/
theorem Decoder.decode_isInput {decoder after : Decoder} {sample : Sample} {kinds : List EventKind}
    (decoded : decoder.decode sample = .ok (after, kinds)) :
    ∀ kind ∈ kinds, kind.isInput = true := by
  unfold decode at decoded
  split at decoded
  · split at decoded
    · rename_i button found
      simp only [press, Buttons.press, Except.ok.injEq, Prod.mk.injEq] at decoded
      rw [← decoded.2]
      split <;> simp [EventKind.isInput]
    · cases decoded
      simp
  · split at decoded
    · split at decoded
      · rename_i axis found
        cases fed : decoder.layout.feed axis sample.value with
        | error cause => simp [fed, bind, Except.bind] at decoded
        | ok result =>
          simp only [fed, bind, Except.bind, pure, Except.pure, Except.ok.injEq,
            Prod.mk.injEq] at decoded
          rw [← decoded.2]
          simp [EventKind.isInput]
      · cases decoded
        simp
    · cases decoded
      simp

namespace Reader

/-- What a reader has queued, followed by what it holds, is input; only a reader that has ended has
a removal behind it. -/
def Follows (reader : Reader) (sent : List EventKind) : Prop :=
  ∃ inputs : List EventKind, (∀ kind ∈ inputs, kind.isInput = true) ∧
    (sent ++ reader.unsent = inputs ∨
      reader.ended = true ∧ sent ++ reader.unsent = inputs ++ [.removed])

/-- A step of a reader, and what it queues. -/
inductive Goes : Reader → Reader → List EventKind → Prop where
  | read {reader : Reader} (waiting : reader.isWaiting = true) (reading : Reading) :
      Goes reader (reader.take reading) []
  | send {reader after : Reader} {kind : EventKind} (sends : reader.send? = some (kind, after)) :
      Goes reader after [kind]

variable {reader after : Reader} {sent : List EventKind}

theorem follows_ofDecoder (decoder : Decoder) : (ofDecoder decoder).Follows [] :=
  ⟨[], by simp, .inl rfl⟩

namespace Follows

theorem take (follows : reader.Follows sent) (waiting : reader.isWaiting = true)
    (reading : Reading) : (reader.take reading).Follows sent := by
  obtain ⟨inputs, isInput, shape⟩ := follows
  simp only [isWaiting, Bool.and_eq_true, Bool.not_eq_true', List.isEmpty_iff] at waiting
  obtain ⟨goes, nothing⟩ := waiting
  have all : sent = inputs := by
    rcases shape with all | ⟨ended, -⟩
    · rwa [nothing, List.append_nil] at all
    · rw [ended] at goes
      cases goes
  subst all
  cases reading with
  | ended => exact ⟨sent, isInput, .inr ⟨rfl, rfl⟩⟩
  | sample sample =>
    cases decoded : reader.decoder.decode sample with
    | error cause =>
      refine ⟨sent, isInput, .inl ?_⟩
      simp only [Reader.take, decoded, nothing, List.append_nil]
    | ok result =>
      obtain ⟨decoder, kinds⟩ := result
      refine ⟨sent ++ kinds, ?_, .inl (by simp only [Reader.take, decoded])⟩
      intro kind member
      rcases List.mem_append.mp member with early | late
      · exact isInput kind early
      · exact Decoder.decode_isInput decoded kind late

theorem send (follows : reader.Follows sent) {kind : EventKind}
    (sends : reader.send? = some (kind, after)) : after.Follows (sent ++ [kind]) := by
  obtain ⟨inputs, isInput, shape⟩ := follows
  have moved : sent ++ [kind] ++ after.unsent = sent ++ reader.unsent ∧
      after.ended = reader.ended := by
    unfold send? at sends
    split at sends
    · cases sends
    · rename_i held unsent is_
      cases sends
      exact ⟨by simp [is_], rfl⟩
  refine ⟨inputs, isInput, ?_⟩
  rwa [moved.1, moved.2]

theorem goes (follows : reader.Follows sent) {kinds : List EventKind}
    (goes : reader.Goes after kinds) : after.Follows (sent ++ kinds) := by
  cases goes with
  | read waiting reading => simpa using follows.take waiting reading
  | send sends => exact follows.send sends

/-- Everything but the removal is input. -/
theorem isInput (follows : reader.Follows sent) {kind : EventKind} (member : kind ∈ sent)
    (stays : kind ≠ .removed) : kind.isInput = true := by
  obtain ⟨inputs, isInput, shape⟩ := follows
  have held : kind ∈ sent ++ reader.unsent := List.mem_append_left _ member
  rcases shape with all | ⟨-, all⟩
  · rw [all] at held
    exact isInput kind held
  · rw [all] at held
    rcases List.mem_append.mp held with early | last
    · exact isInput kind early
    · exact absurd (List.mem_singleton.mp last) stays

/-- Once a removal is queued, nothing follows it and the reader has finished. -/
theorem removed_ends {early late : List EventKind}
    (follows : reader.Follows (early ++ .removed :: late)) :
    late = [] ∧ (∀ kind ∈ early, kind.isInput = true) ∧ reader.isFinished = true := by
  obtain ⟨inputs, isInput, shape⟩ := follows
  rcases shape with all | ⟨ended, all⟩
  · have member : EventKind.removed ∈ inputs := by
      rw [← all]
      simp
    cases isInput _ member
  · have split : early ++ .removed :: (late ++ reader.unsent) = inputs ++ [.removed] := by
      rw [← all]
      simp
    rcases List.eq_nil_or_concat (late ++ reader.unsent) with nothing | ⟨begins, last, more⟩
    · rw [nothing] at split
      have same : early = inputs := List.append_cancel_right split
      obtain ⟨late, unsent⟩ := List.append_eq_nil_iff.mp nothing
      rw [same]
      exact ⟨late, isInput, by simp [isFinished, ended, unsent]⟩
    · have longer : early ++ .removed :: begins ++ [last] = inputs ++ [.removed] := by
        rw [← split, more]
        simp
      have member : EventKind.removed ∈ inputs := by
        rw [← (List.append_inj' longer rfl).1]
        simp
      cases isInput _ member

end Follows

end Reader

end GamepadInput.Evdev
