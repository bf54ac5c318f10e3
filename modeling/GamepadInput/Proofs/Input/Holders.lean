import GamepadInput.Proofs.Frame.Holding
import GamepadInput.Proofs.Input.Run
import GamepadInput.Proofs.Virtual.Life

/-!
# Pads that hold a slot

A pad gets a slot when its attach is heard, and loses it when its removal is heard or everything is
shut down.  So whatever holds a slot was announced and has not been told to have left
(`Reaches.shown`), which every call keeps.
-/

namespace GamepadInput

/-- Announced, and no removal heard. -/
def Standing.isShown {α : Type} : Standing α → Bool
  | present _ announced _ => announced
  | unplugged _ => true
  | absent | gone => false

namespace VirtualBackend

variable {id : DeviceId} {standing after : Standing VirtualPadState} {notices : List Notice}
  {kinds : List EventKind} {call : Call} {calls : List Call}

/-- A pad stays in view, and comes into view by its attach, unless its removal is heard. -/
theorem Moves.isShown (move : Moves id standing call after notices kinds)
    (lasts : call ≠ .shutdown) (stays : .removed ∉ notices.map (·.kind))
    (shown : standing.isShown = true ∨ .attached ∈ notices.map (·.kind)) :
    after.isShown = true := by
  cases move with
  | join => simp [Standing.isShown] at shown
  | stay | feed | close => simpa [Standing.isShown] using shown
  | @unplug entry announced waiting =>
    have known : announced = true := by simpa [Standing.isShown] using shown
    rw [if_pos known]
    rfl
  | shutdown => exact absurd rfl lasts
  | detect =>
    cases standing with
    | absent | gone => simp [Standing.isShown, Standing.announcement] at shown
    | present => rfl
    | unplugged => simp [Standing.announcement] at stays
  | process =>
    cases standing with
    | absent | gone => simp [Standing.isShown, Standing.delivery] at shown
    | unplugged => rfl
    | present entry announced waiting =>
      have told : announced = true ∨ waiting ≠ [] := by
        rcases shown with known | attached
        · exact .inl known
        · right
          rintro rfl
          simp [Standing.delivery] at attached
      have remains : .removed ∉ waiting := by
        intro member
        have some_ : waiting.isEmpty = false := by
          cases waiting with
          | nil => cases member
          | cons => rfl
        simp [Standing.delivery, some_, member] at stays
      simp only [Standing.processed, if_neg remains, Standing.isShown]
      simpa using told

theorem Passes.isShown (passes : Passes id standing calls after notices kinds)
    (lasts : .shutdown ∉ calls) (stays : .removed ∉ notices.map (·.kind))
    (shown : standing.isShown = true ∨ .attached ∈ notices.map (·.kind)) :
    after.isShown = true := by
  induction passes with
  | nil => simpa using shown
  | cons move rest ih =>
    rw [List.mem_cons, not_or] at lasts
    rw [List.map_append, List.mem_append, not_or] at stays
    rw [List.map_append, List.mem_append] at shown
    rcases shown with known | first | later
    · exact ih lasts.2 stays.2 (.inl (move.isShown (Ne.symm lasts.1) stays.1 (.inl known)))
    · exact ih lasts.2 stays.2 (.inl (move.isShown (Ne.symm lasts.1) stays.1 (.inr first)))
    · exact ih lasts.2 stays.2 (.inr later)

/-- Nothing was heard of a pad before its attach. -/
theorem unheard_until_attach {before rest : List Call} {ahead after : List Notice} {device : Device}
    (split : ((empty.run before).backend.run rest).notices =
      ahead ++ ⟨device, .attached⟩ :: after) :
    heardOf (empty.run before).notices device.id = [] ∧ heardOf ahead device.id = [] := by
  obtain ⟨standing, reaches⟩ := exists_reaches (before ++ rest) device.id
  have attach : heardOf (⟨device, .attached⟩ :: after) device.id =
      ⟨device, .attached⟩ :: heardOf after device.id := by
    simp [heardOf]
  have life := reaches.course.lifecycle
  simp only [run_append, split, heardOf_append, attach, ← List.append_assoc, List.map_append,
    List.map_cons] at life
  rw [← List.map_append] at life
  have nothing := List.map_eq_nil_iff.mp life.nil_of_attached
  exact List.append_eq_nil_iff.mp nothing

end VirtualBackend

/-! ## Notices that leave a slot to its holder -/

theorem Frame.removed_not_mem {notices : List Notice} {index : Nat} {device : DeviceId}
    (stays : (notices.map Call.hear).any (Call.vacates index device) = false) :
    .removed ∉ (heardOf notices device).map (·.kind) := by
  intro member
  obtain ⟨notice, heard, removed⟩ := List.mem_map.mp member
  obtain ⟨here, mine⟩ := List.mem_filter.mp heard
  have keeps := List.any_eq_false.mp stays (.hear notice) (List.mem_map_of_mem here)
  obtain ⟨other, kind⟩ := notice
  cases removed
  exact keeps mine

namespace Input

variable {τ : Type}

/-- What a run from the start has asked the backend and told a frame of so many slots. -/
structure Reaches (slots : Nat) (input : Input VirtualBackend τ)
    (asked : List VirtualBackend.Call) (told : List Frame.Call) : Prop where
  backend_eq : input.pads.backend = (VirtualBackend.empty.run asked).backend
  frame_eq : input.frame = (Frame.atRest slots).run told
  /-- What holds a slot was announced and is there still. -/
  shown : ∀ index tenure, Frame.tenure? (max slots 1) index told = some tenure →
    ∃ standing, VirtualBackend.Reaches asked tenure.device.id standing ∧ standing.isShown = true
  idle : input.pads.inFlight = false

theorem Call.shutdown_not_mem_asks {call : Call} (lasts : call ≠ .shutdown) (initialized : Bool) :
    .shutdown ∉ call.asks initialized := by
  cases call with
  | play call plays =>
    rw [asks, List.mem_singleton]
    rintro rfl
    cases plays
  | start => cases initialized <;> simp [asks]
  | shutdown => exact absurd rfl lasts
  | handle | flush => simp [asks]

namespace Reaches

variable {slots : Nat} {input : Input VirtualBackend τ} {asked : List VirtualBackend.Call}
  {told : List Frame.Call}

theorem start (slots : Nat) : Reaches slots (ofBackend .empty slots : Input _ τ) [] [] :=
  ⟨rfl, rfl, nofun, rfl⟩

/-- What the backend delivers without a shutdown keeps the holders in view. -/
theorem shown_onward (reaches : Reaches slots input asked told) (asks : List VirtualBackend.Call)
    (own : List Frame.Call) (lasts : .shutdown ∉ asks) (deaf : ∀ notice, .hear notice ∉ own)
    (index : Nat) (tenure : Frame.Tenure)
    (held : Frame.tenure? (max slots 1) index
      (told ++ (own ++ (input.pads.backend.run asks).notices.map .hear)) = some tenure) :
    ∃ standing, VirtualBackend.Reaches (asked ++ asks) tenure.device.id standing ∧
      standing.isShown = true := by
  rw [← List.append_assoc, reaches.backend_eq] at held
  rcases Frame.tenure?_append held with arrived | ⟨earlier, there, -, stays⟩
  · obtain ⟨ahead, after, split, -, stays⟩ := Frame.heard_attach arrived
    obtain ⟨standing, there⟩ := VirtualBackend.exists_reaches asked tenure.device.id
    obtain ⟨next, passes, onward⟩ := there.onward asks
    have heard : heardOf ((VirtualBackend.empty.run asked).backend.run asks).notices
        tenure.device.id = ⟨tenure.device, .attached⟩ :: heardOf after tenure.device.id := by
      rw [split, heardOf_append, (VirtualBackend.unheard_until_attach split).2]
      simp [heardOf]
    rw [heard] at passes
    refine ⟨next, onward, passes.isShown lasts ?_ (.inr (by simp))⟩
    simpa using Frame.removed_not_mem stays
  · rcases Frame.tenure?_append there with arrived | ⟨older, there, -, -⟩
    · obtain ⟨⟨before, split⟩, -⟩ := Frame.attach_of_tenure? arrived
      exact absurd (by rw [split]; simp) (deaf ⟨tenure.device, .attached⟩)
    · obtain ⟨standing, there, shown⟩ := reaches.shown index _ there
      obtain ⟨next, passes, onward⟩ := there.onward asks
      exact ⟨next, onward, passes.isShown lasts (Frame.removed_not_mem stays) (.inl shown)⟩

/-- Nothing holds a slot after a shutdown. -/
theorem tenure?_shutdown (told : List Frame.Call) (capacity index : Nat) (positive : 0 < capacity) :
    Frame.tenure? capacity index (told ++ Call.shutdown.tells capacity []) = none := by
  have emptied : Call.shutdown.tells capacity [] = (List.range capacity).map .disconnect :=
    List.append_nil _
  rw [emptied]
  cases held : Frame.tenure? capacity index (told ++ (List.range capacity).map .disconnect) with
  | none => rfl
  | some tenure =>
    rcases Frame.tenure?_append held with arrived | ⟨earlier, there, -, stays⟩
    · obtain ⟨⟨before, split⟩, -⟩ := Frame.attach_of_tenure? arrived
      have member : Frame.Call.hear ⟨tenure.device, .attached⟩ ∈
          (List.range capacity).map .disconnect := by
        rw [split]
        simp
      obtain ⟨other, -, same⟩ := List.mem_map.mp member
      cases same
    · have inside : index < capacity := by
        rw [← Frame.tenure?_mod there]
        exact Nat.mod_lt _ positive
      have taken := List.any_eq_false.mp stays (.disconnect index)
        (List.mem_map_of_mem (List.mem_range.mpr inside))
      simp [Frame.Call.vacates] at taken

/-- One call on from there. -/
theorem perform (reaches : Reaches slots input asked told) (call : Call) :
    ∃ effect, input.perform call = .ok effect ∧
      let asks := call.asks input.pads.initialized
      let done := input.pads.backend.run asks
      effect.notices = done.notices ∧ effect.accepted = done.accepted ∧
        Reaches slots effect.input (asked ++ asks)
          (told ++ call.tells (max slots 1) done.notices) := by
  obtain ⟨effect, performed, does⟩ := perform_splits reaches.idle call
  have capacity : input.frame.capacity = max slots 1 := by
    rw [reaches.frame_eq, Frame.capacity_run]
    rfl
  have frame := does.frame_eq
  rw [capacity] at frame
  refine ⟨effect, performed, does.notices_eq, does.accepted_eq, ⟨?_, ?_, ?_, does.idle⟩⟩
  · rw [does.backend_eq, VirtualBackend.run_append, reaches.backend_eq]
  · rw [frame, Frame.run_append, reaches.frame_eq]
  intro index tenure held
  by_cases last : call = .shutdown
  · subst last
    have silent : (input.pads.backend.run [.shutdown]).notices = [] := rfl
    rw [Call.asks, silent, tenure?_shutdown told _ index (by omega)] at held
    cases held
  · exact reaches.shown_onward _ _ (Call.shutdown_not_mem_asks last _)
      (call.hear_not_mem_own _) index tenure held

end Reaches

end Input

end GamepadInput
