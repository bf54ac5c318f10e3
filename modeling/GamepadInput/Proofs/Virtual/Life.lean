import GamepadInput.Proofs.Lifecycle
import GamepadInput.Proofs.Virtual.Course
import Mathlib.Data.List.Induction

/-!
# The life of a virtual pad

However the calls come, what is heard of a pad is a life in order: no input before the attach or
after the removal, no word of a pad that left before it was announced, and none after a shutdown of
the pads that were there before it.
-/

namespace GamepadInput.VirtualBackend

variable {id : DeviceId} {standing after : Standing VirtualPadState} {heard notices : List Notice}
  {accepted kinds : List EventKind} {call : Call} {calls : List Call}

theorem Course.lifecycle (course : Course standing heard accepted) :
    Lifecycle (heard.map (·.kind)) := by
  cases course with
  | absent | silent => exact .unheard
  | @present start state announced delivered waiting rest quiet admitted mirrors =>
    have inputs := ((Device.admitsAll_append _ _).mp admitted).1.isInput
    cases announced with
    | true => simpa using Lifecycle.connected inputs
    | false => exact .unheard
  | @unplugged start state delivered lost rest admitted
  | @dropped start delivered lost rest admitted =>
    have inputs := ((Device.admitsAll_append _ _).mp admitted).1.isInput
    simpa using Lifecycle.connected inputs
  | @left start delivered lost rest admitted =>
    have inputs := ((Device.admitsAll_append _ _).mp admitted).1.isInput
    simpa using Lifecycle.disconnected inputs

/-- A live device was announced just if its attach was heard. -/
theorem Course.announced_iff {entry : Entry VirtualPadState} {announced : Bool}
    {waiting : List EventKind} (course : Course (.present entry announced waiting) heard accepted) :
    announced = true ↔ .attached ∈ heard.map (·.kind) := by
  cases course with
  | present rest quiet admitted mirrors => cases announced <;> simp

theorem Course.unheard {entry : Entry VirtualPadState} {waiting : List EventKind}
    (course : Course (.present entry false waiting) heard accepted) : heard = [] := by
  cases course with
  | present rest quiet admitted mirrors => rfl

/-! ## Devices that are gone -/

theorem Passes.of_gone (passes : Passes id .gone calls after notices kinds) :
    after = .gone ∧ notices = [] ∧ kinds = [] := by
  induction calls generalizing notices kinds with
  | nil =>
    cases passes
    exact ⟨rfl, rfl, rfl⟩
  | cons call calls ih =>
    cases passes with
    | cons move rest =>
      obtain ⟨rfl, rfl, rfl⟩ := Course.of_gone move
      obtain ⟨gone, silent, nothing⟩ := ih rest
      exact ⟨gone, by simpa using silent, by simpa using nothing⟩

/-- Nothing more is heard of a device that is gone. -/
theorem Reaches.heard_of_gone {before : List Call} (reaches : Reaches before id .gone)
    (rest : List Call) : (empty.run (before ++ rest)).heard id = (empty.run before).heard id := by
  obtain ⟨after, passes, -⟩ := reaches.onward rest
  rw [heard_append, Effect.heard, Effect.heard, (passes.of_gone).2.1]
  simp

/-- A live pad is taken away: it is gone at once if it was not announced. -/
theorem Reaches.unplug (reaches : Reaches calls id standing)
    (unplugged : ((empty.run calls).backend.unplug id).2 = true) :
    ∃ entry announced waiting, standing = .present entry announced waiting ∧
      Reaches (calls ++ [.unplug id]) id (if announced then .unplugged entry else .gone) := by
  cases result : (empty.run calls).backend.hub.unplug? id with
  | none => simp [VirtualBackend.unplug, result] at unplugged
  | some hub =>
    cases standing with
    | absent | unplugged | gone => simp [reaches.stands.unplug?_none rfl] at result
    | present entry announced waiting =>
      obtain ⟨next, here, -, stands⟩ := reaches.stands.unplug?_present
      rw [result, Option.some.injEq] at here
      have done : (empty.run calls).backend.perform (.unplug id) = ⟨⟨next⟩, [], [], []⟩ := by
        simp [perform, VirtualBackend.unplug, result, here]
      refine ⟨entry, announced, waiting, rfl, reaches.call ?_ ?_⟩
      · rw [done]
        exact stands
      · rw [done]
        exact .unplug

/-! ## Numbers that were given -/

/-- Only attaching makes a device that was not there. -/
theorem Moves.isAbsent_eq (move : Moves id standing call after notices kinds)
    (other : ∀ pad made, call ≠ .attach pad made) : after.isAbsent = standing.isAbsent := by
  cases move with
  | @join pad made => exact absurd rfl (other pad made)
  | stay | feed | close => rfl
  | @unplug entry announced waiting => cases announced <;> rfl
  | detect => cases standing <;> rfl
  | process =>
    cases standing with
    | absent | unplugged | gone => rfl
    | present entry announced waiting =>
      simp only [Standing.processed]
      split <;> rfl
  | shutdown => cases standing <;> rfl

theorem assigned_perform {backend : VirtualBackend} (other : ∀ pad made, call ≠ .attach pad made) :
    (backend.perform call).assigned = [] := by
  cases call with
  | attach pad made => exact absurd rfl (other pad made)
  | moveAxis target axis raw =>
    simp only [perform, reporting]
    split <;> rfl
  | press | release | setAxis | detach | unplug | detect | process | shutdown => rfl

/-- The numbers given are those below the next one. -/
theorem mem_assigned_iff (calls : List Call) (id : DeviceId) :
    id ∈ (empty.run calls).assigned ↔ id < (empty.run calls).backend.hub.registry.nextId := by
  induction calls using List.reverseRecOn with
  | nil => simp [run, empty, Hub.empty, Registry.empty]
  | append_singleton before call ih =>
    have assigned : (empty.run (before ++ [call])).assigned =
        (empty.run before).assigned ++ ((empty.run before).backend.perform call).assigned := by
      simp [run_append, run]
    have backend : (empty.run (before ++ [call])).backend =
        ((empty.run before).backend.perform call).backend := by
      simp [run_append, run]
    rw [assigned, backend, List.mem_append, ih]
    by_cases attaches : ∃ pad made, call = .attach pad made
    · obtain ⟨pad, made, rfl⟩ := attaches
      have fresh : ((empty.run before).backend.perform (.attach pad made)).assigned =
          [(empty.run before).backend.hub.registry.nextId] := rfl
      have count : ((empty.run before).backend.perform
          (.attach pad made)).backend.hub.registry.nextId =
          (empty.run before).backend.hub.registry.nextId + 1 := rfl
      rw [fresh, count, List.mem_singleton]
      exact Nat.lt_succ_iff_lt_or_eq.symm
    · have other : ∀ pad made, call ≠ .attach pad made := by
        intro pad made same
        exact attaches ⟨pad, made, same⟩
      obtain ⟨standing, reaches⟩ := exists_reaches before id
      obtain ⟨after, move, stands⟩ := perform_moves reaches.stands reaches.course.orderly call
      have same : (empty.run before).backend.hub.registry.nextId ≤ id ↔
          ((empty.run before).backend.perform call).backend.hub.registry.nextId ≤ id := by
        rw [← reaches.stands.absent_iff, ← stands.absent_iff, move.isAbsent_eq other]
      rw [assigned_perform other]
      simpa using not_congr same

/-- A device has been there just if its number was given. -/
theorem Reaches.absent_iff (reaches : Reaches calls id standing) :
    standing.isAbsent = true ↔ id ∉ (empty.run calls).assigned := by
  rw [mem_assigned_iff, reaches.stands.absent_iff]
  exact Nat.not_lt.symm

/-! ## Runs -/

/-- The life of each device over every run; a pad taken away before it was announced is not heard
of, and a shutdown ends the life of every device numbered before it. -/
theorem lifecycle_run (id : DeviceId) :
    (∀ calls, Lifecycle ((empty.run calls).heard id)) ∧
      (∀ before rest, ((empty.run before).backend.unplug id).2 = true →
        .attached ∉ (empty.run before).heard id →
        (empty.run (before ++ .unplug id :: rest)).heard id = []) ∧
      ∀ before rest, id ∈ (empty.run before).assigned →
        (empty.run (before ++ .shutdown :: rest)).heard id = (empty.run before).heard id := by
  refine ⟨?_, ?_, ?_⟩
  · intro calls
    obtain ⟨standing, reaches⟩ := exists_reaches calls id
    exact reaches.course.lifecycle
  · intro before rest unplugged unheard
    obtain ⟨standing, reaches⟩ := exists_reaches before id
    obtain ⟨entry, announced, waiting, rfl, taken⟩ := reaches.unplug unplugged
    cases announced with
    | true => exact absurd (reaches.course.announced_iff.mp rfl) unheard
    | false =>
      have nothing : (empty.run before).heard id = [] := by
        rw [Effect.heard, reaches.course.unheard]
        rfl
      rw [List.append_cons, taken.heard_of_gone rest, heard_append, nothing]
      simp [run, perform, Effect.heard]
  · intro before rest given
    obtain ⟨standing, reaches⟩ := exists_reaches before id
    have cleared : Reaches (before ++ [.shutdown]) id .gone := by
      have next : Reaches (before ++ [.shutdown]) id standing.cleared :=
        reaches.call reaches.stands.clear .shutdown
      cases standing with
      | absent => exact absurd given (reaches.absent_iff.mp rfl)
      | present | unplugged | gone => exact next
    rw [List.append_cons, cleared.heard_of_gone rest, heard_append]
    simp [run, perform, Effect.heard]

/-- Two pads of which the first leaves before anybody was told of it. -/
example :
    let pad : Call := .attach ((VirtualPad.named "Pad").buttons 1) (.buttons 1 (.named "Pad"))
    let calls := [pad, pad, .press 0 0, .press 1 0, .unplug 0, .process, .detect, .detach 1]
    (empty.run calls).heard 0 = [] ∧
      (empty.run (calls ++ [.process])).heard 1 = [.attached, .button 0 true, .removed] := by
  decide

end GamepadInput.VirtualBackend
