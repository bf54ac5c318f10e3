import GamepadInput.Proofs.IoKit.Pump
import GamepadInput.Proofs.Run

/-!
# Runs of the macOS backend

A call handles the callbacks of its pump and then does something to the hub (`perform_pumped`).  So a
run is a path of its hub, on which every state is sound.
-/

namespace GamepadInput.IoKit

/-- A call of the host, with what the manager's passes bring during it. -/
inductive Call where
  | start (manager : Option (List (List Callback)))
  | detect (passes : List (List Callback))
  | process (passes : List (List Callback))
  | shutdown

namespace Call

def passes : Call → List (List Callback)
  | start manager => manager.getD []
  | detect passes | process passes => passes
  | shutdown => []

/-- Whatever comes in fits 32 bits. -/
def Fits (call : Call) : Prop := ∀ callback ∈ call.passes.flatten, callback.Fits

instance (call : Call) : Decidable call.Fits :=
  inferInstanceAs (Decidable (∀ callback ∈ call.passes.flatten, callback.Fits))

/-- The call pumps the run loop. -/
def pumps (isOpen : Bool) : Call → Bool
  | start _ => !isOpen
  | detect _ | process _ => isOpen
  | shutdown => false

/-- Callbacks that come in during the call. -/
def handled (call : Call) (backend : Backend) : List Callback :=
  if call.pumps backend.isOpen then (call.passes.take pumpLimit).flatten else []

/-- What the call does once its pump is over. -/
def finish (hub : Hub Pad) : Call → Hub Pad × List Notice
  | start _ => (hub, [])
  | detect _ => (hub.dispatchDevices.1, Dispatch.notices hub.dispatchDevices.2)
  | process _ => (hub.dispatchAnnounced.1, Dispatch.notices hub.dispatchAnnounced.2)
  | shutdown => (hub.clear, [])

theorem Fits.handled {call : Call} (fits : call.Fits) (backend : Backend) :
    ∀ callback ∈ call.handled backend, callback.Fits := by
  intro callback member
  unfold Call.handled at member
  split at member
  · obtain ⟨pass, among, inside⟩ := List.mem_flatten.mp member
    exact fits callback (List.mem_flatten.mpr ⟨pass, List.mem_of_mem_take among, inside⟩)
  · cases member

end Call

namespace Backend

/-- One call.  A host goes on if no manager could be made. -/
def perform (backend : Backend) : Call → Except Overflow (Outcome Backend)
  | .start manager =>
    match backend.start manager with
    | .ok started => .ok ⟨started, []⟩
    | .error (.refused _) => .ok ⟨backend, []⟩
    | .error (.overflow cause) => .error cause
  | .detect passes => do
    let (backend, notices) ← backend.detect passes
    pure ⟨backend, notices⟩
  | .process passes => do
    let (backend, notices) ← backend.process passes
    pure ⟨backend, notices⟩
  | .shutdown => .ok ⟨backend.shutdown, []⟩

/-- Calls in order. -/
abbrev run (backend : Backend) (calls : List Call) : Except Overflow (Outcome Backend) :=
  runAll perform backend calls

/-! ## One call -/

variable {backend : Backend} {call : Call} {pumped : Hub Pad}

theorem pump_ok {passes : List (List Callback)}
    (received : receiveAll backend.hub
      (if backend.isOpen then (passes.take pumpLimit).flatten else []) = .ok pumped) :
    backend.pump passes = .ok { backend with hub := pumped } := by
  unfold pump
  split
  · rename_i opened
    rw [if_pos opened] at received
    rw [received]
    rfl
  · rename_i closed
    rw [if_neg closed] at received
    cases received
    rfl

/-- A call is its pump and what follows it. -/
theorem perform_pumped (received : receiveAll backend.hub (call.handled backend) = .ok pumped) :
    ∃ after, backend.perform call = .ok ⟨after, (call.finish pumped).2⟩ ∧
      after.hub = (call.finish pumped).1 := by
  cases call with
  | shutdown =>
    cases received
    exact ⟨backend.shutdown, rfl, rfl⟩
  | detect passes =>
    have done : backend.pump passes = .ok { backend with hub := pumped } := pump_ok received
    refine ⟨{ backend with hub := pumped.dispatchDevices.1 }, ?_, rfl⟩
    rw [perform, detect, done]
    rfl
  | process passes =>
    have done : backend.pump passes = .ok { backend with hub := pumped } := pump_ok received
    refine ⟨{ backend with hub := pumped.dispatchAnnounced.1 }, ?_, rfl⟩
    rw [perform, process, done]
    rfl
  | start manager =>
    unfold Call.handled Call.pumps at received
    cases opened : backend.isOpen with
    | true =>
      rw [opened] at received
      cases received
      exact ⟨backend, by simp [perform, start, opened, Call.finish], rfl⟩
    | false =>
      rw [opened] at received
      cases manager with
      | none =>
        cases received
        exact ⟨backend, by simp [perform, start, opened, Call.finish], rfl⟩
      | some passes =>
        have done : { backend with isOpen := true }.pump passes = .ok ⟨pumped, true⟩ :=
          pump_ok received
        exact ⟨⟨pumped, true⟩, by simp [perform, start, opened, done, Except.mapError, Call.finish], rfl⟩

theorem path_finish (hub : Hub Pad) (call : Call) :
    Hub.Path hub (call.finish hub).2 (call.finish hub).1 := by
  cases call with
  | start manager => exact .nil
  | detect passes => exact .single (Hub.Carries.dispatchDevices hub)
  | process passes => exact .single (Hub.Carries.dispatchAnnounced hub)
  | shutdown => exact .clear .nil

theorem Sound.finish {hub : Hub Pad} (sound : Sound hub) (call : Call) :
    Sound (call.finish hub).1 := by
  have kept : (call.finish hub).1.registry.kept.Sublist hub.registry.kept := by
    cases call with
    | start manager => exact List.Sublist.refl _
    | detect passes => exact hub.kept_dispatchDevices
    | process passes => exact hub.kept_dispatchAnnounced
    | shutdown => exact List.nil_sublist _
  refine sound.of_sublist kept fun id => ?_
  obtain ⟨standing, heard, stands, story⟩ := sound.told id
  obtain ⟨next, arrives, tale⟩ := (path_finish hub call).story stands story
  exact ⟨next, _, arrives, tale⟩

/-- A call of 32 bits succeeds, and leaves a sound hub. -/
theorem Sound.perform (sound : Sound backend.hub) (fits : call.Fits) :
    ∃ done, backend.perform call = .ok done ∧ Sound done.backend.hub ∧
      Hub.Path backend.hub done.notices done.backend.hub := by
  obtain ⟨pumped, received, kept⟩ := sound.receiveAll (fits.handled backend)
  obtain ⟨after, performed, hub⟩ := perform_pumped received
  have path := (Hub.Path.single (carries_receiveAll received)).append (path_finish pumped call)
  rw [← hub] at path
  exact ⟨_, performed, hub ▸ kept.finish call, path⟩

/-- So does a run. -/
theorem Sound.run {calls : List Call} (sound : Sound backend.hub)
    (fits : ∀ call ∈ calls, call.Fits) :
    ∃ done, backend.run calls = .ok done ∧ Sound done.backend.hub ∧
      Hub.Path backend.hub done.notices done.backend.hub :=
  runAll_ok (fun backend : Backend => Sound backend.hub) Call.Fits
    (fun (backend : Backend) notices (after : Backend) =>
      Hub.Path backend.hub notices after.hub)
    (fun _ => .nil) .append
    (fun _ _ sound fits => sound.perform fits) sound fits

end Backend

end GamepadInput.IoKit
