import GamepadInput.Notice
import GamepadInput.Overflow

/-!
# Calls in order

A host makes one call of a backend after the other, and what listeners hear adds up.
-/

namespace GamepadInput

/-- A backend after calls, and what listeners heard meanwhile. -/
structure Outcome (β : Type) where
  backend : β
  notices : List Notice

variable {β κ : Type} {perform : β → κ → Except Overflow (Outcome β)} {backend : β} {call : κ}
  {calls first second : List κ} {there next : Outcome β}

/-- Makes calls in order. -/
def runAll (perform : β → κ → Except Overflow (Outcome β)) (backend : β) :
    List κ → Except Overflow (Outcome β)
  | [] => .ok ⟨backend, []⟩
  | call :: rest => do
    let first ← perform backend call
    let others ← runAll perform first.backend rest
    pure ⟨others.backend, first.notices ++ others.notices⟩

theorem runAll_cons (performed : perform backend call = .ok there)
    (ran : runAll perform there.backend calls = .ok next) :
    runAll perform backend (call :: calls) = .ok ⟨next.backend, there.notices ++ next.notices⟩ := by
  simp only [runAll, performed, ran, bind, Except.bind, pure, Except.pure]

/-- A run begins with its first call. -/
theorem of_runAll_cons (ran : runAll perform backend (call :: calls) = .ok next) :
    ∃ first others, perform backend call = .ok first ∧
      runAll perform first.backend calls = .ok others ∧ next.backend = others.backend := by
  obtain ⟨first, performed, ran⟩ := exists_of_bind_ok ran
  obtain ⟨others, onward, ran⟩ := exists_of_bind_ok ran
  cases ran
  exact ⟨first, others, performed, onward, rfl⟩

/-- Running on after a run. -/
theorem runAll_append (ran : runAll perform backend first = .ok there)
    (onward : runAll perform there.backend second = .ok next) :
    runAll perform backend (first ++ second) =
      .ok ⟨next.backend, there.notices ++ next.notices⟩ := by
  induction first generalizing backend there with
  | nil =>
    cases ran
    exact onward
  | cons call calls ih =>
    obtain ⟨done, performed, ran⟩ := exists_of_bind_ok ran
    obtain ⟨others, rest, ran⟩ := exists_of_bind_ok ran
    cases ran
    have whole := runAll_cons performed (ih rest onward)
    simpa only [List.cons_append, List.append_assoc] using whole

/-- Calls that each succeed and lead on succeed one after the other, and lead all the way. -/
theorem runAll_ok (Sound : β → Prop) (Fits : κ → Prop) (Leads : β → List Notice → β → Prop)
    (stays : ∀ backend, Leads backend [] backend)
    (onward : ∀ {backend middle after : β} {notices others : List Notice},
      Leads backend notices middle → Leads middle others after →
        Leads backend (notices ++ others) after)
    (each : ∀ (backend : β) (call : κ), Sound backend → Fits call →
      ∃ done, perform backend call = .ok done ∧ Sound done.backend ∧
        Leads backend done.notices done.backend)
    (sound : Sound backend) (fits : ∀ call ∈ calls, Fits call) :
    ∃ done, runAll perform backend calls = .ok done ∧ Sound done.backend ∧
      Leads backend done.notices done.backend := by
  induction calls generalizing backend with
  | nil => exact ⟨⟨backend, []⟩, rfl, sound, stays backend⟩
  | cons call rest ih =>
    obtain ⟨first, performed, kept, leads⟩ := each backend call sound (fits call (by simp))
    obtain ⟨others, ran, ends, leading⟩ := ih kept fun other member => fits other (by simp [member])
    exact ⟨_, runAll_cons performed ran, ends, onward leads leading⟩

end GamepadInput
