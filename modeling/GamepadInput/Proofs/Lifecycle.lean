import GamepadInput.Event

/-!
# The life of a device as listeners hear it

Whatever the backend, listeners hear of a device nothing, or one attach, then input, then at most
one removal.
-/

namespace GamepadInput

/-- What can be heard of one device over a whole run. -/
inductive Lifecycle : List EventKind → Prop where
  | unheard : Lifecycle []
  | connected {inputs : List EventKind} (isInput : ∀ kind ∈ inputs, kind.isInput = true) :
      Lifecycle (.attached :: inputs)
  | disconnected {inputs : List EventKind} (isInput : ∀ kind ∈ inputs, kind.isInput = true) :
      Lifecycle (.attached :: inputs ++ [.removed])

/-- Nothing is heard ahead of the attach. -/
theorem Lifecycle.nil_of_attached {ahead after : List EventKind}
    (life : Lifecycle (ahead ++ .attached :: after)) : ahead = [] := by
  cases ahead with
  | nil => rfl
  | cons first rest =>
    have later {inputs : List EventKind} (isInput : ∀ kind ∈ inputs, kind.isInput = true)
        (member : .attached ∈ inputs) : False := by
      cases isInput _ member
    generalize told : first :: rest ++ .attached :: after = kinds at life
    cases life with
    | unheard => cases told
    | @connected inputs isInput =>
      rw [List.cons_append, List.cons.injEq] at told
      exact (later isInput (by simp [← told.2])).elim
    | @disconnected inputs isInput =>
      rw [List.cons_append, List.cons_append, List.cons.injEq] at told
      have member : .attached ∈ inputs ++ [.removed] := by simp [← told.2]
      rcases List.mem_append.mp member with input | last
      · exact (later isInput input).elim
      · cases List.mem_singleton.mp last

end GamepadInput
