import GamepadInput.Event

/-!
# Button states

What the producer of a device's events knows of its buttons.  A button that is where it should be
already reports nothing, so the events of each button alternate.
-/

namespace GamepadInput

/-- Which buttons are down, by number. -/
abbrev Buttons := Array Bool

namespace Buttons

def atRest (count : Nat) : Buttons := .replicate count false

/-- Brings a button down or up and reports it, if there is such a button and it is not there. -/
def press (buttons : Buttons) (index : Nat) (down : Bool) : Buttons × List EventKind :=
  if buttons[index]? = some !down then
    (buttons.setIfInBounds index down, [.button index down])
  else (buttons, [])

@[simp] theorem size_press (buttons : Buttons) (index : Nat) (down : Bool) :
    (buttons.press index down).1.size = buttons.size := by
  unfold press
  split <;> simp

theorem getElem?_press (buttons : Buttons) (index : Nat) (down : Bool) (place : Nat) :
    (buttons.press index down).1[place]? =
      if place = index then buttons[place]?.map fun _ => down else buttons[place]? := by
  unfold press
  split
  · rename_i held
    have inside := (Array.getElem?_eq_some_iff.mp held).1
    rw [Array.getElem?_setIfInBounds]
    split
    · rename_i mine
      subst mine
      simp [inside]
    · rename_i other
      rw [if_neg fun same => other same.symm]
  · rename_i idle
    split
    · rename_i mine
      subst mine
      cases held : buttons[place]? with
      | none => rfl
      | some now =>
        rw [held] at idle
        cases now <;> cases down <;> simp_all
    · rfl

/-- A button that is where it should be reports nothing. -/
theorem press_of_held {buttons : Buttons} {index : Nat} {down : Bool}
    (held : buttons[index]? = some down) : buttons.press index down = (buttons, []) := by
  rw [press, held, if_neg]
  simp

theorem isInput_of_mem_press {buttons : Buttons} {index : Nat} {down : Bool} {kind : EventKind}
    (reported : kind ∈ (buttons.press index down).2) : kind.isInput = true := by
  unfold press at reported
  split at reported
  · rw [List.mem_singleton.mp reported]
    rfl
  · cases reported

end Buttons

end GamepadInput
