/-!
# Checked machine integers

Raw samples and cursor positions are machine integers.  They are held as `Int`, and an operation
that could leave its word is checked: leaving it is an error of that operation.
-/

namespace GamepadInput

/-- The operation whose exact result does not fit its word. -/
inductive Overflow where
  | add
  | subtract
  deriving DecidableEq, Repr

/-- `i` is a signed integer of `width` bits. -/
def FitsWord (width : Nat) (i : Int) : Prop :=
  -((1 <<< (width - 1) : Nat) : Int) ≤ i ∧ i < ((1 <<< (width - 1) : Nat) : Int)

instance (width : Nat) (i : Int) : Decidable (FitsWord width i) :=
  inferInstanceAs (Decidable (_ ∧ _))

def checkedAdd (width : Nat) (a b : Int) : Except Overflow Int :=
  if FitsWord width (a + b) then .ok (a + b) else .error .add

def checkedSub (width : Nat) (a b : Int) : Except Overflow Int :=
  if FitsWord width (a - b) then .ok (a - b) else .error .subtract

theorem checkedAdd_eq_ok_iff {width : Nat} {a b c : Int} :
    checkedAdd width a b = .ok c ↔ FitsWord width (a + b) ∧ c = a + b := by
  unfold checkedAdd
  split <;> simp_all [eq_comm]

theorem checkedSub_eq_ok_iff {width : Nat} {a b c : Int} :
    checkedSub width a b = .ok c ↔ FitsWord width (a - b) ∧ c = a - b := by
  unfold checkedSub
  split <;> simp_all [eq_comm]

/-- A chain of operations that succeeds, one operation and the rest. -/
theorem exists_of_bind_ok {ε α β : Type} {first : Except ε α} {next : α → Except ε β} {result : β}
    (done : first >>= next = .ok result) : ∃ value, first = .ok value ∧ next value = .ok result := by
  cases first with
  | error cause => cases done
  | ok value => exact ⟨value, rfl, done⟩

end GamepadInput
