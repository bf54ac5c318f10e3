import GamepadInput.Buttons
import Mathlib.Data.List.Basic

/-!
# Reporting differences

The controls of a device stand in an array, and its events tell which of them changed.  A write to
some consecutive places that reports what it changed reports the differences of the array before
and after (`Rewrites`); writes to one run of places after the other do so together
(`Rewrites.append`).
-/

namespace GamepadInput

/-- The event of a button that was up or down before and after, if that differs. -/
def edge? (number : Nat) (last now : Bool) : Option EventKind :=
  if last = now then none else some (.button number now)

/-- The event of an axis slot with a value before and after, if the values differ. -/
def move? (axis : Nat) (last now : Axis.Slot) : Option EventKind :=
  if last.value = now.value then none else some (.axis ⟨axis, now.value, last.value⟩)

section Arrays

variable {α : Type} (report : Nat → α → α → Option EventKind)

/-- The event of one place, if the arrays have it. -/
def difference? (before after : Array α) (place : Nat) : Option EventKind :=
  before[place]?.bind fun last => after[place]?.bind (report place last)

/-- The events of `count` places from `start` on, in order. -/
def differences (start count : Nat) (before after : Array α) : List EventKind :=
  (List.range' start count).filterMap (difference? report before after)

/-- No place changes but the `count` from `start` on, and the events are their differences. -/
structure Rewrites (start count : Nat) (before after : Array α) (kinds : List EventKind) : Prop where
  size_eq : after.size = before.size
  same (place : Nat) : place < start ∨ start + count ≤ place → after[place]? = before[place]?
  kinds_eq : kinds = differences report start count before after

variable {report} {start count : Nat} {before middle after : Array α} {kinds : List EventKind}

theorem difference?_eq {place : Nat} {last now : α} (here : before[place]? = some last)
    (there : after[place]? = some now) :
    difference? report before after place = report place last now := by
  rw [difference?, here, there, Option.bind_some, Option.bind_some]

/-- Places that stay as they are report nothing, if no report is of a place that does not change. -/
theorem Rewrites.refl (silent : ∀ place value, report place value value = none)
    (start count : Nat) (array : Array α) : Rewrites report start count array array [] where
  size_eq := rfl
  same _ _ := rfl
  kinds_eq := by
    symm
    rw [differences, List.filterMap_eq_nil_iff]
    intro place _
    cases here : array[place]? with
    | none => rw [difference?, here, Option.bind_none]
    | some value => rw [difference?_eq here here, silent]

/-- One place. -/
theorem Rewrites.one {last now : α} (size_eq : after.size = before.size)
    (same : ∀ place, place ≠ start → after[place]? = before[place]?)
    (here : before[start]? = some last) (there : after[start]? = some now) :
    Rewrites report start 1 before after (report start last now).toList where
  size_eq := size_eq
  same place outside := same place (by omega)
  kinds_eq := by
    rw [differences, List.range'_one, List.filterMap_cons, difference?_eq here there]
    cases report start last now <;> rfl

/-- A run of places, and the run after it. -/
theorem Rewrites.append {more : Nat} {others : List EventKind}
    (first : Rewrites report start count before middle kinds)
    (second : Rewrites report (start + count) more middle after others) :
    Rewrites report start (count + more) before after (kinds ++ others) where
  size_eq := second.size_eq.trans first.size_eq
  same place outside := by
    rw [second.same place (by omega), first.same place (by omega)]
  kinds_eq := by
    rw [differences, ← List.range'_append_1, List.filterMap_append, first.kinds_eq, second.kinds_eq,
      differences, differences]
    congr 1
    · refine List.filterMap_congr fun place inside => ?_
      rw [List.mem_range'_1] at inside
      rw [difference?, difference?, second.same place (by omega)]
    · refine List.filterMap_congr fun place inside => ?_
      rw [List.mem_range'_1] at inside
      rw [difference?, difference?, first.same place (by omega)]

/-- All of an array. -/
theorem Rewrites.all (rewrites : Rewrites report 0 before.size before after kinds) :
    kinds = (List.range before.size).filterMap (difference? report before after) := by
  rw [List.range_eq_range', rewrites.kinds_eq, differences]

end Arrays

@[simp] theorem edge?_self (number : Nat) (down : Bool) : edge? number down down = none :=
  if_pos rfl

@[simp] theorem move?_self (axis : Nat) (slot : Axis.Slot) : move? axis slot slot = none :=
  if_pos rfl

/-- A button that exists is brought down or up. -/
theorem Buttons.rewrites_press {buttons : Buttons} {index : Nat} (inside : index < buttons.size)
    (down : Bool) :
    Rewrites edge? index 1 buttons (buttons.press index down).1 (buttons.press index down).2 ∧
      (buttons.press index down).1[index]? = some down := by
  have here : buttons[index]? = some buttons[index] := Array.getElem?_eq_getElem inside
  have there : (buttons.press index down).1[index]? = some down := by
    rw [getElem?_press, if_pos rfl, here, Option.map_some]
  have reported : (buttons.press index down).2 = (edge? index buttons[index] down).toList := by
    rw [press, edge?, here]
    cases buttons[index] <;> cases down <;> rfl
  refine ⟨?_, there⟩
  rw [reported]
  exact .one (size_press buttons index down)
    (fun place other => by rw [getElem?_press, if_neg other]) here there

end GamepadInput
