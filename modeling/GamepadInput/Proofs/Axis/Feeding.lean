import GamepadInput.Proofs.Axis.Bounds
import GamepadInput.Proofs.Axis.Unit
import GamepadInput.Proofs.Axis.Wiring
import GamepadInput.Proofs.Axis.Zero
import GamepadInput.Proofs.Device.Differences

/-!
# What a sample makes of the slots of its control

Values that samples are mapped to are the same whenever they are equal (`Binary32.IsPlain`).  So a
sample of a control leaves in the control's slots what it is mapped to, leaves all other slots as
they are, and reports the differences (`Layout.exists_feed`).
-/

namespace GamepadInput

open Axis

/-! ## Plain values -/

/-- A number, and not the negative zero. -/
structure Binary32.IsPlain (value : Binary32) : Prop where
  number : value.isNaN = false
  unsigned : value.isNegativeZero = false

namespace Binary32.IsPlain

variable {value other : Binary32}

theorem zero : IsPlain 0 := ⟨rfl, rfl⟩

theorem of_inUnit (inUnit : value.InUnit) (unsigned : value.isNegativeZero = false) :
    IsPlain value := by
  refine ⟨?_, unsigned⟩
  cases value with
  | nan => cases inUnit.2
  | number => rfl

theorem equals_iff (plain : IsPlain value) (plain' : IsPlain other) :
    value.equals other = true ↔ value = other := by
  refine ⟨fun equal => Binary.eq_of_equals equal plain.unsigned plain'.unsigned, ?_⟩
  rintro rfl
  obtain ⟨place, here⟩ := Binary.exists_position? plain.number
  simp [Binary.equals, here]

theorem linear {raw min max : Int} (mapped : Axis.linear raw min max = .ok value) :
    IsPlain value :=
  of_inUnit (inUnit_linear mapped) (isNegativeZero_linear mapped)

theorem of_mem_steps (member : value ∈ steps) : IsPlain value :=
  forall_mem_steps_iff.mpr ⟨⟨rfl, rfl⟩, zero, ⟨rfl, rfl⟩⟩ value member

theorem hatSample {min max raw : Int} {x y : Binary32}
    (sampled : Layout.hatSample min max raw = .ok (x, y)) : IsPlain x ∧ IsPlain y := by
  obtain ⟨across, along⟩ := Layout.mem_steps_of_hatSample sampled
  exact ⟨of_mem_steps across, of_mem_steps along⟩

end Binary32.IsPlain

namespace Axis.Layout

variable {layout after : Layout} {axis : Nat} {value : Binary32}

/-- Every slot holds a plain value. -/
def Plain (layout : Layout) : Prop :=
  ∀ (axis : Nat) (slot : Slot), layout.slots[axis]? = some slot → slot.value.IsPlain

theorem IsAtRest.plain (rest : layout.IsAtRest) : layout.Plain := by
  intro axis slot here
  have value : layout.values[axis]? = some slot.value := by
    rw [getElem?_values, here, Option.map_some]
  rw [rest, Array.getElem?_replicate] at value
  obtain ⟨-, zero⟩ := Option.ite_none_right_eq_some.mp value
  exact Option.some.inj zero ▸ .zero

/-! ## Setting a slot -/

variable {slot : Slot}

/-- A plain value is what the slot holds afterwards. -/
theorem getElem?_set (here : layout.slots[axis]? = some slot) (plain : slot.value.IsPlain)
    (plain' : value.IsPlain) (place : Nat) :
    (layout.set axis value).1.slots[place]? =
      if place = axis then some { slot with value } else layout.slots[place]? := by
  simp only [set, here]
  split
  · rename_i equal
    split
    · rename_i mine
      rw [mine, here, ← (plain.equals_iff plain').mp equal]
    · rfl
  · rw [Array.getElem?_setIfInBounds]
    split
    · rename_i mine
      rw [if_pos mine.symm, if_pos (Array.getElem?_eq_some_iff.mp here).1]
    · rename_i other
      rw [if_neg fun same => other same.symm]

theorem changes_set (here : layout.slots[axis]? = some slot) (plain : slot.value.IsPlain)
    (plain' : value.IsPlain) :
    (layout.set axis value).2.map .axis = (move? axis slot { slot with value }).toList := by
  have same := plain.equals_iff plain'
  simp only [set, here, move?]
  by_cases equal : slot.value = value
  · rw [if_pos (same.mpr equal), if_pos equal]
    rfl
  · rw [if_neg fun equals => equal (same.mp equals), if_neg equal]
    rfl

theorem Plain.set (plain : layout.Plain) (axis : Nat) (plain' : value.IsPlain) :
    (layout.set axis value).1.Plain := by
  cases here : layout.slots[axis]? with
  | none => simpa only [Layout.set, here] using plain
  | some slot =>
    intro place other there
    rw [getElem?_set here (plain axis slot here) plain'] at there
    split at there
    · cases there
      exact plain'
    · exact plain place other there

theorem Plain.setRange (plain : layout.Plain) (here : layout.slots[axis]? = some slot)
    (range : Range) : (layout.setRange axis range).Plain := by
  intro place other there
  rw [getElem?_setRange here] at there
  split at there
  · cases there
    exact plain axis slot here
  · exact plain place other there

end Axis.Layout

/-! ## A sample of a control -/

namespace Axis

/-- Number of slots of a control. -/
def Source.width : Source → Nat
  | .hat _ _ => 2
  | .linear _ | .hatSecond => 1

/-- What is behind the slots of a control. -/
def Source.wires (cookie : Nat) (source : Source) : List (Nat × Source) :=
  (cookie, source) :: if source.width = 2 then [(cookie, .hatSecond)] else []

@[simp] theorem Source.length_wires (cookie : Nat) (source : Source) :
    (source.wires cookie).length = source.width := by
  cases source <;> rfl

namespace Layout

variable {before after : Layout} {first cookie : Nat} {raw : Int}

/-- The slots of a control from `first` on before and after the sample `raw`. -/
inductive Takes (before after : Layout) (first cookie : Nat) (raw : Int) : Source → Prop where
  /-- The slot holds the value of the sample in the range, widened by it if it calibrates. -/
  | linear {range : Range} {last value : Binary32}
      (here : before.slots[first]? = some ⟨cookie, .linear range, last⟩)
      (mapped : (range.widen raw).normalize raw = .ok value)
      (there : after.slots[first]? = some ⟨cookie, .linear (range.widen raw), value⟩) :
      Takes before after first cookie raw (.linear range.fixed)
  /-- The two slots hold the direction of the sample. -/
  | hat {min max : Int} {lastX lastY x y : Binary32}
      (here : before.slots[first]? = some ⟨cookie, .hat min max, lastX⟩)
      (next : before.slots[first + 1]? = some ⟨cookie, .hatSecond, lastY⟩)
      (sampled : hatSample min max raw = .ok (x, y))
      (there : after.slots[first]? = some ⟨cookie, .hat min max, x⟩)
      (thereNext : after.slots[first + 1]? = some ⟨cookie, .hatSecond, y⟩) :
      Takes before after first cookie raw (.hat min max)

/-- Whether slots hold what a sample makes of them is seen from these slots alone. -/
theorem Takes.congr {before' after' : Layout} {source : Source}
    (takes : Takes before after first cookie raw source)
    (same : ∀ place, first ≤ place → place < first + source.width →
      before'.slots[place]? = before.slots[place]?)
    (same' : ∀ place, first ≤ place → place < first + source.width →
      after'.slots[place]? = after.slots[place]?) :
    Takes before' after' first cookie raw source := by
  cases takes with
  | linear here mapped there =>
    have inside : first < first + 1 := by omega
    exact .linear ((same first (by omega) inside).trans here) mapped
      ((same' first (by omega) inside).trans there)
  | hat here next sampled there thereNext =>
    have inside : first < first + 2 := by omega
    have inside' : first + 1 < first + 2 := by omega
    exact .hat ((same first (by omega) inside).trans here)
      ((same (first + 1) (by omega) inside').trans next) sampled
      ((same' first (by omega) inside).trans there)
      ((same' (first + 1) (by omega) inside').trans thereNext)

theorem takes_linear {range : Range} {last value : Binary32} (plain : before.Plain)
    (here : before.slots[first]? = some ⟨cookie, .linear range, last⟩)
    (mapped : (range.widen raw).normalize raw = .ok value) :
    let set := (before.setRange first (range.widen raw)).set first value
    set.1.Plain ∧ Takes before set.1 first cookie raw (.linear range.fixed) ∧
      Rewrites move? first 1 before.slots set.1.slots (set.2.map .axis) := by
  intro set
  have plainRange := plain.setRange here (range.widen raw)
  have ranged := getElem?_setRange here (range.widen raw)
  have here' : (before.setRange first (range.widen raw)).slots[first]? =
      some ⟨cookie, .linear (range.widen raw), last⟩ := by rw [ranged, if_pos rfl]
  have plain' : value.IsPlain := .linear mapped
  have stored := getElem?_set here' (plainRange _ _ here') plain'
  have there : set.1.slots[first]? = some ⟨cookie, .linear (range.widen raw), value⟩ := by
    rw [stored, if_pos rfl]
  refine ⟨plainRange.set first plain', .linear here mapped there, ?_⟩
  rw [changes_set here' (plainRange _ _ here') plain']
  -- The report compares values only, and setting the range keeps them.
  change Rewrites move? first 1 before.slots set.1.slots (move? first
    ⟨cookie, .linear range, last⟩ ⟨cookie, .linear (range.widen raw), value⟩).toList
  refine .one ?_ (fun place other => by rw [stored, if_neg other, ranged, if_neg other]) here there
  exact (size_set _ _ _).trans (by simp [setRange, size])

theorem takes_hat {min max : Int} {lastX lastY x y : Binary32} (plain : before.Plain)
    (here : before.slots[first]? = some ⟨cookie, .hat min max, lastX⟩)
    (next : before.slots[first + 1]? = some ⟨cookie, .hatSecond, lastY⟩)
    (sampled : hatSample min max raw = .ok (x, y)) :
    let one := before.set first x
    let two := one.1.set (first + 1) y
    two.1.Plain ∧ Takes before two.1 first cookie raw (.hat min max) ∧
      Rewrites move? first 2 before.slots two.1.slots ((one.2 ++ two.2).map .axis) := by
  intro one two
  obtain ⟨plainX, plainY⟩ := Binary32.IsPlain.hatSample sampled
  have plainOne : one.1.Plain := plain.set first plainX
  have storedX := getElem?_set here (plain _ _ here) plainX
  have thereX : one.1.slots[first]? = some ⟨cookie, .hat min max, x⟩ := by rw [storedX, if_pos rfl]
  have next' : one.1.slots[first + 1]? = some ⟨cookie, .hatSecond, lastY⟩ := by
    rw [storedX, if_neg (by omega), next]
  have storedY := getElem?_set next' (plainOne _ _ next') plainY
  have thereY : two.1.slots[first + 1]? = some ⟨cookie, .hatSecond, y⟩ := by
    rw [storedY, if_pos rfl]
  refine ⟨plainOne.set _ plainY, .hat here next sampled ?_ thereY, ?_⟩
  · rw [storedY, if_neg (by omega), thereX]
  · rw [List.map_append, changes_set here (plain _ _ here) plainX,
      changes_set next' (plainOne _ _ next') plainY]
    have firstOne : Rewrites move? first 1 before.slots one.1.slots _ :=
      .one (size_set before first x) (fun place other => by rw [storedX, if_neg other]) here thereX
    have secondOne : Rewrites move? (first + 1) 1 one.1.slots two.1.slots _ :=
      .one (size_set one.1 (first + 1) y) (fun place other => by rw [storedY, if_neg other]) next'
        thereY
    exact firstOne.append secondOne

/-- A sample that fits is fed to its control. -/
theorem exists_feed (bounded : before.Bounded) (plain : before.Plain) (fits : Fits32 raw)
    {source : Source} (control : source ≠ .hatSecond) {ahead behind : List (Nat × Source)}
    (wired : before.wires = ahead ++ (source.wires cookie ++ behind)) :
    ∃ after changes, before.feed ahead.length raw = .ok (after, changes) ∧ after.Bounded ∧
      after.Plain ∧ after.wires = before.wires ∧
      Takes before after ahead.length cookie raw source ∧
      Rewrites move? ahead.length source.width before.slots after.slots (changes.map .axis) := by
  obtain ⟨after, changes, fed, bounded'⟩ := bounded.feed ahead.length fits
  have feeds := feeds_of_feed fed
  refine ⟨after, changes, fed, bounded', ?_⟩
  rw [and_left_comm]
  refine ⟨feeds.wires_eq, ?_⟩
  have head : before.wires[ahead.length]? = some (cookie, source) := by
    rw [wired, List.getElem?_append_right (Nat.le_refl _), Nat.sub_self]
    rfl
  obtain ⟨slot, here, rfl, rfl⟩ := slot_of_wire head
  obtain ⟨cookie, source, last⟩ := slot
  cases feeds with
  | outside absent =>
    rw [absent] at here
    cases here
  | second found kind =>
    cases here.symm.trans found
    exact absurd kind (by simpa using control)
  | linear found kind mapped =>
    cases here.symm.trans found
    cases kind
    exact takes_linear plain here mapped
  | hat found kind sampled =>
    cases here.symm.trans found
    cases kind
    rename_i min max x y
    have second : before.wires[ahead.length + 1]? = some (cookie, .hatSecond) := by
      rw [wired, List.getElem?_append_right (Nat.le_add_right _ _), Nat.add_sub_cancel_left]
      rfl
    obtain ⟨⟨cookie', source', lastY⟩, next, sameCookie, sameSource⟩ := slot_of_wire second
    cases sameCookie
    cases Source.fixed_eq_hatSecond_iff.mp sameSource
    exact takes_hat plain here next sampled

end Layout

end Axis

end GamepadInput
