import GamepadInput.Axis.Layout

/-!
# What feeds the slots of a layout

The controls behind the slots are laid down when a layout is built.  Samples change values, and how
far calibrating ranges reach, but no control (`Layout.Feeds.wires_eq`); so a control is found where
it was put (`Layout.find?_eq`).
-/

namespace GamepadInput.Axis

/-- The range without what samples change in it: how far it reaches while it calibrates. -/
def Range.fixed (range : Range) : Range := if range.calibrating then growing 0 0 else range

@[simp] theorem Range.fixed_declared (min max : Int) :
    (declared min max).fixed = declared min max := rfl

@[simp] theorem Range.fixed_widen (range : Range) (sample : Int) :
    (range.widen sample).fixed = range.fixed := by
  unfold fixed
  rw [widen_calibrating]
  split
  · rfl
  · rename_i declared
    simp [widen, declared]

/-- A source without what samples change in it. -/
def Source.fixed : Source → Source
  | .linear range => .linear range.fixed
  | .hat min max => .hat min max
  | .hatSecond => .hatSecond

@[simp] theorem Source.fixed_eq_hatSecond_iff {source : Source} :
    source.fixed = .hatSecond ↔ source = .hatSecond := by
  cases source <;> simp [fixed]

@[simp] theorem Source.fixed_eq_hat_iff {source : Source} {min max : Int} :
    source.fixed = .hat min max ↔ source = .hat min max := by
  cases source <;> simp [fixed]

/-- The control behind a slot, and how it is fed. -/
def Slot.wire (slot : Slot) : Nat × Source := (slot.cookie, slot.source.fixed)

namespace Layout

variable {layout after : Layout} {axis : Nat} {raw : Int} {changes : List Change}

/-! ## One sample -/

/-- What a raw sample does to a layout, by what feeds the slot. -/
inductive Feeds (layout : Layout) (axis : Nat) (raw : Int) : Layout → List Change → Prop where
  | outside (absent : layout.slots[axis]? = none) : Feeds layout axis raw layout []
  | linear {slot : Slot} {range : Range} {value : Binary32}
      (here : layout.slots[axis]? = some slot) (source : slot.source = .linear range)
      (mapped : (range.widen raw).normalize raw = .ok value) :
      Feeds layout axis raw ((layout.setRange axis (range.widen raw)).set axis value).1
        ((layout.setRange axis (range.widen raw)).set axis value).2
  | hat {slot : Slot} {min max : Int} {x y : Binary32} (here : layout.slots[axis]? = some slot)
      (source : slot.source = .hat min max) (sampled : hatSample min max raw = .ok (x, y)) :
      Feeds layout axis raw ((layout.set axis x).1.set (axis + 1) y).1
        ((layout.set axis x).2 ++ ((layout.set axis x).1.set (axis + 1) y).2)
  | second {slot : Slot} (here : layout.slots[axis]? = some slot)
      (source : slot.source = .hatSecond) : Feeds layout axis raw layout []

theorem feeds_of_feed (fed : layout.feed axis raw = .ok (after, changes)) :
    layout.Feeds axis raw after changes := by
  cases here : layout.slots[axis]? with
  | none =>
    simp only [feed, here, Except.ok.injEq, Prod.mk.injEq] at fed
    obtain ⟨rfl, rfl⟩ := fed
    exact .outside here
  | some slot =>
    cases source : slot.source with
    | linear range =>
      simp only [feed, here, source, Range.observe] at fed
      obtain ⟨value, mapped, fed⟩ := exists_of_bind_ok fed
      obtain ⟨rfl, rfl⟩ := Prod.ext_iff.mp (Except.ok.inj fed)
      exact .linear here source mapped
    | hat min max =>
      simp only [feed, here, source] at fed
      obtain ⟨⟨x, y⟩, sampled, fed⟩ := exists_of_bind_ok fed
      obtain ⟨rfl, rfl⟩ := Prod.ext_iff.mp (Except.ok.inj fed)
      exact .hat here source sampled
    | hatSecond =>
      simp only [feed, here, source, Except.ok.injEq, Prod.mk.injEq] at fed
      obtain ⟨rfl, rfl⟩ := fed
      exact .second here source

/-! ## Controls -/

/-- What is behind the slots, in order. -/
def wires (layout : Layout) : List (Nat × Source) := layout.slots.toList.map Slot.wire

theorem getElem?_wires (layout : Layout) (axis : Nat) :
    layout.wires[axis]? = layout.slots[axis]?.map Slot.wire := by
  simp [wires]

@[simp] theorem length_wires (layout : Layout) : layout.wires.length = layout.size := by
  simp [wires, size]

/-- A slot with what is behind it. -/
theorem slot_of_wire {wire : Nat × Source} (wired : layout.wires[axis]? = some wire) :
    ∃ slot, layout.slots[axis]? = some slot ∧
      slot.cookie = wire.1 ∧ slot.source.fixed = wire.2 := by
  rw [getElem?_wires] at wired
  obtain ⟨slot, here, rfl⟩ := Option.map_eq_some_iff.mp wired
  exact ⟨slot, here, rfl, rfl⟩

theorem size_of_wires (same : after.wires = layout.wires) : after.size = layout.size := by
  rw [← length_wires, same, length_wires]

@[simp] theorem wires_empty : empty.wires = [] := rfl

@[simp] theorem wires_pushLinear (layout : Layout) (cookie : Nat) (range : Range) :
    (layout.pushLinear cookie range).wires = layout.wires ++ [(cookie, .linear range.fixed)] := by
  simp [wires, pushLinear, Slot.wire, Source.fixed]

@[simp] theorem wires_pushHat (layout : Layout) (cookie : Nat) (min max : Int) :
    (layout.pushHat cookie min max).wires =
      layout.wires ++ [(cookie, .hat min max), (cookie, .hatSecond)] := by
  simp [wires, pushHat, Slot.wire, Source.fixed]

/-- Storing a slot with the same control. -/
theorem wires_of_slots {slot : Slot} (f : Slot → Slot) (here : layout.slots[axis]? = some slot)
    (same : (f slot).wire = slot.wire)
    (stored : ∀ place : Nat, after.slots[place]? =
      if place = axis then some (f slot) else layout.slots[place]?) :
    after.wires = layout.wires := by
  apply List.ext_getElem?
  intro place
  rw [getElem?_wires, getElem?_wires, stored]
  split
  · rename_i mine
    rw [mine, here, Option.map_some, Option.map_some, same]
  · rfl

@[simp] theorem wires_set (layout : Layout) (axis : Nat) (value : Binary32) :
    (layout.set axis value).1.wires = layout.wires := by
  cases here : layout.slots[axis]? with
  | none => simp only [set, here]
  | some slot =>
    simp only [set, here]
    split
    · rfl
    · refine wires_of_slots ({ · with value }) here rfl fun place => ?_
      have inside := (Array.getElem?_eq_some_iff.mp here).1
      simp [Array.getElem?_setIfInBounds, inside, @eq_comm _ axis place]

theorem getElem?_setRange {slot : Slot} (here : layout.slots[axis]? = some slot) (range : Range)
    (place : Nat) :
    (layout.setRange axis range).slots[place]? =
      if place = axis then some { slot with source := .linear range } else layout.slots[place]? := by
  rw [setRange, Array.getElem?_modify]
  split
  · rename_i mine
    rw [if_pos mine.symm, ← mine, here, Option.map_some]
  · rename_i other
    rw [if_neg fun same => other same.symm]

/-- Storing a range of the same kind. -/
theorem wires_setRange {slot : Slot} {range now : Range} (here : layout.slots[axis]? = some slot)
    (source : slot.source = .linear now) (same : range.fixed = now.fixed) :
    (layout.setRange axis range).wires = layout.wires := by
  refine wires_of_slots ({ · with source := .linear range }) here ?_ (getElem?_setRange here range)
  simp [Slot.wire, source, Source.fixed, same]

/-- A sample leaves every control where it is. -/
theorem Feeds.wires_eq (feeds : layout.Feeds axis raw after changes) :
    after.wires = layout.wires := by
  cases feeds with
  | outside | second => rfl
  | linear here source mapped =>
    rw [wires_set, wires_setRange here source (Range.fixed_widen _ _)]
  | hat here source sampled => rw [wires_set, wires_set]

/-! ## Finding a control -/

/-- Where a control is found depends on the controls only. -/
theorem find?_eq (layout : Layout) (cookie : Nat) :
    layout.find? cookie =
      layout.wires.findIdx? fun wire => wire.1 = cookie && wire.2 != .hatSecond := by
  have sameTest : (fun slot : Slot => decide (slot.cookie = cookie) && slot.source != .hatSecond) =
      (fun wire : Nat × Source => decide (wire.1 = cookie) && wire.2 != .hatSecond) ∘ Slot.wire := by
    funext slot
    change (_ && _) = (decide (slot.cookie = cookie) && slot.source.fixed != .hatSecond)
    rw [Bool.eq_iff_iff]
    simp
  rw [find?, sameTest, wires, List.findIdx?_map, ← List.findIdx?_toArray, Array.toArray_toList]

/-- A control is found at the first slot that is fed for it. -/
theorem find?_of_wires {cookie : Nat} {source : Source} {ahead behind : List (Nat × Source)}
    (wired : layout.wires = ahead ++ (cookie, source) :: behind) (control : source ≠ .hatSecond)
    (others : ∀ wire ∈ ahead, wire.1 ≠ cookie) : layout.find? cookie = some ahead.length := by
  have passed : ahead.findIdx? (fun wire => wire.1 = cookie && wire.2 != .hatSecond) = none := by
    rw [List.findIdx?_eq_none_iff]
    intro wire member
    simp [others wire member]
  rw [find?_eq, wired, List.findIdx?_append, passed, List.findIdx?_cons]
  simp [control]

/-- Where a control is found, a slot is fed for it. -/
theorem wire_of_find? {cookie : Nat} (found : layout.find? cookie = some axis) :
    ∃ source, layout.wires[axis]? = some (cookie, source) ∧ source ≠ .hatSecond := by
  rw [find?_eq, List.findIdx?_eq_some_iff_getElem] at found
  obtain ⟨inside, fed, -⟩ := found
  rw [Bool.and_eq_true, decide_eq_true_iff, bne_iff_ne] at fed
  obtain ⟨rfl, control⟩ := fed
  exact ⟨_, List.getElem?_eq_getElem inside, control⟩

theorem find?_congr (same : after.wires = layout.wires) (cookie : Nat) :
    after.find? cookie = layout.find? cookie := by
  rw [find?_eq, find?_eq, same]

/-! ## Values -/

theorem getElem?_values (layout : Layout) (place : Nat) :
    layout.values[place]? = layout.slots[place]?.map (·.value) := by
  simp [values]

@[simp] theorem values_setRange (layout : Layout) (axis : Nat) (range : Range) :
    (layout.setRange axis range).values = layout.values := by
  apply Array.ext_getElem?
  intro place
  simp only [values, setRange, Array.getElem?_map, Array.getElem?_modify]
  split <;> simp [Option.map_map, Function.comp_def]

theorem values_set_other {place : Nat} (other : place ≠ axis) (value : Binary32) :
    (layout.set axis value).1.values[place]? = layout.values[place]? := by
  unfold set
  split
  · rfl
  · split
    · rfl
    · simp [values, Ne.symm other]

/-- Setting a slot reports at most one change. -/
theorem length_set_le (layout : Layout) (axis : Nat) (value : Binary32) :
    (layout.set axis value).2.length ≤ 1 := by
  unfold set
  split
  · simp
  · split <;> simp

/-! ## Layouts at rest -/

/-- Every slot holds zero. -/
def IsAtRest (layout : Layout) : Prop := layout.values = .replicate layout.size 0

theorem isAtRest_empty : empty.IsAtRest := by
  simp [IsAtRest, values, size, empty]

theorem IsAtRest.pushLinear (rest : layout.IsAtRest) (cookie : Nat) (range : Range) :
    (layout.pushLinear cookie range).IsAtRest := by
  have pushed : (layout.pushLinear cookie range).values = layout.values.push 0 := by
    simp [values, Layout.pushLinear]
  rw [IsAtRest, pushed, rest, size_pushLinear, Array.replicate_succ]

theorem IsAtRest.pushHat (rest : layout.IsAtRest) (cookie : Nat) (min max : Int) :
    (layout.pushHat cookie min max).IsAtRest := by
  have pushed : (layout.pushHat cookie min max).values = (layout.values.push 0).push 0 := by
    simp [values, Layout.pushHat]
  rw [IsAtRest, pushed, rest, size_pushHat, Array.replicate_succ, Array.replicate_succ]

end Layout

end GamepadInput.Axis
