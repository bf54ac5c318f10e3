import GamepadInput.Proofs.Axis.Directions
import GamepadInput.Proofs.Axis.Wiring

/-!
# Samples whose differences fit

Bounds and samples are words, and so are the differences that map a sample: the extent of its range
and its distance from the lower end.  A sample is fed exactly if they fit (`Layout.feed_ok_iff`).
What feeds a slot changes only by the samples of that slot (`Layout.Feeds.source?_eq`).
-/

namespace GamepadInput

theorem fitsWord_64 {i : Int} :
    FitsWord 64 i ↔ -0x8000000000000000 ≤ i ∧ i < 0x8000000000000000 := Iff.rfl

namespace Axis

/-! ## One sample -/

/-- A sample is mapped in a range that stays as it is: there is nothing to map in a range without
extent, else the extent and the distance fit. -/
def Range.Accepts (range : Range) (sample : Int) : Prop :=
  range.max ≤ range.min ∨
    FitsWord 64 (range.max - range.min) ∧ FitsWord 64 (sample - range.min)

instance (range : Range) (sample : Int) : Decidable (range.Accepts sample) :=
  inferInstanceAs (Decidable (_ ∨ _))

/-- A sample of a hat: the distance and the number of positions fit. -/
def HatAccepts (min max sample : Int) : Prop :=
  FitsWord 64 (sample - min) ∧ FitsWord 64 (max - min) ∧ FitsWord 64 (max - min + 1)

instance (min max sample : Int) : Decidable (HatAccepts min max sample) :=
  inferInstanceAs (Decidable (_ ∧ _))

namespace Source

/-- What feeds the slot takes a sample. -/
def Accepts : Source → Int → Prop
  | .linear range, sample => (range.widen sample).Accepts sample
  | .hat min max, sample => HatAccepts min max sample
  | .hatSecond, _ => True

/-- What feeds the slot after a sample of it. -/
def widen : Source → Int → Source
  | .linear range, sample => .linear (range.widen sample)
  | .hat min max, _ => .hat min max
  | .hatSecond, _ => .hatSecond

end Source

theorem Range.normalize_ok_iff {range : Range} {sample : Int} :
    (∃ value, range.normalize sample = .ok value) ↔ range.Accepts sample := by
  unfold Range.normalize linear Range.Accepts
  by_cases none : range.max ≤ range.min
  · rw [if_pos none]
    exact iff_of_true ⟨0, rfl⟩ (.inl none)
  · rw [if_neg none, or_iff_right none]
    constructor
    · rintro ⟨value, mapped⟩
      obtain ⟨span, extent, mapped⟩ := exists_of_bind_ok mapped
      obtain ⟨offset, distance, -⟩ := exists_of_bind_ok mapped
      exact ⟨(checkedSub_eq_ok_iff.mp extent).1, (checkedSub_eq_ok_iff.mp distance).1⟩
    · rintro ⟨extent, distance⟩
      rw [checkedSub_eq_ok_iff.mpr ⟨extent, rfl⟩, checkedSub_eq_ok_iff.mpr ⟨distance, rfl⟩]
      exact ⟨_, rfl⟩

namespace Layout

variable {layout after : Layout} {axis place : Nat} {min max raw : Int} {changes : List Change}

theorem hatSample_eq_ok_iff {direction : Direction} :
    hatSample min max raw = .ok direction ↔
      HatAccepts min max raw ∧ direction = hatDirection (raw - min) (max - min + 1) := by
  constructor
  · intro sampled
    obtain ⟨position, distance, sampled⟩ := exists_of_bind_ok sampled
    obtain ⟨extent, difference, sampled⟩ := exists_of_bind_ok sampled
    obtain ⟨positions, count, sampled⟩ := exists_of_bind_ok sampled
    obtain ⟨fits, rfl⟩ := checkedSub_eq_ok_iff.mp distance
    obtain ⟨fits', rfl⟩ := checkedSub_eq_ok_iff.mp difference
    obtain ⟨fits'', rfl⟩ := checkedAdd_eq_ok_iff.mp count
    exact ⟨⟨fits, fits', fits''⟩, (Except.ok.inj sampled).symm⟩
  · rintro ⟨⟨distance, extent, count⟩, rfl⟩
    rw [hatSample, checkedSub_eq_ok_iff.mpr ⟨distance, rfl⟩, checkedSub_eq_ok_iff.mpr ⟨extent, rfl⟩]
    dsimp only [bind, Except.bind]
    rw [checkedAdd_eq_ok_iff.mpr ⟨count, rfl⟩]
    rfl

theorem mem_steps_of_hatSample {direction : Direction}
    (sampled : hatSample min max raw = .ok direction) :
    direction.1 ∈ steps ∧ direction.2 ∈ steps := by
  rw [(hatSample_eq_ok_iff.mp sampled).2]
  exact hatDirection_mem_steps _ _

/-- What feeds a slot. -/
def source? (layout : Layout) (place : Nat) : Option Source := layout.slots[place]?.map (·.source)

/-- A layout takes a sample exactly if what feeds the slot does. -/
theorem feed_ok_iff :
    (∃ after changes, layout.feed axis raw = .ok (after, changes)) ↔
      ∀ source ∈ layout.source? axis, source.Accepts raw := by
  cases here : layout.slots[axis]? with
  | none => simp [feed, source?, here]
  | some slot =>
    simp only [source?, here, Option.map_some, Option.mem_some_iff, forall_eq']
    cases kind : slot.source with
    | hatSecond => simp [feed, here, kind, Source.Accepts]
    | linear range =>
      simp only [feed, here, kind, Range.observe, Source.Accepts, ← Range.normalize_ok_iff]
      constructor
      · rintro ⟨after, changes, fed⟩
        obtain ⟨value, mapped, -⟩ := exists_of_bind_ok fed
        exact ⟨value, mapped⟩
      · rintro ⟨value, mapped⟩
        rw [mapped]
        exact ⟨_, _, rfl⟩
    | hat min max =>
      simp only [feed, here, kind, Source.Accepts]
      constructor
      · rintro ⟨after, changes, fed⟩
        obtain ⟨direction, sampled, -⟩ := exists_of_bind_ok fed
        exact (hatSample_eq_ok_iff.mp sampled).1
      · intro accepts
        rw [hatSample_eq_ok_iff.mpr ⟨accepts, rfl⟩]
        exact ⟨_, _, rfl⟩

/-! ## What feeds the slots after a sample -/

@[simp] theorem source?_set (layout : Layout) (axis : Nat) (value : Binary32) (place : Nat) :
    (layout.set axis value).1.source? place = layout.source? place := by
  cases here : layout.slots[axis]? with
  | none => simp only [set, here]
  | some slot =>
    simp only [set, here]
    split
    · rfl
    · simp only [source?, Array.getElem?_setIfInBounds]
      split
      · rename_i mine
        rw [← mine, here, if_pos (Array.getElem?_eq_some_iff.mp here).1]
        rfl
      · rfl

theorem source?_setRange {range now : Range} (here : layout.source? axis = some (.linear now)) :
    (layout.setRange axis range).source? place =
      if place = axis then some (.linear range) else layout.source? place := by
  obtain ⟨slot, found, -⟩ := Option.map_eq_some_iff.mp here
  rw [source?, getElem?_setRange found]
  split <;> rfl

/-- A sample widens what feeds its slot, and nothing else. -/
theorem Feeds.source?_eq (feeds : layout.Feeds axis raw after changes) (place : Nat) :
    after.source? place =
      if place = axis then (layout.source? axis).map (·.widen raw) else layout.source? place := by
  cases feeds with
  | outside absent =>
    split
    · rename_i mine
      simp [mine, source?, absent]
    · rfl
  | @linear slot range value here source mapped =>
    have kind : layout.source? axis = some (.linear range) := by simp [source?, here, source]
    rw [source?_set, source?_setRange kind, kind]
    rfl
  | @hat slot min max x y here source sampled =>
    have kind : layout.source? axis = some (.hat min max) := by simp [source?, here, source]
    rw [source?_set, source?_set, kind]
    split
    · rename_i mine
      rw [mine, kind]
      rfl
    · rfl
  | @second slot here source =>
    have kind : layout.source? axis = some .hatSecond := by simp [source?, here, source]
    split
    · rename_i mine
      rw [mine, kind]
      rfl
    · rfl

end Layout

end Axis

end GamepadInput
