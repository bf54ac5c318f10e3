import GamepadInput.Proofs.Axis.Extent

/-!
# Samples of 32 bits do not overflow

Differences are taken in words of 64 bits.  As long as the ranges of a layout and its samples fit 32
bits, signed or not, no difference leaves its word (`Layout.Bounded.feed`); a range that grows with
such samples still fits.
-/

namespace GamepadInput

/-- `i` fits 32 bits, with a sign or without. -/
def Fits32 (i : Int) : Prop := -0x80000000 ≤ i ∧ i < 0x100000000

instance (i : Int) : Decidable (Fits32 i) := inferInstanceAs (Decidable (_ ∧ _))

theorem fitsWord_32 {i : Int} : FitsWord 32 i ↔ -0x80000000 ≤ i ∧ i < 0x80000000 := Iff.rfl

theorem Fits32.of_fitsWord {i : Int} (fits : FitsWord 32 i) : Fits32 i := by
  obtain ⟨low, high⟩ := fitsWord_32.mp fits
  exact ⟨low, by omega⟩

theorem Fits32.sub {a b : Int} (left : Fits32 a) (right : Fits32 b) :
    -0x200000000 < a - b ∧ a - b < 0x200000000 := by
  unfold Fits32 at left right
  omega

theorem Fits32.min {a b : Int} (left : Fits32 a) (right : Fits32 b) : Fits32 (Min.min a b) := by
  unfold Fits32 at *
  omega

theorem Fits32.max {a b : Int} (left : Fits32 a) (right : Fits32 b) : Fits32 (Max.max a b) := by
  unfold Fits32 at *
  omega

namespace Axis

namespace Range

/-- Both ends fit 32 bits. -/
structure Bounded (range : Range) : Prop where
  min : Fits32 range.min
  max : Fits32 range.max

variable {range : Range} {sample : Int}

theorem Bounded.widen (bounded : range.Bounded) (fits : Fits32 sample) :
    (range.widen sample).Bounded := by
  unfold Range.widen
  split
  · exact ⟨bounded.min.min fits, bounded.max.max fits⟩
  · exact bounded

theorem Bounded.accepts (bounded : range.Bounded) (fits : Fits32 sample) :
    range.Accepts sample := by
  have extent := bounded.max.sub bounded.min
  have distance := fits.sub bounded.min
  refine .inr ⟨fitsWord_64.mpr ?_, fitsWord_64.mpr ?_⟩ <;> omega

end Range

/-- Any sample of 32 bits is mapped in a range of 32 bits. -/
theorem linear_ok {value min max : Int} (fits : Fits32 value) (low : Fits32 min)
    (high : Fits32 max) : ∃ result, linear value min max = .ok result :=
  have bounded : (Range.declared min max).Bounded := ⟨low, high⟩
  Range.normalize_ok_iff.mpr (bounded.accepts fits)

namespace Source

/-- The range or the positions of what feeds a slot fit 32 bits. -/
def Bounded : Source → Prop
  | .linear range => range.Bounded
  | .hat min max => Fits32 min ∧ Fits32 max
  | .hatSecond => True

variable {source : Source} {raw : Int}

theorem Bounded.widen (bounded : source.Bounded) (fits : Fits32 raw) :
    (source.widen raw).Bounded := by
  cases source with
  | linear range => exact Range.Bounded.widen bounded fits
  | hat min max => exact bounded
  | hatSecond => trivial

theorem Bounded.accepts (bounded : source.Bounded) (fits : Fits32 raw) : source.Accepts raw := by
  cases source with
  | linear range => exact (Range.Bounded.widen bounded fits).accepts fits
  | hat min max =>
    have extent := bounded.2.sub bounded.1
    have distance := fits.sub bounded.1
    refine ⟨fitsWord_64.mpr ?_, fitsWord_64.mpr ?_, fitsWord_64.mpr ?_⟩ <;> omega
  | hatSecond => trivial

end Source

namespace Layout

/-- Every slot is fed within 32 bits. -/
def Bounded (layout : Layout) : Prop :=
  ∀ (axis : Nat) (slot : Slot), layout.slots[axis]? = some slot → slot.source.Bounded

theorem bounded_empty : empty.Bounded := by
  intro axis slot found
  simp [empty] at found

variable {layout : Layout}

private theorem Bounded.push (bounded : layout.Bounded) {slot : Slot}
    (fits : slot.source.Bounded) : (⟨layout.slots.push slot⟩ : Layout).Bounded := by
  intro axis other found
  rw [Array.getElem?_push] at found
  split at found
  · cases found
    exact fits
  · exact bounded axis other found

theorem Bounded.pushLinear (bounded : layout.Bounded) (cookie : Nat) {range : Range}
    (fits : range.Bounded) : (layout.pushLinear cookie range).Bounded :=
  bounded.push fits

theorem Bounded.pushHat (bounded : layout.Bounded) (cookie : Nat) {min max : Int}
    (low : Fits32 min) (high : Fits32 max) : (layout.pushHat cookie min max).Bounded := by
  have first : (⟨layout.slots.push ⟨cookie, .hat min max, 0⟩⟩ : Layout).Bounded :=
    bounded.push ⟨low, high⟩
  exact first.push trivial

theorem bounded_iff : layout.Bounded ↔ ∀ axis, ∀ source ∈ layout.source? axis, source.Bounded := by
  simp only [Bounded, source?, Option.mem_def, Option.map_eq_some_iff, forall_exists_index, and_imp,
    forall_apply_eq_imp_iff₂]

/-- A sample of 32 bits is fed without overflow. -/
theorem Bounded.feed (bounded : layout.Bounded) (axis : Nat) {raw : Int} (fits : Fits32 raw) :
    ∃ after changes, layout.feed axis raw = .ok (after, changes) ∧ after.Bounded := by
  have sources := bounded_iff.mp bounded
  obtain ⟨after, changes, fed⟩ :=
    feed_ok_iff.mpr fun source here => (sources axis source here).accepts fits
  refine ⟨after, changes, fed, bounded_iff.mpr fun place source there => ?_⟩
  rw [(feeds_of_feed fed).source?_eq] at there
  split at there
  · obtain ⟨before, here, rfl⟩ := Option.map_eq_some_iff.mp there
    exact (sources axis before here).widen fits
  · exact sources place source there

end Layout

end Axis

end GamepadInput
