import GamepadInput.Evdev.Stream
import GamepadInput.Proofs.Evdev.Decoding
import GamepadInput.Proofs.Hid.Reading

/-!
# Layouts of real controllers

Evdev nodes and HID interfaces tell ranges and samples in words of 32 bits, with a sign or without.
Whatever such a controller lays out and whatever it reports, in any order, no difference that
normalization takes leaves its word (`NativeLayout.exists_feedAll`); so it is for what a host may lay
out only under a condition on its bounds and samples.
-/

namespace GamepadInput

namespace Axis.Layout

/-- Feeds samples in order, each to the slot it is given with, until one overflows. -/
def feedAll (layout : Layout) : List (Nat × Int) → Except Overflow (Layout × List Change)
  | [] => .ok (layout, [])
  | (axis, raw) :: rest => do
    let (layout, changes) ← layout.feed axis raw
    let (layout, others) ← layout.feedAll rest
    pure (layout, changes ++ others)

/-- Samples of 32 bits are fed to a layout of 32 bits, which stays one. -/
theorem Bounded.feedAll_ok {layout : Layout} (bounded : layout.Bounded)
    {samples : List (Nat × Int)} (fits : ∀ sample ∈ samples, Fits32 sample.2) :
    ∃ after changes, layout.feedAll samples = .ok (after, changes) ∧ after.Bounded := by
  induction samples generalizing layout with
  | nil => exact ⟨layout, [], rfl, bounded⟩
  | cons sample rest ih =>
    obtain ⟨axis, raw⟩ := sample
    obtain ⟨first, later⟩ := List.forall_mem_cons.mp fits
    obtain ⟨middle, changes, fed, bounded⟩ := bounded.feed axis first
    obtain ⟨after, others, fedAll, bounded⟩ := ih bounded later
    refine ⟨after, changes ++ others, ?_, bounded⟩
    simp only [feedAll, fed, fedAll, bind, Except.bind, pure, Except.pure]

end Axis.Layout

open Axis

/-! ## What controllers report -/

/-- The value in a record is a signed word. -/
theorem Evdev.Sample.fitsWord_ofRecord (record : List UInt8) :
    FitsWord 32 (Sample.ofRecord record).value := by
  have count : valueCount = 2 ^ 32 := rfl
  unfold ofRecord
  dsimp only
  rw [count]
  exact fitsWord_bmod 32 _

/-- A number that a HID parser can take from a report: an unsigned word of 32 bits, as it is or as the
two's complement of any size. -/
def Hid.IsSample (raw : Int) : Prop :=
  ∃ (field : ValueField) (value : Nat), value < 0x100000000 ∧ raw = field.sample value

theorem Hid.IsSample.fits32 {raw : Int} (sample : IsSample raw) : Fits32 raw := by
  obtain ⟨field, value, word, rfl⟩ := sample
  unfold ValueField.sample
  split
  · exact fits32_signExtend value field.bitSize
  · exact ⟨by omega, by omega⟩

/-- A layout that a backend builds for a real controller, with the numbers that it can feed to it. -/
inductive NativeLayout : Layout → (Int → Prop) → Prop where
  /-- One slot for each code with a declared range. -/
  | evdev (ranges : List Evdev.CodeRange)
      (words : ∀ range ∈ ranges, FitsWord 32 range.min ∧ FitsWord 32 range.max) :
      NativeLayout (Evdev.Decoder.layoutOf ranges) (FitsWord 32)
  /-- Hats, declared ranges, and ranges that are learned from the samples. -/
  | hid (caps : List Hid.ValueCap)
      (words : ∀ cap ∈ caps, FitsWord 32 cap.logicalMin ∧ FitsWord 32 cap.logicalMax) :
      NativeLayout (Hid.fieldLayout .empty 0 (Hid.valueFields caps)) Hid.IsSample

namespace NativeLayout

variable {layout : Layout} {IsSample : Int → Prop}

theorem bounded (native : NativeLayout layout IsSample) : layout.Bounded := by
  cases native with
  | evdev ranges words =>
    exact Evdev.Decoder.bounded_layoutOf fun range listed =>
      ⟨.of_fitsWord (words range listed).1, .of_fitsWord (words range listed).2⟩
  | hid caps words =>
    exact Hid.bounded_fieldLayout Layout.bounded_empty 0 (Hid.fits_valueFields fun cap listed =>
      ⟨.of_fitsWord (words cap listed).1, .of_fitsWord (words cap listed).2⟩)

theorem fits32 (native : NativeLayout layout IsSample) {raw : Int} (sample : IsSample raw) :
    Fits32 raw := by
  cases native with
  | evdev => exact .of_fitsWord sample
  | hid => exact sample.fits32

/-- A real controller's samples are fed without overflow, whatever they are and wherever they go, and
the ranges that learn from them stay within 32 bits. -/
theorem exists_feedAll (native : NativeLayout layout IsSample) {samples : List (Nat × Int)}
    (given : ∀ sample ∈ samples, IsSample sample.2) :
    ∃ after changes, layout.feedAll samples = .ok (after, changes) ∧ after.Bounded :=
  native.bounded.feedAll_ok fun sample listed => native.fits32 (given sample listed)

/-- A hat over all positions of a word, and an axis without extent that learns the least signed and
the greatest unsigned word. -/
theorem exists_feedAll_extremes :
    NativeLayout (Hid.fieldLayout .empty 0 (Hid.valueFields
        [⟨0, 0, .single 1 0x39, -0x80000000, 0x7FFFFFFF, 32⟩, ⟨0, 0, .single 1 0x30, 0, -1, 32⟩]))
      Hid.IsSample ∧
    (∀ sample ∈ [(2, -0x80000000), (2, 0xFFFFFFFF), (0, 0xFFFFFFFF), (2, -1)],
      Hid.IsSample (sample : Nat × Int).2) ∧
    ∃ after changes, (Hid.fieldLayout .empty 0 (Hid.valueFields
        [⟨0, 0, .single 1 0x39, -0x80000000, 0x7FFFFFFF, 32⟩,
          ⟨0, 0, .single 1 0x30, 0, -1, 32⟩])).feedAll
      [(2, -0x80000000), (2, 0xFFFFFFFF), (0, 0xFFFFFFFF), (2, -1)] = .ok (after, changes) ∧
        after.Bounded := by
  have native := NativeLayout.hid
    [⟨0, 0, .single 1 0x39, -0x80000000, 0x7FFFFFFF, 32⟩, ⟨0, 0, .single 1 0x30, 0, -1, 32⟩]
    (by decide)
  have given : ∀ sample ∈ [(2, -0x80000000), (2, 0xFFFFFFFF), (0, 0xFFFFFFFF), (2, -1)],
      Hid.IsSample (sample : Nat × Int).2 := by
    simp only [List.forall_mem_cons, List.not_mem_nil, false_implies, implies_true, and_true]
    exact ⟨⟨⟨0, 1, 0x30, 0, 32, true⟩, 0x80000000, by decide, by decide⟩,
      ⟨⟨0, 1, 0x30, 0, 32, false⟩, 0xFFFFFFFF, by decide, by decide⟩,
      ⟨⟨0, 1, 0x39, 0, 32, false⟩, 0xFFFFFFFF, by decide, by decide⟩,
      ⟨⟨0, 1, 0x30, 0, 1, true⟩, 1, by decide, by decide⟩⟩
  exact ⟨native, given, native.exists_feedAll given⟩

end NativeLayout

end GamepadInput
