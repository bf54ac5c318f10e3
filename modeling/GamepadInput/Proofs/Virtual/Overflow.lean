import GamepadInput.Proofs.Axis.Calibration
import GamepadInput.Proofs.Virtual.Course

/-!
# Samples that a virtual pad takes

A host may lay out a pad with any bounds and feed it any samples.  Each control takes its samples
regardless of the others, so a sequence of samples is taken exactly if every control withstands its
own: a declared axis and a hat each sample by itself, a calibrating axis all of them together
(`exists_moveAll_attached`).  It is enough that bounds and samples lie close together
(`exists_moveAll_within`); within their words alone they need not be taken (`not_moveAll_words`).
-/

namespace GamepadInput

open Axis

/-! ## Samples of one control -/

namespace Axis.Source

/-- No sample overflows, each being taken by what the ones before it have made of the source. -/
def AcceptsAll : Source → List Int → Prop
  | _, [] => True
  | source, sample :: rest => source.Accepts sample ∧ (source.widen sample).AcceptsAll rest

/-- A control withstands samples: if it calibrates, the extent that they widen it to fits; else the
differences of each sample do. -/
def Withstands : Source → List Int → Prop
  | .linear range, samples =>
    if range.calibrating then
      samples = [] ∨ FitsWord 64 ((range.widenAll samples).max - (range.widenAll samples).min)
    else ∀ sample ∈ samples, range.Accepts sample
  | .hat min max, samples => ∀ sample ∈ samples, HatAccepts min max sample
  | .hatSecond, _ => True

variable {source : Source} {samples : List Int} {low high : Int}

theorem acceptsAll_linear_iff {range : Range} :
    (linear range).AcceptsAll samples ↔ range.AcceptsAll samples := by
  induction samples generalizing range with
  | nil => exact Iff.rfl
  | cons sample rest ih => exact and_congr Iff.rfl ih

theorem acceptsAll_iff : source.AcceptsAll samples ↔ source.Withstands samples := by
  cases source with
  | linear range =>
    rw [acceptsAll_linear_iff, Withstands]
    cases kind : range.calibrating with
    | true => exact Range.acceptsAll_calibrating_iff kind
    | false => exact Range.acceptsAll_fixed_iff kind
  | hat min max =>
    rw [Withstands]
    induction samples with
    | nil => simp [AcceptsAll]
    | cons sample rest ih => simp [AcceptsAll, Accepts, widen, ih]
  | hatSecond =>
    induction samples with
    | nil => exact Iff.rfl
    | cons sample rest ih => exact iff_of_true ⟨trivial, ih.mpr trivial⟩ trivial

/-- The bounds of a control lie from `low` to `high`. -/
def Within (low high : Int) : Source → Prop
  | .linear range => (low ≤ range.min ∧ range.min ≤ high) ∧ low ≤ range.max ∧ range.max ≤ high
  | .hat min max => (low ≤ min ∧ min ≤ high) ∧ low ≤ max ∧ max ≤ high
  | .hatSecond => True

/-- Bounds and samples that lie less than a signed word apart have differences that fit. -/
theorem withstands_of_within (near : high - low < 0x7FFFFFFFFFFFFFFF)
    (within : source.Within low high) (inside : ∀ sample ∈ samples, low ≤ sample ∧ sample ≤ high) :
    source.Withstands samples := by
  cases source with
  | linear range =>
    obtain ⟨⟨low_min, min_high⟩, low_max, max_high⟩ := within
    rw [Withstands]
    split
    · rename_i calibrating
      have reaches := Range.reaches_widenAll calibrating samples
      have outermost := reaches.within low_min max_high inside
      cases samples with
      | nil => exact .inl rfl
      | cons sample rest =>
        have between : (range.widenAll (sample :: rest)).min ≤ sample ∧
            sample ≤ (range.widenAll (sample :: rest)).max := reaches.inside List.mem_cons_self
        refine .inr ?_
        simp only [FitsWord]
        omega
    · intro sample member
      have here := inside sample member
      refine .inr ?_
      simp only [FitsWord]
      omega
  | hat min max =>
    obtain ⟨⟨low_min, min_high⟩, low_max, max_high⟩ := within
    intro sample member
    have here := inside sample member
    simp only [HatAccepts, FitsWord]
    omega
  | hatSecond => trivial

end Axis.Source

/-! ## Samples of a layout -/

/-- The samples of one axis, in order. -/
def samplesOf (moves : List (Nat × Int)) (axis : Nat) : List Int :=
  (moves.filter (·.1 = axis)).map (·.2)

theorem samplesOf_cons_self (axis : Nat) (sample : Int) (rest : List (Nat × Int)) :
    samplesOf ((axis, sample) :: rest) axis = sample :: samplesOf rest axis := by
  simp [samplesOf]

theorem samplesOf_cons_other {axis place : Nat} (other : place ≠ axis) (sample : Int)
    (rest : List (Nat × Int)) :
    samplesOf ((axis, sample) :: rest) place = samplesOf rest place := by
  simp [samplesOf, Ne.symm other]

theorem mem_of_mem_samplesOf {moves : List (Nat × Int)} {axis : Nat} {sample : Int}
    (member : sample ∈ samplesOf moves axis) : (axis, sample) ∈ moves := by
  simpa [samplesOf] using member

namespace Axis.Layout

variable {layout after : Layout} {axis : Nat} {raw : Int} {changes : List Change}
  {rest : List (Nat × Int)}

/-- Every control takes its own samples. -/
def AcceptsAll (layout : Layout) (moves : List (Nat × Int)) : Prop :=
  ∀ axis, ∀ source ∈ layout.source? axis, source.AcceptsAll (samplesOf moves axis)

theorem AcceptsAll.accepts (accepts : layout.AcceptsAll ((axis, raw) :: rest)) :
    ∀ source ∈ layout.source? axis, source.Accepts raw := by
  intro source here
  have all := accepts axis source here
  rw [samplesOf_cons_self] at all
  exact all.1

/-- A sample concerns its own control only. -/
theorem Feeds.acceptsAll_cons_iff (feeds : layout.Feeds axis raw after changes) :
    layout.AcceptsAll ((axis, raw) :: rest) ↔
      (∀ source ∈ layout.source? axis, source.Accepts raw) ∧ after.AcceptsAll rest := by
  constructor
  · intro accepts
    refine ⟨accepts.accepts, fun place source there => ?_⟩
    rw [feeds.source?_eq] at there
    split at there
    · rename_i mine
      obtain ⟨before, here, rfl⟩ := Option.map_eq_some_iff.mp there
      have all := accepts axis before here
      rw [samplesOf_cons_self] at all
      rw [mine]
      exact all.2
    · rename_i other
      have all := accepts place source there
      rwa [samplesOf_cons_other other] at all
  · rintro ⟨first, onward⟩ place source here
    by_cases mine : place = axis
    · subst mine
      rw [samplesOf_cons_self]
      refine ⟨first source here, onward place _ ?_⟩
      rw [feeds.source?_eq, if_pos rfl, Option.mem_def.mp here]
      rfl
    · rw [samplesOf_cons_other mine]
      refine onward place source ?_
      rwa [feeds.source?_eq, if_neg mine]

end Axis.Layout

/-! ## Samples of a pad -/

namespace VirtualBackend

/-- Feeds samples to the axes of one pad in order, until one overflows. -/
def moveAll (backend : VirtualBackend) (id : DeviceId) :
    List (Nat × Int) → Except Overflow VirtualBackend
  | [] => .ok backend
  | (axis, raw) :: rest => do
    let (after, _) ← backend.moveAxis id axis raw
    after.moveAll id rest

variable {backend : VirtualBackend} {id : DeviceId} {entry : Entry VirtualPadState}
  {announced : Bool} {waiting : List EventKind} {low high : Int}

/-- A live pad takes samples exactly if its controls do. -/
theorem exists_moveAll_iff (stands : backend.hub.Stands id (.present entry announced waiting))
    (takes : entry.data.ended = false) (moves : List (Nat × Int)) :
    (∃ after, backend.moveAll id moves = .ok after) ↔ entry.data.layout.AcceptsAll moves := by
  induction moves generalizing backend entry waiting with
  | nil => exact iff_of_true ⟨backend, rfl⟩ fun _ _ _ => trivial
  | cons move rest ih =>
    obtain ⟨axis, raw⟩ := move
    have accepting : backend.accepting? id = some entry.data := by
      simp [accepting?_eq stands, Standing.live?, takes]
    -- What a fed sample leaves is a live pad again, so the rest is as for that pad.
    have onward {layout : Layout} {changes : List Change}
        (fed : entry.data.layout.feed axis raw = .ok (layout, changes)) :
        backend.moveAxis id axis raw =
            .ok (backend.report id { entry.data with layout } (changes.map .axis), changes.length) ∧
          ((∃ after, (backend.report id { entry.data with layout } (changes.map .axis)).moveAll id
            rest = .ok after) ↔ layout.AcceptsAll rest) := by
      refine ⟨?_, ih (report_self stands _ _) takes⟩
      simp only [moveAxis, accepting, fed, bind, Except.bind, pure, Except.pure]
    constructor
    · rintro ⟨after, moved⟩
      obtain ⟨⟨next, count⟩, first, others⟩ := exists_of_bind_ok moved
      simp only [moveAxis, accepting] at first
      obtain ⟨⟨layout, changes⟩, fed, -⟩ := exists_of_bind_ok first
      obtain ⟨first', rest_iff⟩ := onward fed
      simp only [moveAxis, accepting] at first'
      cases first.symm.trans first'
      exact (Layout.feeds_of_feed fed).acceptsAll_cons_iff.mpr
        ⟨Layout.feed_ok_iff.mp ⟨layout, changes, fed⟩, rest_iff.mp ⟨after, others⟩⟩
    · intro accepts
      obtain ⟨layout, changes, fed⟩ := Layout.feed_ok_iff.mpr accepts.accepts
      obtain ⟨first, rest_iff⟩ := onward fed
      obtain ⟨after, others⟩ := rest_iff.mpr
        ((Layout.feeds_of_feed fed).acceptsAll_cons_iff.mp accepts).2
      refine ⟨after, ?_⟩
      simp only [moveAll, first, bind, Except.bind, others]

/-- A pad that was just attached is live, as it was laid out. -/
theorem exists_stands_attach (calls : List Call) (pad : VirtualPad) :
    ∃ entry, ((empty.run calls).backend.attach pad).1.hub.Stands
        ((empty.run calls).backend.attach pad).2 (.present entry false []) ∧
      entry.data.layout = pad.layout ∧ entry.data.ended = false := by
  obtain ⟨standing, reaches⟩ := exists_reaches calls (empty.run calls).backend.hub.registry.nextId
  exact ⟨_, reaches.stands.attach_self rfl _ _, rfl, rfl⟩

/-- Whenever a pad is attached and whatever samples it is fed, no call overflows exactly if each
control withstands its own samples. -/
theorem exists_moveAll_attached (calls : List Call) (pad : VirtualPad) (moves : List (Nat × Int)) :
    (∃ after, ((empty.run calls).backend.attach pad).1.moveAll
        ((empty.run calls).backend.attach pad).2 moves = .ok after) ↔
      ∀ axis, ∀ source ∈ pad.layout.source? axis, source.Withstands (samplesOf moves axis) := by
  obtain ⟨entry, stands, laid_out, takes⟩ := exists_stands_attach calls pad
  rw [exists_moveAll_iff stands takes, laid_out]
  simp only [Layout.AcceptsAll, Source.acceptsAll_iff]

/-- Bounds and samples less than a signed word apart overflow in no call. -/
theorem exists_moveAll_within (near : high - low < 0x7FFFFFFFFFFFFFFF) (calls : List Call)
    {pad : VirtualPad} (within : ∀ axis, ∀ source ∈ pad.layout.source? axis, source.Within low high)
    {moves : List (Nat × Int)} (inside : ∀ move ∈ moves, low ≤ move.2 ∧ move.2 ≤ high) :
    ∃ after, ((empty.run calls).backend.attach pad).1.moveAll
      ((empty.run calls).backend.attach pad).2 moves = .ok after := by
  obtain ⟨entry, stands, laid_out, takes⟩ := exists_stands_attach calls pad
  rw [exists_moveAll_iff stands takes, laid_out]
  intro axis source here
  refine Source.acceptsAll_iff.mpr (Source.withstands_of_within near (within axis source here) ?_)
  exact fun sample member => inside _ (mem_of_mem_samplesOf member)

/-- An axis that reports one to 255 is fed the least sample of a signed word. -/
theorem not_moveAll_words :
    ¬∀ (pad : VirtualPad) (moves : List (Nat × Int)), pad.Made →
      (∀ axis, ∀ source ∈ pad.layout.source? axis,
        source.Within (-0x8000000000000000) 0x7FFFFFFFFFFFFFFF) →
      (∀ move ∈ moves, -0x8000000000000000 ≤ move.2 ∧ move.2 ≤ 0x7FFFFFFFFFFFFFFF) →
      ∃ after, (empty.attach pad).1.moveAll (empty.attach pad).2 moves = .ok after := by
  intro completes
  let pad : VirtualPad := (VirtualPad.named "Pad").axis 1 255
  have bounds : ∀ axis, ∀ source ∈ pad.layout.source? axis,
      source.Within (-0x8000000000000000) 0x7FFFFFFFFFFFFFFF := by
    rintro (_ | axis) source here
    · cases here
      exact ⟨by decide, by decide⟩
    · cases here
  obtain ⟨after, moved⟩ := completes pad [(0, -0x8000000000000000)] (.axis 1 255 (.named "Pad"))
    bounds (by decide)
  have overflows : (empty.attach pad).1.moveAll (empty.attach pad).2 [(0, -0x8000000000000000)] =
      .error .subtract := rfl
  rw [overflows] at moved
  cases moved

end VirtualBackend

end GamepadInput
