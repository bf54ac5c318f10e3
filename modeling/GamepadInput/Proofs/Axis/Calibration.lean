import GamepadInput.Proofs.Axis.Extent

/-!
# What samples make of a calibrating range

A calibrating range reaches from the least to the greatest of its bounds and the samples it was given
(`Range.reaches_widenAll`), whatever their order.  Whether they overflow depends on that reach alone
(`Range.acceptsAll_calibrating_iff`), and once it no longer grows the range maps samples as a
declared one does (`Range.calibrated_observeAll`).
-/

namespace GamepadInput.Axis.Range

/-- The range after samples. -/
def widenAll (range : Range) (samples : List Int) : Range := samples.foldl widen range

/-- Observes samples in order, until one overflows. -/
def observeAll (range : Range) : List Int → Except Overflow (Range × List Binary32)
  | [] => .ok (range, [])
  | sample :: rest => do
    let (widened, value) := range.observe sample
    let value ← value
    let (after, values) ← widened.observeAll rest
    pure (after, value :: values)

/-- No sample overflows. -/
def AcceptsAll : Range → List Int → Prop
  | _, [] => True
  | range, sample :: rest => (range.widen sample).Accepts sample ∧ (range.widen sample).AcceptsAll rest

variable {range after : Range} {samples others : List Int} {sample low high : Int}
  {values : List Binary32}

/-! ## Observing samples -/

theorem exists_observeAll_iff :
    (∃ values, range.observeAll samples = .ok (after, values)) ↔
      range.AcceptsAll samples ∧ after = range.widenAll samples := by
  induction samples generalizing range with
  | nil =>
    constructor
    · rintro ⟨values, observed⟩
      cases observed
      exact ⟨trivial, rfl⟩
    · rintro ⟨-, rfl⟩
      exact ⟨[], rfl⟩
  | cons sample rest ih =>
    have onward := @ih (range.widen sample)
    constructor
    · rintro ⟨values, observed⟩
      obtain ⟨value, mapped, observed⟩ := exists_of_bind_ok observed
      obtain ⟨⟨last, others⟩, observed', observed⟩ := exists_of_bind_ok observed
      cases observed
      obtain ⟨accepts, reached⟩ := onward.mp ⟨others, observed'⟩
      exact ⟨⟨normalize_ok_iff.mp ⟨value, mapped⟩, accepts⟩, reached⟩
    · rintro ⟨⟨first, accepts⟩, reached⟩
      obtain ⟨value, mapped⟩ := normalize_ok_iff.mpr first
      obtain ⟨values, observed⟩ := onward.mpr ⟨accepts, reached⟩
      refine ⟨value :: values, ?_⟩
      simp only [observeAll, observe, mapped, observed, bind, Except.bind, pure, Except.pure]

/-! ## Ranges that stay as they are -/

theorem widen_fixed (fixed : range.calibrating = false) (sample : Int) :
    range.widen sample = range := by
  simp [widen, fixed]

theorem widen_inside (least : range.min ≤ sample) (most : sample ≤ range.max) :
    range.widen sample = range := by
  unfold widen
  split
  · rw [Int.min_eq_left least, Int.max_eq_left most]
  · rfl

/-- A range with fixed bounds takes samples exactly if it takes each of them. -/
theorem acceptsAll_fixed_iff (fixed : range.calibrating = false) :
    range.AcceptsAll samples ↔ ∀ sample ∈ samples, range.Accepts sample := by
  induction samples with
  | nil => simp [AcceptsAll]
  | cons sample rest ih => simp [AcceptsAll, widen_fixed fixed, ih]

/-! ## Calibrating ranges -/

/-- The range `after` reaches from the least to the greatest of the bounds of `range` and the
samples. -/
structure Reaches (range : Range) (samples : List Int) (after : Range) : Prop where
  calibrating : after.calibrating = true
  min_eq : (range.min :: samples).min? = some after.min
  max_eq : (range.max :: samples).max? = some after.max

namespace Reaches

variable {after' : Range}

/-- What is reached depends on which samples there are, not on their order or number. -/
theorem congr (reaches : range.Reaches samples after)
    (same : ∀ sample, sample ∈ others ↔ sample ∈ samples) : range.Reaches others after := by
  refine ⟨reaches.calibrating, ?_, ?_⟩
  · have least := List.min?_eq_some_iff.mp reaches.min_eq
    refine List.min?_eq_some_iff.mpr ?_
    simpa only [List.mem_cons, same] using least
  · have most := List.max?_eq_some_iff.mp reaches.max_eq
    refine List.max?_eq_some_iff.mpr ?_
    simpa only [List.mem_cons, same] using most

theorem unique (reaches : range.Reaches samples after) (reaches' : range.Reaches samples after') :
    after = after' := by
  have min_eq := Option.some.inj (reaches.min_eq.symm.trans reaches'.min_eq)
  have max_eq := Option.some.inj (reaches.max_eq.symm.trans reaches'.max_eq)
  have calibrating := reaches.calibrating.trans reaches'.calibrating.symm
  cases after
  cases after'
  simp_all

theorem grows (reaches : range.Reaches samples after) :
    after.min ≤ range.min ∧ range.max ≤ after.max :=
  ⟨(List.min?_eq_some_iff.mp reaches.min_eq).2 _ List.mem_cons_self,
    (List.max?_eq_some_iff.mp reaches.max_eq).2 _ List.mem_cons_self⟩

theorem inside (reaches : range.Reaches samples after) (member : sample ∈ samples) :
    after.min ≤ sample ∧ sample ≤ after.max :=
  ⟨(List.min?_eq_some_iff.mp reaches.min_eq).2 _ (List.mem_cons_of_mem _ member),
    (List.max?_eq_some_iff.mp reaches.max_eq).2 _ (List.mem_cons_of_mem _ member)⟩

/-- Nothing lies further out than both the bounds and the samples do. -/
theorem within (reaches : range.Reaches samples after) (least : low ≤ range.min)
    (most : range.max ≤ high) (samples_within : ∀ sample ∈ samples, low ≤ sample ∧ sample ≤ high) :
    low ≤ after.min ∧ after.max ≤ high := by
  constructor
  · rcases List.mem_cons.mp (List.min?_eq_some_iff.mp reaches.min_eq).1 with bound | member
    · omega
    · exact (samples_within _ member).1
  · rcases List.mem_cons.mp (List.max?_eq_some_iff.mp reaches.max_eq).1 with bound | member
    · omega
    · exact (samples_within _ member).2

end Reaches

section Calibrating

variable (calibrating : range.calibrating = true)

include calibrating

theorem widen_eq (sample : Int) :
    range.widen sample = growing (Min.min range.min sample) (Max.max range.max sample) := by
  rw [widen, if_pos calibrating, calibrating]
  rfl

theorem reaches_widenAll (samples : List Int) : range.Reaches samples (range.widenAll samples) := by
  induction samples generalizing range with
  | nil => exact ⟨calibrating, rfl, rfl⟩
  | cons sample rest ih =>
    have calibrates : (range.widen sample).calibrating = true := by
      rw [widen_calibrating, calibrating]
    obtain ⟨kind, min_eq, max_eq⟩ := ih calibrates
    have lower : (range.widen sample).min = Min.min range.min sample := by
      rw [widen_eq calibrating]
      rfl
    have upper : (range.widen sample).max = Max.max range.max sample := by
      rw [widen_eq calibrating]
      rfl
    rw [lower] at min_eq
    rw [upper] at max_eq
    exact ⟨kind, min_eq, max_eq⟩

/-- A range that was widened by a sample takes it if its extent fits: the sample lies inside. -/
theorem accepts_widen_iff (sample : Int) :
    (range.widen sample).Accepts sample ↔
      FitsWord 64 ((range.widen sample).max - (range.widen sample).min) := by
  rw [widen_eq calibrating]
  simp only [Accepts, growing, FitsWord]
  omega

/-- Samples are taken exactly if the range that they lead to has an extent that fits. -/
theorem acceptsAll_calibrating_iff :
    range.AcceptsAll samples ↔
      samples = [] ∨
        FitsWord 64 ((range.widenAll samples).max - (range.widenAll samples).min) := by
  induction samples generalizing range with
  | nil => simp [AcceptsAll]
  | cons sample rest ih =>
    have calibrates : (range.widen sample).calibrating = true := by
      rw [widen_calibrating, calibrating]
    have reaches := reaches_widenAll calibrates rest
    have grows := reaches.grows
    have inside : (range.widen sample).min ≤ sample ∧ sample ≤ (range.widen sample).max := by
      rw [widen_eq calibrating]
      exact ⟨Int.min_le_right _ _, Int.le_max_right _ _⟩
    simp only [AcceptsAll, accepts_widen_iff calibrating, ih calibrates, List.cons_ne_nil, false_or]
    change _ ↔ FitsWord 64 (((range.widen sample).widenAll rest).max -
      ((range.widen sample).widenAll rest).min)
    constructor
    · rintro ⟨first, rfl | all⟩
      · exact first
      · exact all
    · intro all
      refine ⟨?_, .inr all⟩
      -- The extent has only grown since.
      simp only [FitsWord] at all ⊢
      omega

end Calibrating

/-! ## Ranges that have reached their ends -/

/-- A range that no sample widens maps them as a declared range with its bounds does. -/
theorem exists_observeAll_settled (fits : FitsWord 64 (high - low))
    (inside : ∀ sample ∈ samples, low ≤ sample ∧ sample ≤ high) :
    ∃ values, (growing low high).observeAll samples = .ok (growing low high, values) ∧
      (declared low high).observeAll samples = .ok (declared low high, values) := by
  induction samples with
  | nil => exact ⟨[], rfl, rfl⟩
  | cons sample rest ih =>
    obtain ⟨least, most⟩ := inside sample List.mem_cons_self
    obtain ⟨values, grown, fixed⟩ := ih fun other member => inside other (List.mem_cons_of_mem _ member)
    have still : (growing low high).widen sample = growing low high := widen_inside least most
    have accepts : (growing low high).Accepts sample := by
      rw [← still]
      exact (accepts_widen_iff rfl sample).mpr (still.symm ▸ fits)
    obtain ⟨value, mapped⟩ := normalize_ok_iff.mpr accepts
    have mapped' : (declared low high).normalize sample = .ok value := mapped
    refine ⟨value :: values, ?_, ?_⟩
    · simp only [observeAll, observe, still, mapped, grown, bind, Except.bind, pure, Except.pure]
    · simp only [observeAll, observe, widen_declared, mapped', fixed, bind, Except.bind, pure,
        Except.pure]

/-- What samples that did not overflow have made of a calibrating range. -/
structure Calibrated (range : Range) (samples : List Int) (after : Range) : Prop where
  reaches : range.Reaches samples after
  /-- The range never shrinks. -/
  grows : after.min ≤ range.min ∧ range.max ≤ after.max
  /-- In another order or number, the same samples do not overflow and lead to the same range. -/
  regardless : ∀ others, (∀ sample, sample ∈ others ↔ sample ∈ samples) →
    ∃ values, range.observeAll others = .ok (after, values)
  /-- Once both ends of an interval were among the samples, and nothing outside it was, the range is
  that interval: it stays so under samples in the interval, and maps them as a declared range. -/
  settles : ∀ low high, (low ≤ range.min ∧ range.min ≤ high) → (low ≤ range.max ∧ range.max ≤ high) →
    (∀ sample ∈ samples, low ≤ sample ∧ sample ≤ high) → low ∈ samples → high ∈ samples →
    after = growing low high ∧
      ∀ later, (∀ sample ∈ later, low ≤ sample ∧ sample ≤ high) →
        ∃ values, after.observeAll later = .ok (after, values) ∧
          (declared low high).observeAll later = .ok (declared low high, values)

/-- Samples that a calibrating range observed without overflow have widened it to their outermost,
whatever their order, and in the end the range is as good as declared. -/
theorem calibrated_observeAll (calibrating : range.calibrating = true)
    (observed : range.observeAll samples = .ok (after, values)) :
    range.Calibrated samples after := by
  obtain ⟨accepts, rfl⟩ := exists_observeAll_iff.mp ⟨values, observed⟩
  have reaches := reaches_widenAll calibrating samples
  have fits := (acceptsAll_calibrating_iff calibrating).mp accepts
  refine ⟨reaches, reaches.grows, ?_, ?_⟩
  · intro others same
    have reached : range.widenAll others = range.widenAll samples :=
      (reaches_widenAll calibrating others).unique (reaches.congr same)
    refine exists_observeAll_iff.mpr ⟨(acceptsAll_calibrating_iff calibrating).mpr ?_, reached.symm⟩
    rw [reached]
    refine fits.imp_left ?_
    rintro rfl
    exact List.eq_nil_iff_forall_not_mem.mpr fun sample member => nomatch (same sample).mp member
  · intro low high lower upper inside low_mem high_mem
    have within := reaches.within lower.1 upper.2 inside
    have ends : range.widenAll samples = growing low high := by
      have least := (reaches.inside low_mem).1
      have most := (reaches.inside high_mem).2
      have kind := reaches.calibrating
      generalize range.widenAll samples = reached at within least most kind
      obtain ⟨min, max, calibrating⟩ := reached
      simp only [growing, mk.injEq]
      dsimp only at within least most kind
      exact ⟨by omega, by omega, kind⟩
    refine ⟨ends, fun later inside' => ?_⟩
    rw [ends] at fits ⊢
    exact exists_observeAll_settled (fits.resolve_left (List.ne_nil_of_mem low_mem)) inside'

/-- A range that was declared the wrong way round, with samples to both sides of it. -/
theorem calibrated_observeAll_inverted :
    (growing 10 0).calibrating = true ∧
      ∃ values, (growing 10 0).observeAll [5, -3, 12, 5] = .ok (growing (-3) 12, values) ∧
        (growing 10 0).Calibrated [5, -3, 12, 5] (growing (-3) 12) := by
  obtain ⟨values, observed⟩ :
      ∃ values, (growing 10 0).observeAll [5, -3, 12, 5] = .ok (growing (-3) 12, values) :=
    exists_observeAll_iff.mpr ⟨(acceptsAll_calibrating_iff rfl).mpr (.inr (by decide)), by decide⟩
  exact ⟨rfl, values, observed, calibrated_observeAll rfl observed⟩

end GamepadInput.Axis.Range
