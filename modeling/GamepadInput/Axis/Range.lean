import GamepadInput.Axis.Normalize

/-!
# Logical ranges

The range of a linear control is declared by the device or found on the way.  A calibrating range
grows with every sample outside it and never shrinks; samples seen earlier are not corrected.
-/

namespace GamepadInput.Axis

/-- Logical range of a linear control. -/
structure Range where
  min : Int
  max : Int
  /-- The range grows when a sample falls outside it. -/
  calibrating : Bool
  deriving DecidableEq, Repr

namespace Range

def declared (min max : Int) : Range := ⟨min, max, false⟩

def growing (min max : Int) : Range := ⟨min, max, true⟩

/-- The range after a sample. -/
def widen (range : Range) (sample : Int) : Range :=
  if range.calibrating then
    { range with min := Min.min range.min sample, max := Max.max range.max sample }
  else range

/-- Normalized form of a sample in a range that stays as it is. -/
def normalize (range : Range) (sample : Int) : Except Overflow Binary32 :=
  linear sample range.min range.max

/-- The range widened by a sample, and the normalized form of the sample in it. -/
def observe (range : Range) (sample : Int) : Range × Except Overflow Binary32 :=
  (range.widen sample, (range.widen sample).normalize sample)

@[simp] theorem widen_declared (min max sample : Int) :
    (declared min max).widen sample = declared min max := rfl

@[simp] theorem widen_calibrating (range : Range) (sample : Int) :
    (range.widen sample).calibrating = range.calibrating := by
  unfold widen
  split <;> rfl

end Range

end GamepadInput.Axis
