import GamepadInput.Binary
import GamepadInput.Overflow

/-!
# Normalized axis values

Every axis reports a value between minus one and one.  A linear control maps its logical range
onto that interval, a control that rests at one end maps its half range, and a hat is two axes
whose values are minus one, zero or one.
-/

namespace GamepadInput.Axis

/-- `value` brought between minus one and one. -/
def unitClamp {f : BinaryFormat} (value : Binary f) : Binary f :=
  value.clamp (.ofInt (-1)) (.ofInt 1)

/-- Twice the fraction `offset / span`, less one: computed in the wide format, rounded once more
at the end. -/
def ofFraction (offset span : Int) : Binary32 :=
  let twice : Binary64 := (Binary.ofInt 2).mul (Binary.ofInt offset)
  (unitClamp ((twice.div (Binary.ofInt span)).sub (Binary.ofInt 1))).convert .single

/-- Maps `value` from the range `min` to `max`.  A range without extent maps to zero, and a sample
outside its range maps to the nearer end. -/
def linear (value min max : Int) : Except Overflow Binary32 :=
  if max ≤ min then .ok 0
  else do
    let span ← checkedSub 64 max min
    let offset ← checkedSub 64 value min
    pure (ofFraction offset span)

/-- Maps `value` from the range zero to twice `half`.  A half range that is not positive maps to
zero. -/
def halfRange (value half : Binary64) : Binary32 :=
  if half.le 0 then 0
  else (unitClamp ((value.div half).sub (Binary.ofInt 1))).convert .single

/-- Directions of a hat: `(x, y)`, up is `y = -1` and right is `x = 1`. -/
abbrev Direction := Binary32 × Binary32

/-- Direction of hat position `position`, counted clockwise from up in `positions` equal steps.
Any other position is the centre. -/
def hatDirection (position positions : Int) : Direction :=
  if positions ≤ 0 ∨ position < 0 ∨ positions ≤ position then (0, 0)
  else
    let half := positions / 2
    let quarter := positions / 4
    let threeQuarters := quarter * 3
    let x :=
      if 0 < position ∧ position < half then .one
      else if half < position then .minusOne
      else 0
    let y :=
      if threeQuarters < position ∨ position < quarter then .minusOne
      else if quarter < position ∧ position < threeQuarters then .one
      else 0
    (x, y)

/-- Steps of a hat that reports hundredths of a degree. -/
def centidegrees : Int := 36000

/-- Direction of a reading in hundredths of a degree; a low word with every bit set is the
centre. -/
def povDirection (reading : Nat) : Direction :=
  if reading % 0x10000 = 0xFFFF then (0, 0) else hatDirection reading centidegrees

end GamepadInput.Axis
