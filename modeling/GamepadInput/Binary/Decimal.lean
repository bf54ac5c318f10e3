import GamepadInput.Binary
import GamepadInput.Text.Digits

/-!
# Decimal text of binary numbers

A finite binary number is a finite decimal fraction, so rounding its text needs no approximation:
`toFixed` rounds the exact value once.
-/

namespace GamepadInput

/-- Number of units in one, when a unit is the last of `places` decimal places. -/
def placeUnits (places : Nat) : Nat := Nat.pow 10 places

/-- A count of units of the last of `places` decimal places, written with a point. -/
def pointText (places n : Nat) : String :=
  if places = 0 then Text.digits 10 0 n
  else 
    Text.digits 10 0 (n / placeUnits places) ++ "." ++
      Text.digits 10 places (n % placeUnits places)

namespace Binary

variable {f : BinaryFormat}

/-- `body` with a minus sign in front when the sign bit is set, zero included. -/
private def signed (negative : Bool) (body : String) : String :=
  cond negative ("-" ++ body) body

/-- Text with exactly `places` decimal places; the exact value is rounded, a tie to even. -/
def toFixed (places : Nat) : Binary f → String
  | .nan => "NaN"
  | .number negative rank _ =>
    signed negative <|
      if rank = f.infinity then "inf"
      else pointText places (roundHalfEven (f.units rank * placeUnits places) (1 <<< f.scale))

/-- Drops decimal places that are zero, but keeps the first. -/
private def trimPlaces : Nat → Nat → Nat × Nat
  | 0, n => (1, n * 10)
  | 1, n => (1, n)
  | places + 2, n =>
    if n % 10 = 0 then trimPlaces (places + 1) (n / 10) else (places + 2, n)

/-- The exact value, with as many decimal places as it needs and at least one. -/
def toDecimal : Binary f → String
  | .nan => "NaN"
  | .number negative rank _ =>
    signed negative <|
      if rank = f.infinity then "inf"
      else
        let (places, n) := trimPlaces f.scale ((f.units rank * placeUnits f.scale) >>> f.scale)
        pointText places n

end Binary

end GamepadInput
