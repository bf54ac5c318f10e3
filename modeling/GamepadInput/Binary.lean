/-!
# Binary floating point

Values of the two binary interchange formats of width 32 and 64, held exactly and computed in
`Nat`.  A magnitude is its *rank*: its place in the ascending list of all magnitudes of the
format, zero being the first and infinity the last.  The rank is at once the bit pattern without
the sign, so two values are equal exactly when their bits are, all not-a-numbers being one value.

Every finite magnitude is a whole number of *units*, the least positive magnitude.  Arithmetic is
exact on units and rounds once, to the nearest rank, a tie going to the even one.
-/

namespace GamepadInput

/-- A binary interchange format. -/
structure BinaryFormat where
  /-- Bits of the significand, the leading one included. -/
  precision : Nat
  /-- Bits of the exponent field. -/
  exponentBits : Nat
  deriving DecidableEq, Repr

namespace BinaryFormat

/-- The 32-bit format. -/
abbrev single : BinaryFormat := ⟨24, 8⟩

/-- The 64-bit format. -/
abbrev double : BinaryFormat := ⟨53, 11⟩

/-- Number of magnitudes that share one exponent. -/
def stride (f : BinaryFormat) : Nat := 1 <<< (f.precision - 1)

/-- Rank of infinity: every bit of the exponent field set and no fraction. -/
def infinity (f : BinaryFormat) : Nat := ((1 <<< f.exponentBits) - 1) * f.stride

/-- One is two to the power `scale` in units. -/
def scale (f : BinaryFormat) : Nat := (1 <<< (f.exponentBits - 1)) - 2 + (f.precision - 1)

/-- The magnitude of a rank, in units. -/
def units (f : BinaryFormat) (rank : Nat) : Nat :=
  if rank < f.stride then rank
  else (f.stride + rank % f.stride) <<< (rank / f.stride - 1)

end BinaryFormat

/-- The whole number nearest to `num / den`; of two equally near the even one. -/
def roundHalfEven (num den : Nat) : Nat :=
  let floor := num / den
  match compare (2 * (num % den)) den with
  | .lt => floor
  | .eq => floor + floor % 2
  | .gt => floor + 1

/-- The rank nearest to `num / den` units.  A quotient with more bits than the significand holds
is rounded at the last bit that it does hold. -/
def BinaryFormat.nearestRank (f : BinaryFormat) (num den : Nat) : Nat :=
  let excess := (num / den).log2 + 1 - f.precision
  excess * f.stride + roundHalfEven num (den <<< excess)

/-- A value of a binary format. -/
inductive Binary (f : BinaryFormat) where
  | nan
  | number (negative : Bool) (rank : Nat) (rank_le : rank ≤ f.infinity)
  deriving DecidableEq, Repr

abbrev Binary32 := Binary .single
abbrev Binary64 := Binary .double

namespace Binary

variable {f : BinaryFormat}

/-- The number of a given sign and rank; ranks past infinity are infinity. -/
def ofRank (negative : Bool) (rank : Nat) : Binary f :=
  .number negative (min rank f.infinity) (Nat.min_le_right _ _)

/-- The number nearest to `± num / den` units. -/
def ofUnits (negative : Bool) (num den : Nat) : Binary f :=
  ofRank negative (f.nearestRank num den)

/-- The number nearest to a whole number. -/
def ofInt (i : Int) : Binary f :=
  ofUnits (i < 0) (i.natAbs <<< f.scale) 1

/-- The value whose bit pattern is `bits`: the sign bit above the rank. -/
def ofBits (bits : Nat) : Binary f :=
  let signBit := 1 <<< (f.precision - 1 + f.exponentBits)
  let rank := bits % signBit
  if h : rank ≤ f.infinity then .number (bits / signBit % 2 = 1) rank h else .nan

/-- The bit pattern of a number. -/
def toBits? : Binary f → Option Nat
  | .nan => none
  | .number negative rank _ =>
    some (cond negative (1 <<< (f.precision - 1 + f.exponentBits)) 0 + rank)

def isNaN : Binary f → Bool
  | .nan => true
  | .number .. => false

/-- Place on the number line, counted in ranks from zero. -/
def position? : Binary f → Option Int
  | .nan => none
  | .number negative rank _ => some (cond negative (-rank) rank)

/-- Numeric order; nothing compares with not-a-number. -/
def lt (x y : Binary f) : Bool :=
  match x.position?, y.position? with
  | some a, some b => a < b
  | _, _ => false

/-- Numeric order; nothing compares with not-a-number. -/
def le (x y : Binary f) : Bool :=
  match x.position?, y.position? with
  | some a, some b => a ≤ b
  | _, _ => false

/-- Numeric equality: the two zeros are equal, and not-a-number differs from itself. -/
def equals (x y : Binary f) : Bool :=
  match x.position?, y.position? with
  | some a, some b => a = b
  | _, _ => false

def neg : Binary f → Binary f
  | .nan => .nan
  | .number negative rank h => .number (!negative) rank h

def abs : Binary f → Binary f
  | .nan => .nan
  | .number _ rank h => .number false rank h

/-- Signed magnitude of a finite number in units. -/
def signedUnits (f : BinaryFormat) (negative : Bool) (rank : Nat) : Int :=
  cond negative (-(f.units rank : Int)) (f.units rank)

/-- Sum.  A zero sum is negative only when both terms are. -/
def add : Binary f → Binary f → Binary f
  | .nan, _ => .nan
  | _, .nan => .nan
  | x@(.number s a _), y@(.number t b _) =>
    if a = f.infinity then if b = f.infinity && s != t then .nan else x
    else if b = f.infinity then y
    else
      let sum := signedUnits f s a + signedUnits f t b
      if sum = 0 then ofRank (s && t) 0 else ofUnits (sum < 0) sum.natAbs 1

def sub (x y : Binary f) : Binary f := x.add y.neg

def mul : Binary f → Binary f → Binary f
  | .nan, _ => .nan
  | _, .nan => .nan
  | .number s a _, .number t b _ =>
    if a = f.infinity || b = f.infinity then
      if a = 0 || b = 0 then .nan else ofRank (s != t) f.infinity
    else ofUnits (s != t) (f.units a * f.units b) (1 <<< f.scale)

def div : Binary f → Binary f → Binary f
  | .nan, _ => .nan
  | _, .nan => .nan
  | .number s a _, .number t b _ =>
    if a = f.infinity then if b = f.infinity then .nan else ofRank (s != t) f.infinity
    else if b = f.infinity then ofRank (s != t) 0
    else if b = 0 then if a = 0 then .nan else ofRank (s != t) f.infinity
    else ofUnits (s != t) (f.units a <<< f.scale) (f.units b)

/-- The nearest value of another format. -/
def convert (g : BinaryFormat) : Binary f → Binary g
  | .nan => .nan
  | .number s a _ =>
    if a = f.infinity then ofRank s g.infinity
    else ofUnits s (f.units a <<< g.scale) (1 <<< f.scale)

/-- The value itself when it lies between `low` and `high`, else the nearer of them.
Not-a-number stays what it is. -/
def clamp (x low high : Binary f) : Binary f :=
  let raised := if x.lt low then low else x
  if high.lt raised then high else raised

instance : Zero (Binary f) := ⟨ofRank false 0⟩
instance : Inhabited (Binary f) := ⟨0⟩

end Binary

namespace Binary32

/-- The number one, the right or lower end of an axis. -/
def one : Binary32 := .number false 0x3f800000 (by decide)

/-- The number minus one, the left or upper end of an axis. -/
def minusOne : Binary32 := .number true 0x3f800000 (by decide)

end Binary32

example : (Binary.ofInt 1 : Binary32) = Binary32.one := by decide
example : (Binary.ofInt (-1) : Binary32) = Binary32.minusOne := by decide
example : (Binary.ofInt 1 : Binary64).convert .single = Binary32.one := by decide +kernel
example : (Binary.ofInt 0 : Binary32).neg.equals 0 = true := by decide

end GamepadInput
