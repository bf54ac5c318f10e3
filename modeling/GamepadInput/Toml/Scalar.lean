import GamepadInput.Toml.Quote
import GamepadInput.Toml.Value

/-!
# TOML numbers, dates and times

An underscore may stand between two digits of a number.  Integers have 64 bits; a float must not
exceed the numbers of binary64 on the positive side.  A date exists in the calendar.
-/

namespace GamepadInput.Toml

open Parse

/-- Digits, with an underscore between some of them; the underscores are left out. -/
def digitGroups (isDigit : Char → Bool) : Parse (List Char) := do
  let first ← oneOf isDigit
  return first :: (← many (oneOf isDigit <|> (char '_' *> oneOf isDigit)))

/-- A number is negative. -/
def sign : Parse Bool := (char '-' *> pure true) <|> (char '+' *> pure false) <|> pure false

/-- Decimal digits without a zero in front. -/
def wholePart : Parse (List Char) := do
  let first ← oneOf (·.isDigit)
  if first = '0' then return ['0']
  return first :: (← many (oneOf (·.isDigit) <|> (char '_' *> oneOf (·.isDigit))))

def fitsInteger (n : Int) : Bool := -0x8000000000000000 ≤ n && n < 0x8000000000000000

def signed (negative : Bool) (magnitude : Nat) : Int := if negative then -magnitude else magnitude

/-- An integer that fits 64 bits. -/
def fitting (n : Int) : Parse Value := if fitsInteger n then pure (.integer n) else failure

def decimalInteger : Parse Value := do
  let negative ← sign
  fitting (signed negative (numberOf 10 (← wholePart)))

/-- An integer in another base, after the mark of the base. -/
def basedInteger (mark : String) (base : Nat) (isDigit : Char → Bool) : Parse Value := do
  literal mark
  fitting (numberOf base (← digitGroups isDigit))

def integer : Parse Value :=
  basedInteger "0x" 16 isHexDigit <|>
  basedInteger "0o" 8 (fun c => '0' ≤ c && c ≤ '7') <|>
  basedInteger "0b" 2 (fun c => c = '0' || c = '1') <|>
  decimalInteger

/-! ## Floats -/

/-- From here on a decimal rounds to infinity in binary64: half a unit past the largest number. -/
def infinityBound : Nat := (1 <<< 1024) - (1 <<< 970)

/-- Every number of more digits than this before the point reaches the bound. -/
def infinityDigits : Int := 310

/-- The number of some digits, with its point moved `exponent` places to the right, reaches the
bound.  Where the number of digits decides, no power is computed. -/
def reachesInfinity (digits : List Char) (exponent : Int) : Bool :=
  let digits := digits.dropWhile (· = '0')
  let length : Int := digits.length + exponent
  if digits.isEmpty || length < 0 then false
  else if infinityDigits < length then true
  else if 0 ≤ exponent then infinityBound ≤ numberOf 10 digits * Nat.pow 10 exponent.toNat
  else infinityBound * Nat.pow 10 (-exponent).toNat ≤ numberOf 10 digits

def exponentPart : Parse Int := do
  char 'e' <|> char 'E'
  let negative ← sign
  return signed negative (numberOf 10 (← digitGroups (·.isDigit)))

def fractionPart : Parse (List Char) := char '.' *> digitGroups (·.isDigit)

/-- A float of digits: a fraction, an exponent, or both. -/
def decimalFloat : Parse Value := do
  let negative ← sign
  let whole ← wholePart
  let (fraction, exponent) ←
    (do return (([] : List Char), ← exponentPart)) <|>
    (do
      let fraction ← fractionPart
      return (fraction, (← optional exponentPart).getD 0))
  let reached := reachesInfinity (whole ++ fraction) (exponent - fraction.length)
  if !negative && reached then failure
  return .float

def specialFloat : Parse Value := do
  let _ ← sign
  literal "inf" <|> literal "nan"
  return .float

def float : Parse Value := decimalFloat <|> specialFloat

/-! ## Dates and times -/

/-- A number of `count` digits within bounds. -/
def bounded (count low high : Nat) : Parse Nat := do
  let n := numberOf 10 (← exactly (·.isDigit) count)
  if low ≤ n && n ≤ high then return n else failure

def isLeap (year : Nat) : Bool := year % 4 = 0 && (year % 100 != 0 || year % 400 = 0)

def daysIn (year month : Nat) : Nat :=
  if month = 2 then (if isLeap year then 29 else 28)
  else if [4, 6, 9, 11].contains month then 30
  else 31

def date : Parse Unit := do
  let year ← bounded 4 0 9999
  char '-'
  let month ← bounded 2 1 12
  char '-'
  let _ ← bounded 2 1 (daysIn year month)

def hourAndMinute : Parse Unit := do
  let _ ← bounded 2 0 23
  char ':'
  let _ ← bounded 2 0 59

/-- A time of day; a second may be a leap second. -/
def timeOfDay : Parse Unit := do
  hourAndMinute
  char ':'
  let _ ← bounded 2 0 60
  let _ ← optional (char '.' *> someRun (·.isDigit))

def zone : Parse Unit :=
  char 'Z' <|> char 'z' <|> ((char '+' <|> char '-') *> hourAndMinute)

/-- A date, a date and a time, or a time. -/
def moment : Parse Value := do
  (do
    date
    let _ ← optional do
      let _ ← oneOf fun c => c = 'T' || c = 't' || c = ' '
      timeOfDay
      let _ ← optional zone) <|> timeOfDay
  return .moment

def boolean : Parse Value :=
  (literal "true" *> pure (.boolean true)) <|> (literal "false" *> pure (.boolean false))

/-- Any value that holds no other. -/
def scalar : Parse Value :=
  (Value.text <$> anyString) <|> moment <|> float <|> integer <|> boolean

end GamepadInput.Toml
