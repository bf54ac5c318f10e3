/-!
# UTF-8

Bytes are read as characters from left to right.  A sequence that no character can begin with is
malformed; the longest part of it that could have begun one counts once.  Main statement: every
reading step takes at least one byte.
-/

namespace GamepadInput.Text.Utf8

/-- The character for what no character stands for. -/
def replacement : Char := '\uFFFD'

/-- Reads `count` continuation bytes, the first of them between `low` and `high`, onto the bits
read so far.  Stops in front of a byte that does not fit. -/
def continued : (count low high bits : Nat) → List UInt8 → Option Char × List UInt8
  | 0, _, _, bits, rest => (some (Char.ofNat bits), rest)
  | _ + 1, _, _, _, [] => (none, [])
  | count + 1, low, high, bits, byte :: rest =>
    if low ≤ byte.toNat && byte.toNat ≤ high then
      continued count 0x80 0xBF (0x40 * bits + byte.toNat % 0x40) rest
    else (none, byte :: rest)

/-- Reads the character that begins with a byte; `none` if the sequence is malformed.  The bounds
of the second byte leave out longer forms than needed, surrogates, and code points past the
last. -/
def character (first : UInt8) (rest : List UInt8) : Option Char × List UInt8 :=
  let byte := first.toNat
  if byte < 0x80 then (some (Char.ofNat byte), rest)
  else if byte < 0xC2 then (none, rest)
  else if byte < 0xE0 then continued 1 0x80 0xBF (byte - 0xC0) rest
  else if byte = 0xE0 then continued 2 0xA0 0xBF 0 rest
  else if byte = 0xED then continued 2 0x80 0x9F 0xD rest
  else if byte < 0xF0 then continued 2 0x80 0xBF (byte - 0xE0) rest
  else if byte = 0xF0 then continued 3 0x90 0xBF 0 rest
  else if byte < 0xF4 then continued 3 0x80 0xBF (byte - 0xF0) rest
  else if byte = 0xF4 then continued 3 0x80 0x8F 4 rest
  else (none, rest)

theorem length_continued_le (count low high bits : Nat) (bytes : List UInt8) :
    (continued count low high bits bytes).2.length ≤ bytes.length := by
  fun_induction continued count low high bits bytes with
  | case1 => exact Nat.le_refl _
  | case2 => exact Nat.le_refl _
  | case3 _ _ _ _ _ _ _ ih => exact Nat.le_succ_of_le ih
  | case4 => exact Nat.le_refl _

theorem length_character_le (first : UInt8) (rest : List UInt8) :
    (character first rest).2.length ≤ rest.length := by
  unfold character
  simp only
  repeat' split
  all_goals first
    | exact Nat.le_refl _
    | exact length_continued_le _ _ _ _ _

/-- Characters of a text, `none` in place of each malformed sequence. -/
def characters : List UInt8 → List (Option Char)
  | [] => []
  | first :: rest =>
    let read := character first rest
    read.1 :: characters read.2
termination_by bytes => bytes.length
decreasing_by exact Nat.lt_succ_of_le (length_character_le first rest)

/-- The text of well-formed bytes. -/
def decode? (bytes : List UInt8) : Option String :=
  ((characters bytes).mapM id).map String.ofList

/-- The text of any bytes, with a replacement character for each malformed sequence. -/
def decode (bytes : List UInt8) : String :=
  String.ofList ((characters bytes).map (·.getD replacement))

end GamepadInput.Text.Utf8
