/-!
# Digits of natural numbers

Positional text with a least width, filled with zeros.
-/

namespace GamepadInput.Text

/-- Digits of `n` in `base`, lower case, with zeros in front up to `width`. -/
def digits (base width n : Nat) : String :=
  let plain := Nat.toDigits base n
  String.ofList (List.replicate (width - plain.length) '0' ++ plain)

/-- Hexadecimal digits, at least `width` of them. -/
def hex (width n : Nat) : String := digits 16 width n

end GamepadInput.Text
