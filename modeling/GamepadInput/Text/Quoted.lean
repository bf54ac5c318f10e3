import GamepadInput.Text.Digits
import GamepadInput.Text.Printable

/-!
# Quoted characters and strings

A diagnostic shows a character or a string between quotes.  The quote in use, the backslash and a
few controls have short escapes, and a character that does not show is written by its code point.
-/

namespace GamepadInput.Text

/-- One character of a quoted text whose quote is `quote`. -/
def escaped (quote c : Char) : String :=
  if c = quote || c = '\\' then String.ofList ['\\', c]
  else if c = '\x00' then "\\0"
  else if c = '\t' then "\\t"
  else if c = '\r' then "\\r"
  else if c = '\n' then "\\n"
  else if isPrintable c then c.toString
  else "\\u\x7b" ++ hex 0 c.toNat ++ "\x7d"

/-- A character between single quotes. -/
def quotedChar (c : Char) : String := "'" ++ escaped '\'' c ++ "'"

/-- A string between double quotes. -/
def quoted (s : String) : String :=
  "\"" ++ String.join (s.toList.map (escaped '"')) ++ "\""

end GamepadInput.Text
