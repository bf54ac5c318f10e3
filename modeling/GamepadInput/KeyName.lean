import GamepadInput.Key

/-!
# Names of keys and modifiers

The names a key combination may use, in any ASCII case.  Function keys are named `F1` to `F25`,
without leading zeros.
-/

namespace GamepadInput

/-- Equality up to the case of ASCII letters. -/
def sameName (a b : String) : Bool := a.map Char.toUpper = b.map Char.toUpper

namespace Key

def names : List (String × Key) :=
  [("SPACE", space), ("APOSTROPHE", apostrophe), ("COMMA", comma), ("MINUS", minus),
   ("PERIOD", period), ("SLASH", slash), ("SEMICOLON", semicolon), ("EQUAL", equal),
   ("LBRACKET", leftBracket), ("BACKSLASH", backslash), ("RBRACKET", rightBracket),
   ("GRAVE", graveAccent), ("WORLD1", world1), ("WORLD2", world2), ("ESCAPE", escape),
   ("ENTER", enter), ("TAB", tab), ("BACKSPACE", backspace), ("INSERT", insert),
   ("DELETE", delete), ("RIGHT", right), ("LEFT", left), ("DOWN", down), ("UP", up),
   ("PGUP", pageUp), ("PGDN", pageDown), ("HOME", home), ("END", «end»),
   ("CAPSLOCK", capsLock), ("SCROLLLOCK", scrollLock), ("NUMLOCK", numLock),
   ("PRNTSCRN", printScreen), ("PAUSE", pause), ("MENU", menu)]

/-- Value of a non-empty string of ASCII digits. -/
def decimal? (digits : List Char) : Option Nat :=
  if digits ≠ [] ∧ digits.all Char.isDigit then
    some (digits.foldl (fun n c => 10 * n + (c.toNat - '0'.toNat)) 0)
  else none

/-- The function key that a name such as `f12` stands for. -/
def functionByName? (name : String) : Option Key :=
  match name.toList with
  | 'F' :: '0' :: _ | 'f' :: '0' :: _ => none
  | 'F' :: digits | 'f' :: digits => (decimal? digits).bind function?
  | _ => none

/-- The key of a name. -/
def byName? (name : String) : Option Key :=
  match names.find? fun entry => sameName entry.1 name with
  | some (_, key) => some key
  | none => functionByName? name

end Key

namespace Modifiers

/-- Left and right variants share one bit. -/
def names : List (String × Modifiers) :=
  [("SHIFT", shift), ("LSHIFT", shift), ("RSHIFT", shift),
   ("CONTROL", ctrl), ("CTRL", ctrl), ("LCTRL", ctrl), ("RCTRL", ctrl),
   ("LCONTROL", ctrl), ("RCONTROL", ctrl),
   ("ALT", alt), ("LALT", alt), ("RALT", alt),
   ("SUPER", super), ("LSUPER", super), ("RSUPER", super),
   ("CMD", super), ("LCMD", super), ("RCMD", super)]

/-- The mask of a name. -/
def byName? (name : String) : Option Modifiers :=
  (names.find? fun entry => sameName entry.1 name).map (·.2)

end Modifiers

end GamepadInput
