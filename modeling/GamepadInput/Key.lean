/-!
# Keys, mouse buttons and modifiers

Key codes: a letter, digit or punctuation key has the code point of its upper-case character,
named keys start at 256, and `Key.menu` is the last one that is tracked.
-/

namespace GamepadInput

/-- A keyboard key. -/
structure Key where
  code : Nat
  deriving DecidableEq, Repr

namespace Key

/-- Number of key codes that are tracked. -/
def count : Nat := 349

def space : Key := ⟨32⟩
def apostrophe : Key := ⟨39⟩
def comma : Key := ⟨44⟩
def minus : Key := ⟨45⟩
def period : Key := ⟨46⟩
def slash : Key := ⟨47⟩
def semicolon : Key := ⟨59⟩
def equal : Key := ⟨61⟩
def leftBracket : Key := ⟨91⟩
def backslash : Key := ⟨92⟩
def rightBracket : Key := ⟨93⟩
def graveAccent : Key := ⟨96⟩
def world1 : Key := ⟨161⟩
def world2 : Key := ⟨162⟩
def escape : Key := ⟨256⟩
def enter : Key := ⟨257⟩
def tab : Key := ⟨258⟩
def backspace : Key := ⟨259⟩
def insert : Key := ⟨260⟩
def delete : Key := ⟨261⟩
def right : Key := ⟨262⟩
def left : Key := ⟨263⟩
def down : Key := ⟨264⟩
def up : Key := ⟨265⟩
def pageUp : Key := ⟨266⟩
def pageDown : Key := ⟨267⟩
def home : Key := ⟨268⟩
def «end» : Key := ⟨269⟩
def capsLock : Key := ⟨280⟩
def scrollLock : Key := ⟨281⟩
def numLock : Key := ⟨282⟩
def printScreen : Key := ⟨283⟩
def pause : Key := ⟨284⟩
def menu : Key := ⟨348⟩

/-- Key of a letter or digit; a letter names its upper-case key. -/
def ofChar? (c : Char) : Option Key :=
  if c.isAlphanum then some ⟨c.toUpper.toNat⟩ else none

/-- Number of function keys. -/
def functionCount : Nat := 25

/-- Function key `n`, counted from one. -/
def function? (n : Nat) : Option Key :=
  if 1 ≤ n ∧ n ≤ functionCount then some ⟨289 + n⟩ else none

end Key

/-- A mouse button. -/
inductive MouseButton where
  | left
  | right
  | middle
  deriving DecidableEq, Repr

namespace MouseButton

abbrev count : Nat := 3

def index : MouseButton → Fin count
  | .left => 0
  | .right => 1
  | .middle => 2

def ofIndex? : Nat → Option MouseButton
  | 0 => some .left
  | 1 => some .right
  | 2 => some .middle
  | _ => none

theorem ofIndex?_index (button : MouseButton) : ofIndex? button.index = some button := by
  cases button <;> rfl

end MouseButton

/-- A modifier mask.  Hosts may set bits that have no name here; they are kept. -/
structure Modifiers where
  bits : BitVec 32
  deriving DecidableEq, Repr

namespace Modifiers

def none : Modifiers := ⟨0⟩
def shift : Modifiers := ⟨0x1⟩
def ctrl : Modifiers := ⟨0x2⟩
def alt : Modifiers := ⟨0x4⟩
def super : Modifiers := ⟨0x8⟩
def leftButton : Modifiers := ⟨0x100⟩
def rightButton : Modifiers := ⟨0x200⟩
def middleButton : Modifiers := ⟨0x400⟩

instance : Inhabited Modifiers := ⟨none⟩

/-- The bits of both masks. -/
instance : OrOp Modifiers := ⟨fun a b => ⟨a.bits ||| b.bits⟩⟩

/-- Every bit of `mask` is set. -/
def contains (held mask : Modifiers) : Bool := held.bits &&& mask.bits = mask.bits

theorem or_def (a b : Modifiers) : a ||| b = ⟨a.bits ||| b.bits⟩ := rfl

@[simp] theorem none_or (a : Modifiers) : none ||| a = a := by simp [or_def, none]

@[simp] theorem or_none (a : Modifiers) : a ||| none = a := by simp [or_def, none]

theorem or_assoc (a b c : Modifiers) : a ||| b ||| c = a ||| (b ||| c) := by
  simp [or_def, BitVec.or_assoc]

theorem or_comm (a b : Modifiers) : a ||| b = b ||| a := by
  simp [or_def, BitVec.or_comm]

end Modifiers

end GamepadInput
