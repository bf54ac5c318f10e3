import GamepadInput.Buttons

/-!
# Decoding evdev samples

A node reports samples of a kind, a code and a value.  Its key codes are numbered as buttons and
its absolute codes feed axis slots; a sample of anything else reports nothing.
-/

namespace GamepadInput.Evdev

/-- Codes of one kind that a node has, in a bitmap of `size` bits. -/
abbrev CodeSet (size : Nat) := BitVec size

namespace CodeSet

variable {size : Nat}

/-- Codes past the end of the bitmap are not in it. -/
def ofCodes (size : Nat) (codes : List Nat) : CodeSet size :=
  (codes.filter (· < size)).foldl (fun set code => set ||| BitVec.twoPow size code) 0

def has (set : CodeSet size) (code : Nat) : Bool := set.getLsbD code

end CodeSet

def keyKind : Nat := 0x01

def axisKind : Nat := 0x03

/-- Sizes of the bitmaps of kinds, keys and axes, in whole words of 64 bits. -/
def kindBits : Nat := 64

def keyBits : Nat := 0x300

def axisBits : Nat := 64

/-- The first key code that is a button. -/
def firstButton : Nat := 0x100

/-- One sample of a node. -/
structure Sample where
  kind : Nat
  code : Nat
  value : Int
  deriving DecidableEq, Repr

/-- Declared range of an axis code. -/
structure CodeRange where
  code : Nat
  min : Int
  max : Int
  deriving DecidableEq, Repr

namespace CodeRange

/-- The range can be normalized, and its code is that of an axis. -/
def isUsed (range : CodeRange) : Bool := range.code < axisBits && range.min != range.max

end CodeRange

/-! ## Numbers of buttons -/

/-- The numbers of the buttons of a node, by key code. -/
structure ButtonMap where
  /-- For each key code from the first button on, its number, if the node has the key. -/
  numbers : Vector (Option Nat) (keyBits - firstButton)
  /-- How many of them have a number; it is the next to be given. -/
  count : Nat
  lt_count : ∀ place number : Nat, numbers[place]? = some (some number) → number < count
  place_unique : ∀ place other number : Nat, numbers[place]? = some (some number) →
    numbers[other]? = some (some number) → place = other
  deriving DecidableEq, Repr

namespace ButtonMap

def empty : ButtonMap where
  numbers := .replicate _ none
  count := 0
  lt_count place number := by simp [Vector.getElem?_replicate]
  place_unique place other number := by simp [Vector.getElem?_replicate]

/-- Gives a key code the next number. -/
def add (map : ButtonMap) (code : Nat) : ButtonMap where
  numbers := map.numbers.setIfInBounds (code - firstButton) (some map.count)
  count := map.count + 1
  lt_count place number found := by
    rw [Vector.getElem?_setIfInBounds] at found
    have old := map.lt_count place number
    grind
  place_unique place other number here there := by
    rw [Vector.getElem?_setIfInBounds] at here there
    have old := map.place_unique place other number
    have first := map.lt_count place number
    have second := map.lt_count other number
    grind

/-- Numbers the keys of a node from the first button on, ascending. -/
def ofKeys (keys : CodeSet keyBits) : ButtonMap :=
  (List.range' firstButton (keyBits - firstButton)).foldl
    (fun map code => if keys.has code then map.add code else map) empty

/-- Number of the button with a key code.  Codes below the first button and past the last have
none. -/
def number? (map : ButtonMap) (code : Nat) : Option Nat :=
  if code < firstButton then none else map.numbers[code - firstButton]?.join

/-- Two codes do not share a number. -/
theorem code_unique {map : ButtonMap} {code other number : Nat}
    (here : map.number? code = some number) (there : map.number? other = some number) :
    code = other := by
  obtain ⟨above, here⟩ := Option.ite_none_left_eq_some.mp here
  obtain ⟨above', there⟩ := Option.ite_none_left_eq_some.mp there
  have same := map.place_unique _ _ number (Option.join_eq_some_iff.mp here)
    (Option.join_eq_some_iff.mp there)
  omega

end ButtonMap

structure Decoder where
  buttons : ButtonMap
  layout : Axis.Layout
  pressed : Buttons
  deriving DecidableEq, Repr

namespace Decoder

/-- One slot for every range that is used, in order. -/
def layoutOf (ranges : List CodeRange) : Axis.Layout :=
  (ranges.filter (·.isUsed)).foldl
    (fun layout range => layout.pushLinear range.code (.declared range.min range.max)) .empty

/-- A decoder at rest. -/
def ofControls (keys : CodeSet keyBits) (ranges : List CodeRange) : Decoder :=
  let buttons := ButtonMap.ofKeys keys
  ⟨buttons, layoutOf ranges, .atRest buttons.count⟩

def buttonCount (decoder : Decoder) : Nat := decoder.buttons.count

def axisCount (decoder : Decoder) : Nat := decoder.layout.size

/-- Number of the button with a key code. -/
def button? (decoder : Decoder) (code : Nat) : Option Nat := decoder.buttons.number? code

/-- Takes the value of a button: any but zero is down.  A repeated state reports nothing. -/
def press (decoder : Decoder) (button : Nat) (down : Bool) : Decoder × List EventKind :=
  let (pressed, kinds) := decoder.pressed.press button down
  ({ decoder with pressed }, kinds)

/-- Takes a sample and reports what changed. -/
def decode (decoder : Decoder) (sample : Sample) : Except Overflow (Decoder × List EventKind) :=
  if sample.kind = keyKind then
    match decoder.button? sample.code with
    | some button => .ok (decoder.press button (sample.value != 0))
    | none => .ok (decoder, [])
  else if sample.kind = axisKind then
    match decoder.layout.find? sample.code with
    | some axis => do
      let (layout, changes) ← decoder.layout.feed axis sample.value
      pure ({ decoder with layout }, changes.map .axis)
    | none => .ok (decoder, [])
  else .ok (decoder, [])

end Decoder

end GamepadInput.Evdev
