import GamepadInput.KeyName
import GamepadInput.Text.Blank
import GamepadInput.Text.Quoted

/-!
# Key combinations

A combination is written as names separated by plus signs, commas and white space, in any number.
A name is a run of ASCII letters and digits: a single character names the key it is printed on, a
longer one a modifier or else a key.  The mask is the union of the modifiers named, and every key
is listed once, where it is first named.
-/

namespace GamepadInput

/-- Modifiers to hold and keys to press. -/
structure Combo where
  modifiers : Modifiers
  /-- The keys, each once, in the order of their first mention. -/
  keys : List Key
  deriving DecidableEq, Repr

/-- Why a text is not a combination. -/
inductive ComboError where
  /-- The text names nothing. -/
  | empty
  | unknownToken (token : String)
  /-- `offset` counts the bytes before the character. -/
  | invalidCharacter (char : Char) (offset : Nat)
  deriving DecidableEq, Repr

def ComboError.message : ComboError → String
  | .empty => "combo string names no keys or modifiers"
  | .unknownToken token => "unknown key or modifier `" ++ token ++ "`"
  | .invalidCharacter char offset =>
    "unexpected character " ++ Text.quotedChar char ++ " at offset " ++ toString offset

namespace Combo

def empty : Combo := ⟨.none, []⟩

def isEmpty (combo : Combo) : Bool := combo.modifiers = .none && combo.keys.isEmpty

def addKey (combo : Combo) (key : Key) : Combo :=
  if key ∈ combo.keys then combo else { combo with keys := combo.keys ++ [key] }

def addModifiers (combo : Combo) (mask : Modifiers) : Combo :=
  { combo with modifiers := combo.modifiers ||| mask }

/-- What a name stands for. -/
inductive Part where
  | modifiers (mask : Modifiers)
  | key (key : Key)
  deriving DecidableEq, Repr

def add (combo : Combo) : Part → Combo
  | .modifiers mask => combo.addModifiers mask
  | .key key => combo.addKey key

/-- The part that a token names. -/
def Part.ofToken? (token : List Char) : Option Part :=
  match token with
  | [c] => (Key.ofChar? c).map .key
  | _ =>
    let name := String.ofList token
    match Modifiers.byName? name with
    | some mask => some (.modifiers mask)
    | none => (Key.byName? name).map .key

/-- Characters between names. -/
def isSeparator (c : Char) : Bool := c = '+' || c = ',' || Text.isBlank c

/-- Bytes of a text in UTF-8. -/
def byteLength (text : List Char) : Nat := text.foldr (fun c length => c.utf8Size + length) 0

/-- Reads `text`, which starts at byte `offset`, into a combination begun before it. -/
def read (combo : Combo) (offset : Nat) (text : List Char) : Except ComboError Combo :=
  match text with
  | [] => .ok combo
  | c :: rest =>
    if isSeparator c then combo.read (offset + c.utf8Size) rest
    else if c.isAlphanum then
      let token := c :: rest.takeWhile Char.isAlphanum
      match Part.ofToken? token with
      | some part =>
        (combo.add part).read (offset + byteLength token) (rest.dropWhile Char.isAlphanum)
      | none => .error (.unknownToken (String.ofList token))
    else .error (.invalidCharacter c offset)
  termination_by text.length
  decreasing_by
    · simp
    · exact Nat.lt_succ_of_le (List.dropWhile_sublist _).length_le

/-- The combination that a text names. -/
def parse (text : String) : Except ComboError Combo := do
  let combo ← empty.read 0 text.toList
  if combo.isEmpty then .error .empty else .ok combo

end Combo

end GamepadInput
