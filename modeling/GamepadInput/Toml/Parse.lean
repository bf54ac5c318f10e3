/-!
# Reading a text from left to right

A reading step takes characters off the front of a text or fails, and a failed step takes nothing.
Repetition ends on every text: each step takes a character at least, so there are no more steps than
characters.
-/

namespace GamepadInput.Toml

abbrev Parse (α : Type) := StateT (List Char) Option α

namespace Parse

variable {α : Type}

/-- One character of a class. -/
def oneOf (accept : Char → Bool) : Parse Char := fun text =>
  match text with
  | c :: rest => if accept c then some (c, rest) else none
  | [] => none

def char (c : Char) : Parse Unit := do
  let _ ← oneOf (· = c)

/-- These characters, in order. -/
def literal (expected : String) : Parse Unit := fun text =>
  if expected.toList.isPrefixOf text then some ((), text.drop expected.length) else none

/-- The longest run of characters of a class, which may be empty. -/
def run (accept : Char → Bool) : Parse (List Char) := fun text =>
  some (text.takeWhile accept, text.dropWhile accept)

/-- A run that is not empty. -/
def someRun (accept : Char → Bool) : Parse (List Char) := do
  let first ← oneOf accept
  return first :: (← run accept)

/-- Nothing is left. -/
def finish : Parse Unit := fun text => if text.isEmpty then some ((), []) else none

/-- What a step reads as often as it can be read, but not more often than `limit` is long. -/
def manyFrom (step : Parse α) : (limit text : List Char) → List α × List Char
  | [], text => ([], text)
  | _ :: limit, text =>
    match step text with
    | none => ([], text)
    | some (a, rest) =>
      let (others, rest) := manyFrom step limit rest
      (a :: others, rest)

/-- Reads as often as possible, which may be never.  The step takes a character at least. -/
def many (step : Parse α) : Parse (List α) := fun text =>
  some (manyFrom step text text)

/-- Reads once or more, with something between each two. -/
def separated (separator : Parse Unit) (step : Parse α) : Parse (List α) := do
  let first ← step
  return first :: (← many (separator *> step))

/-- Exactly `count` characters of a class. -/
def exactly (accept : Char → Bool) : (count : Nat) → Parse (List Char)
  | 0 => pure []
  | count + 1 => do
    let first ← oneOf accept
    return first :: (← exactly accept count)

end Parse

end GamepadInput.Toml
