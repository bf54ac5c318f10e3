/-!
# TOML values

A document is a table.  A table remembers how it came to be, since that decides what may still be
added to it: a table is given its own header once, its header does not open one made by dotted
keys, and dotted keys do not reach into one that has a header.
-/

namespace GamepadInput.Toml

/-- How a table came to be. -/
inductive Origin where
  /-- Its own header, or braces. -/
  | defined
  /-- A header further down names it on the way. -/
  | implied
  /-- A dotted key names it on the way. -/
  | dotted
  deriving DecidableEq, Repr

inductive Value where
  | integer (n : Int)
  /-- A number with a fraction or an exponent, infinity or no number; which one is not kept. -/
  | float
  | boolean (b : Bool)
  | text (s : String)
  /-- A date, a time, or both; which one is not kept. -/
  | moment
  | list (items : List Value)
  /-- A table between braces, which is complete. -/
  | inlineTable (fields : List (String × Value))
  | table (origin : Origin) (fields : List (String × Value))
  /-- Tables with a header of two brackets; the last of them is still open. -/
  | tables (front : List (List (String × Value))) (last : List (String × Value))
  deriving Repr

/-- The fields of a table; no key occurs twice. -/
abbrev Fields := List (String × Value)

namespace Fields

def find? (fields : Fields) (key : String) : Option Value := List.lookup key fields

/-- Gives a key its value, in place of the one it had. -/
def put (fields : Fields) (key : String) (value : Value) : Fields :=
  match fields with
  | [] => [(key, value)]
  | (other, old) :: rest =>
    if other = key then (key, value) :: rest else (other, old) :: put rest key value

/-- Adds a value under a key that has none. -/
def insert? (fields : Fields) (key : String) (value : Value) : Option Fields :=
  match fields.find? key with
  | some _ => none
  | none => some (fields ++ [(key, value)])

/-- Adds a value under a dotted key: tables on the way are made, and those there must not have a
header.  The table that takes the value must have been made by dotted keys. -/
def define? (value : Value) : (path : List String) → Fields → Option Fields
  | [], _ => none
  | [key], fields => fields.insert? key value
  | step :: key :: path, fields =>
    match fields.find? step with
    | none => do
      return fields.put step (.table .dotted (← define? value (key :: path) []))
    | some (.table .dotted inner) => do
      return fields.put step (.table .dotted (← define? value (key :: path) inner))
    | some (.table .implied inner) => do
      guard (!path.isEmpty)
      return fields.put step (.table .implied (← define? value (key :: path) inner))
    | some (.tables front last) => do
      guard (!path.isEmpty)
      return fields.put step (.tables front (← define? value (key :: path) last))
    | some _ => none

/-- Changes the table that a header leads to.  Tables on the way are made; of a list of tables the
last is meant. -/
def atHeader? (change : Fields → Option Fields) : (path : List String) → Fields → Option Fields
  | [], fields => change fields
  | step :: path, fields =>
    match fields.find? step with
    | none => do
      return fields.put step (.table .implied (← atHeader? change path []))
    | some (.table origin inner) => do
      return fields.put step (.table origin (← atHeader? change path inner))
    | some (.tables front last) => do
      return fields.put step (.tables front (← atHeader? change path last))
    | some _ => none

/-- Opens the table of a header, which may have been implied but not defined. -/
def openTable? (key : String) (fields : Fields) : Option Fields :=
  match fields.find? key with
  | none => some (fields.put key (.table .defined []))
  | some (.table .implied inner) => some (fields.put key (.table .defined inner))
  | some _ => none

/-- Opens one more table of a list of tables. -/
def openElement? (key : String) (fields : Fields) : Option Fields :=
  match fields.find? key with
  | none => some (fields.put key (.tables [] []))
  | some (.tables front last) => some (fields.put key (.tables (front ++ [last]) []))
  | some _ => none

end Fields

end GamepadInput.Toml
