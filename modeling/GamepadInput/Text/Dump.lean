import GamepadInput.Text.Quoted

/-!
# Diagnostic text of values

A record is written as its name and its fields between braces, an optional value and a tagged one
as a name with the value in parentheses, a list between brackets.
-/

namespace GamepadInput.Text.Dump

def bool (b : Bool) : String := if b then "true" else "false"

def nat (n : Nat) : String := digits 10 0 n

def list (items : List String) : String := "[" ++ ", ".intercalate items ++ "]"

/-- A value marked with a name. -/
def tagged (name value : String) : String := name ++ "(" ++ value ++ ")"

def option (value : Option String) : String := value.elim "None" (tagged "Some")

private def fieldText (field : String × String) : String := field.1 ++ ": " ++ field.2

/-- A record with all its fields. -/
def record (name : String) (fields : List (String × String)) : String :=
  name ++ " \x7b " ++ ", ".intercalate (fields.map fieldText) ++ " \x7d"

/-- A record of which only some fields are shown. -/
def partialRecord (name : String) (fields : List (String × String)) : String :=
  name ++ " \x7b " ++ ", ".intercalate (fields.map fieldText) ++ ", .. \x7d"

end GamepadInput.Text.Dump
