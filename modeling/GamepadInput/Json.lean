import GamepadInput.Text.Digits

/-!
# JSON documents

The text of a document in the indented layout: two spaces for each level, one member to a line.
-/

namespace GamepadInput

inductive Json where
  | null
  | bool (value : Bool)
  | integer (value : Int)
  /-- A number written with a fraction: `digits` with the point `places` to the left. -/
  | decimal (digits : Int) (places : Nat)
  | text (value : String)
  | list (items : List Json)
  | object (members : List (String × Json))
  deriving Inhabited

namespace Json

/-- One character inside a string. -/
def escapedChar (c : Char) : String :=
  match c with
  | '"' => "\\\""
  | '\\' => "\\\\"
  | '\x08' => "\\b"
  | '\x0c' => "\\f"
  | '\n' => "\\n"
  | '\r' => "\\r"
  | '\t' => "\\t"
  | c => if c.toNat < 0x20 then "\\u" ++ Text.hex 4 c.toNat else c.toString

def quote (s : String) : String := "\"" ++ String.join (s.toList.map escapedChar) ++ "\""

/-- Value of a member; of members with one name the last counts. -/
def member? (members : List (String × Json)) (name : String) : Option Json :=
  (members.findRev? (·.1 = name)).map (·.2)

private def indent (depth : Nat) : String := "".pushn ' ' (2 * depth)

/-- Lines between an opening and a closing bracket. -/
private def block (left right : String) (depth : Nat) (lines : List String) : String :=
  if lines.isEmpty then left ++ right
  else
    let body := ",\n".intercalate (lines.map (indent (depth + 1) ++ ·))
    left ++ "\n" ++ body ++ "\n" ++ indent depth ++ right

mutual

/-- The indented text of a value that starts at nesting `depth`. -/
def pretty (depth : Nat) : Json → String
  | .null => "null"
  | .bool value => if value then "true" else "false"
  | .integer value => toString value
  | .decimal digits places => toString digits ++ "e-" ++ toString places
  | .text value => quote value
  | .list items => block "[" "]" depth (prettyItems (depth + 1) items)
  | .object members => block "\x7b" "\x7d" depth (prettyMembers (depth + 1) members)

def prettyItems (depth : Nat) : List Json → List String
  | [] => []
  | item :: rest => pretty depth item :: prettyItems depth rest

def prettyMembers (depth : Nat) : List (String × Json) → List String
  | [] => []
  | (name, value) :: rest =>
    (quote name ++ ": " ++ pretty depth value) :: prettyMembers depth rest

end

end Json

end GamepadInput
