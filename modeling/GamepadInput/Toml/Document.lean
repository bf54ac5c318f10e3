import GamepadInput.Toml.Scalar

/-!
# TOML documents

A document is a sequence of lines: definitions of keys, headers, and comments.  Definitions belong
to the table whose header is the last before them.
-/

namespace GamepadInput.Toml

open Parse

/-- Lists and tables nest less deep than this, and dotted keys have fewer parts. -/
def depthLimit : Nat := 80

/-! ## Keys and values -/

def isBareKeyChar (c : Char) : Bool := c.isAlphanum || c = '-' || c = '_'

def simpleKey : Parse String := lineString <|> (String.ofList <$> someRun isBareKeyChar)

/-- A dotted key; white space may stand around each part. -/
def dottedKey : Parse (List String) := do
  let path ← separated (char '.') (spaces *> simpleKey <* spaces)
  if path.length < depthLimit then return path else failure

def comment : Parse Unit := do
  char '#'
  let _ ← run isLineChar

/-- White space, line ends and comments between the items of a list. -/
def gap : Parse Unit := do
  let _ ← many ((do let _ ← someRun isSpace) <|> lineEnd <|> (comment *> lineEnd))

/-- One definition: the path of its key, and its value. -/
abbrev Definition := List String × Value

/-- A definition, given how to read its value. -/
def definition (value : Parse Value) : Parse Definition := do
  let path ← dottedKey
  char '='
  spaces
  return (path, ← value)

/-- The fields that definitions in braces make. -/
def inlineFields? (definitions : List Definition) : Option Fields :=
  definitions.foldlM (fun fields (path, value) => fields.define? value path) []

def list (value : Parse Value) : Parse Value := do
  char '['
  let items ← optional (separated (char ',') (gap *> value <* gap))
  let _ ← match items with
    | some _ => optional (char ',')
    | none => pure none
  gap
  char ']'
  return .list (items.getD [])

def inlineTable (value : Parse Value) : Parse Value := do
  char '\x7b'
  spaces
  let definitions ← optional (separated (char ',' *> spaces) (definition value <* spaces))
  char '\x7d'
  match inlineFields? (definitions.getD []) with
  | some fields => return .inlineTable fields
  | none => failure

/-- A value in which lists and tables nest at most `depth` deep. -/
def value : (depth : Nat) → Parse Value
  | 0 => scalar
  | depth + 1 => scalar <|> list (value depth) <|> inlineTable (value depth)

/-! ## Lines -/

inductive Line where
  | definition (path : List String) (value : Value)
  /-- The header of a table. -/
  | table (path : List String)
  /-- The header of one more table of a list. -/
  | element (path : List String)
  deriving Repr

/-- The rest of a line: white space and a comment. -/
def lineRest : Parse Unit := do
  spaces
  let _ ← optional comment

def line : Parse Line :=
  (Line.element <$> (literal "[[" *> dottedKey <* literal "]]")) <|>
  (Line.table <$> (char '[' *> dottedKey <* char ']')) <|>
  (do
    let (path, value) ← definition (value (depthLimit - 1))
    return .definition path value)

/-- Lines, each of which may hold nothing. -/
def lines : Parse (List Line) := do
  let written ← separated lineEnd (spaces *> optional line <* lineRest)
  finish
  return written.filterMap id

/-- The lines of a text.  A mark of the byte order in front of it does not count. -/
def linesOf? (text : String) : Option (List Line) :=
  let body := match text.toList with
    | '\uFEFF' :: rest => rest
    | text => text
  (lines body).map (·.1)

/-! ## Documents -/

/-- A document as far as it has been read. -/
structure Draft where
  fields : Fields
  /-- Path of the table that definitions go to; empty for the document itself. -/
  current : List String

namespace Draft

def empty : Draft := ⟨[], []⟩

/-- Opens the table of a header. -/
def openWith? (draft : Draft) (path : List String) (change : String → Fields → Option Fields) :
    Option Draft := do
  let key ← path.getLast?
  return ⟨← draft.fields.atHeader? (change key) path.dropLast, path⟩

def add? (draft : Draft) : Line → Option Draft
  | .definition path value => do
    return { draft with
      fields := ← draft.fields.atHeader? (·.define? value path) draft.current }
  | .table path => draft.openWith? path Fields.openTable?
  | .element path => draft.openWith? path Fields.openElement?

end Draft

/-- The document that lines make; `none` if two of them contradict each other. -/
def Fields.ofLines? (lines : List Line) : Option Fields :=
  (lines.foldlM Draft.add? .empty).map (·.fields)

/-- Reads a document. -/
def Fields.parse? (text : String) : Option Fields := do
  Fields.ofLines? (← linesOf? text)

end GamepadInput.Toml
