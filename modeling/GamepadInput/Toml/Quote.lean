import GamepadInput.Toml.Parse

/-!
# TOML strings

A basic string has escapes and a literal string has none.  Both have a form that spans lines, in
which a line end is read as a line feed, and a quote or two may stand anywhere, also in front of
the closing three.
-/

namespace GamepadInput.Toml

open Parse

/-- Space and tab. -/
def isSpace (c : Char) : Bool := c = ' ' || c = '\t'

/-- A character that may stand in a line: no control but the tab. -/
def isLineChar (c : Char) : Bool := c = '\t' || (0x20 ≤ c.toNat && c.toNat != 0x7F)

/-- A line end: line feed, or carriage return and line feed. -/
def lineEnd : Parse Unit := literal "\n" <|> literal "\r\n"

/-- Spaces and tabs. -/
def spaces : Parse Unit := do
  let _ ← run isSpace

def isHexDigit (c : Char) : Bool :=
  c.isDigit || ('a' ≤ c && c ≤ 'f') || ('A' ≤ c && c ≤ 'F')

/-- Value of a digit in any base up to sixteen. -/
def digitValue (c : Char) : Nat :=
  if c.isDigit then c.toNat - '0'.toNat
  else if 'a' ≤ c then c.toNat - 'a'.toNat + 10
  else c.toNat - 'A'.toNat + 10

def numberOf (base : Nat) (digits : List Char) : Nat :=
  digits.foldl (fun n c => base * n + digitValue c) 0

/-- The character of a code point; surrogates and numbers past the last have none. -/
def codePoint? (n : Nat) : Option Char :=
  if h : n.isValidChar then some (Char.ofNatAux n h) else none

def hexEscape (count : Nat) : Parse Char := do
  let digits ← exactly isHexDigit count
  match codePoint? (numberOf 16 digits) with
  | some c => return c
  | none => failure

/-- Characters that stand behind a backslash, and what they mean. -/
def shortEscapes : List (Char × Char) :=
  [('b', '\x08'), ('t', '\t'), ('n', '\n'), ('f', '\x0C'), ('r', '\r'), ('"', '"'), ('\\', '\\')]

def shortEscape : Parse Char := do
  let c ← oneOf fun _ => true
  match shortEscapes.lookup c with
  | some meaning => return meaning
  | none => failure

def escape : Parse Char := do
  char '\\'
  shortEscape <|> (char 'u' *> hexEscape 4) <|> (char 'U' *> hexEscape 8)

/-- A backslash at the end of a line takes the line end and the white space after it away. -/
def continuedLine : Parse (List Char) := do
  char '\\'
  spaces
  lineEnd
  let _ ← many (lineEnd <|> do let _ ← someRun isSpace)
  return []

def isBasicChar (c : Char) : Bool := isLineChar c && c != '"' && c != '\\'

def isLiteralChar (c : Char) : Bool := isLineChar c && c != '\''

def basicString : Parse (List Char) :=
  char '"' *> many (oneOf isBasicChar <|> escape) <* char '"'

def literalString : Parse (List Char) := char '\'' *> run isLiteralChar <* char '\''

/-- A line end inside a string. -/
def innerLineEnd : Parse (List Char) := do
  lineEnd
  return ['\n']

/-- One or two quotes that more text follows. -/
def innerQuotes (quote : Char) : Parse (List Char) := fun text =>
  let quotes := text.takeWhile (· = quote)
  if 1 ≤ quotes.length && quotes.length ≤ 2 then some (quotes, text.dropWhile (· = quote)) else none

/-- The closing three quotes, with up to two in front of them. -/
def closingQuotes (quote : Char) : Parse (List Char) := fun text =>
  let quotes := (text.takeWhile (· = quote)).take 5
  if 3 ≤ quotes.length then some (quotes.drop 3, text.drop quotes.length) else none

/-- A string that spans lines, made up of pieces.  A line end right behind the opening quotes does
not count. -/
def spanningString (quote : Char) (piece : Parse (List Char)) : Parse (List Char) := do
  literal (String.ofList [quote, quote, quote])
  let _ ← optional lineEnd
  let body ← many (piece <|> innerLineEnd <|> innerQuotes quote)
  return body.flatten ++ (← closingQuotes quote)

def spanningBasic : Parse (List Char) :=
  spanningString '"' (someRun isBasicChar <|> continuedLine <|> (([·]) <$> escape))

def spanningLiteral : Parse (List Char) := spanningString '\'' (someRun isLiteralChar)

/-- A string of one line. -/
def lineString : Parse String := String.ofList <$> (basicString <|> literalString)

/-- A string of any form. -/
def anyString : Parse String :=
  String.ofList <$> (spanningBasic <|> spanningLiteral <|> basicString <|> literalString)

end GamepadInput.Toml
