/-!
# Paths

A path names the steps from one directory to another, with slashes between them.  Empty names and a
single dot stay where they are; two dots lead back.
-/

namespace GamepadInput.Path

/-- The part of `text` before its first slash, and the parts after it. -/
def parts : List Char → List Char × List (List Char)
  | [] => ([], [])
  | c :: rest =>
    let (first, others) := parts rest
    if c = '/' then ([], first :: others) else (c :: first, others)

/-- The names in a path that lead somewhere. -/
def names (path : String) : List String :=
  let (first, others) := parts path.toList
  ((first :: others).map String.ofList).filter fun name => name != "" && name != "."

/-- The name that leads back. -/
def parent : String := ".."

/-- The path starts at the root. -/
def isAbsolute (path : String) : Bool := path.toList.head? = some '/'

/-- Path of an entry in a directory. -/
def child (directory name : String) : String :=
  if directory.toList.getLast? = some '/' then directory ++ name else directory ++ "/" ++ name

end GamepadInput.Path
