import AccountKeeper.Text.Pieces

/-!
# Paths

A path is a text; its parts are the names between slashes.  Relative paths are
joined to a base, and a leading `~` stands for the home directory.
-/

set_option autoImplicit false

namespace AccountKeeper.Path

def parts (path : String) : List String :=
  ((Text.pieces '/' path.toList).filter (· ≠ [])).map String.ofList

def isAbsolute (path : String) : Bool :=
  path.toList.head? = some '/'

def endsInSlash (path : String) : Bool :=
  path.toList.getLast? = some '/'

/-- The steps that lead to a path: its names without those that stay where they are, except for such
a name at the start of a relative path. -/
def steps (path : String) : List String :=
  match parts path with
  | [] => []
  | first :: rest =>
    let others := rest.filter (· ≠ ".")
    if first = "." ∧ isAbsolute path then others else first :: others

def ofSteps (absolute : Bool) (steps : List String) : String :=
  (if absolute then "/" else "") ++ "/".intercalate steps

/-- The path without its last step; a path without steps has no parent. -/
def parent? (path : String) : Option String :=
  if steps path = [] then none else some (ofSteps (isAbsolute path) (steps path).dropLast)

/-- The paths above `path`, from the nearest one up, as far as they have steps. -/
def above (path : String) : List String :=
  let names := steps path
  (List.range (names.length - 1)).reverse.map fun count =>
    ofSteps (isAbsolute path) (names.take (count + 1))

/-- `name` below `base`; an absolute `name` stands for itself. -/
def join (base name : String) : String :=
  if isAbsolute name then name
  else if base = "" ∨ endsInSlash base then base ++ name
  else base ++ "/" ++ name

/-- Replaces a leading `~`, alone or before a slash, by the home directory. -/
def expandHome (home : Option String) (path : String) : String :=
  match home, path.toList with
  | some directory, '~' :: rest =>
    if rest = [] then directory
    else if rest.head? = some '/' then directory ++ String.ofList rest
    else path
  | _, _ => path

end AccountKeeper.Path
