import PlanBrowser.Text.Pieces

/-!
# Paths as texts

A path is a text whose names are parted by slashes, and it is shown as it was given.  Repeated slashes and
single dots say nothing, except that a dot may be the first name of a path that does not begin with a slash.

* `join` — a path below another one;
* `parent?` — the path without its last name;
* `names`, `isAbsolute`, `endsInSlash` — what a path says.
-/

namespace PlanBrowser.Files.Path

/-- The path begins at the root. -/
def isAbsolute (path : String) : Bool :=
  path.toList.head? == some '/'

/-- The path asks for a folder. -/
def endsInSlash (path : String) : Bool :=
  path.toList.getLast? == some '/'

/-- The names of a path, dots included. -/
def names (path : String) : List String :=
  ((Text.pieces '/' path.toList).filter (!·.isEmpty)).map String.ofList

/-- **A path below another one.**  A path from the root stands for itself. -/
def join (base path : String) : String :=
  if isAbsolute path || base.isEmpty then path
  else if endsInSlash base then base ++ path
  else base ++ "/" ++ path

/-- The pieces of a path up to its last name.  A dot is a name only at the front of a relative path. -/
def upToLastName : List (List Char) → List (List Char)
  | [] => []
  | p :: ps =>
    match upToLastName ps with
    | [] => if p = [] || p = ['.'] then [] else [p]
    | q :: qs => p :: q :: qs

/-- The pieces up to the last name when the first piece is a name or stands for the root. -/
def trimmed : List (List Char) → List (List Char)
  | [] => []
  | p :: ps => p :: upToLastName ps

/-- **The path without its last name**; a path without names has no parent. -/
def parent? (path : String) : Option String :=
  let text (ps : List (List Char)) : String := String.ofList (Text.joined ['/'] ps)
  match trimmed (Text.pieces '/' path.toList) with
  | [] | [[]] => none
  | [_] => some ""
  | p :: ps =>
    let before := trimmed (p :: ps.dropLast)
    some (if before = [[]] then "/" else text before)

end PlanBrowser.Files.Path
