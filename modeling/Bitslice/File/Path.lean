/-!
# Paths

A path is a text of steps separated by `/`. One that starts with `/` begins at
the root, any other in the working directory. A step is a name, `.`, which
stays in its directory, or `..`, which leads one directory up; empty steps do
not count.
-/

namespace Bitslice.Path

/-- The steps of a path. -/
def steps (path : String) : List String :=
  (path.splitOn "/").filter (· ≠ "")

/-- The steps that lead somewhere else. -/
def moves (path : String) : List String :=
  (steps path).filter (· ≠ ".")

/-- The path begins at the root. -/
def isAbsolute (path : String) : Bool :=
  path.startsWith "/"

/-- The path can only name a directory, because a separator ends it. -/
def namesDirectory (path : String) : Bool :=
  path.endsWith "/"

/-- A name below a directory. A separator that is already there is not doubled. -/
def join (directory name : String) : String :=
  if directory.endsWith "/" then directory ++ name else directory ++ "/" ++ name

/-- The last name of a path, unless the path ends by going up or goes nowhere. -/
def fileName? (path : String) : Option String :=
  (moves path).getLast?.filter (· ≠ "..")

/-- The path of some steps. -/
def ofSteps (absolute : Bool) (names : List String) : String :=
  (if absolute then "/" else "") ++ "/".intercalate names

/-- The directories above the last move of a path, nearest first, without the one the path starts
in. -/
def ancestors (path : String) : List String :=
  let moves := moves path
  ((List.range (moves.length - 1)).map fun shorter =>
    ofSteps (isAbsolute path) (moves.take (shorter + 1))).reverse

end Bitslice.Path
