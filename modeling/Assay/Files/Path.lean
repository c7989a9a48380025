import Assay.Text.Cut

/-!
# Paths

Operations on the text of a path: its ending, the directory that a file lies in, and paths relative
to a directory.
-/

namespace Assay.Path

/-- Whether a path starts at the root. -/
def isAbsolute (path : String) : Bool :=
  path.toList.head? = some '/'

/-- The last name of a path. -/
def lastName (cs : List Char) : List Char :=
  (cs.reverse.takeWhile (· ≠ '/')).reverse

/-- The ending of a file's name: what follows its last dot. A dot at its start does not count. -/
def ending? (path : String) : Option String :=
  let name := lastName path.toList
  match Text.cut (· = '.') name.reverse with
  | some (back, front) =>
    if front.isEmpty || name == ['.', '.'] then none else some (String.ofList back.reverse)
  | none => none

/-- Drops slashes and names that lead nowhere from the end of a path, given in reverse. A dot that is
all there is stays. -/
def trimReversed : List Char → List Char
  | '/' :: cs => if cs.isEmpty then ['/'] else trimReversed cs
  | '.' :: '/' :: cs => if cs.isEmpty then ['/'] else trimReversed cs
  | cs => cs

/-- The directory that a file lies in, empty for the working directory. -/
def parent (path : String) : String :=
  let back := trimReversed path.toList.reverse
  let back := back.dropWhile (· ≠ '/')
  String.ofList (trimReversed back).reverse

/-- A path relative to a directory. -/
def join (directory path : String) : String :=
  if isAbsolute path || directory.isEmpty then path
  else if directory.toList.getLast? = some '/' then directory ++ path
  else directory ++ "/" ++ path

end Assay.Path
