import Assay.Text.Cut

/-!
# Files

The files that a run can see, as a value. Every file and directory is known by the names on the way
to it from the root. A path that is not absolute starts at the working directory, and every name of
which nothing is known counts as missing.
-/

namespace Assay

/-- What a file holds: a text, or octets that are not one. -/
inductive Content where
  | text (s : String)
  | octets
  deriving DecidableEq, Repr, Inhabited

/-- The files and directories that can be seen. Of two files under the same names the first
counts. -/
structure Files where
  /-- The working directory. -/
  home : List String := []
  files : List (List String × Content) := []
  directories : List (List String) := []
  deriving Inhabited

namespace Files

/-- Why a file cannot be read. -/
inductive Error where
  | missing
  | notDirectory
  | isDirectory
  | nameTooLong
  | badName
  | notText
  deriving DecidableEq, Repr

/-- The wording of an error, with the number that the system gives it. -/
def Error.message : Error → String
  | .missing => "No such file or directory (os error 2)"
  | .notDirectory => "Not a directory (os error 20)"
  | .isDirectory => "Is a directory (os error 21)"
  | .nameTooLong => "File name too long (os error 36)"
  | .badName => "file name contained an unexpected NUL byte"
  | .notText => "stream did not contain valid UTF-8"

/-- What a path leads to. -/
inductive Place where
  | directory (names : List String)
  | file (content : Content)
  deriving DecidableEq, Repr

/-- Whether names lead to a directory: a given one, or one that something lies in. -/
def hasDirectory (fs : Files) (names : List String) : Bool :=
  names.isPrefixOf fs.home || fs.directories.any (names.isPrefixOf ·) ||
    fs.files.any fun f => names.isPrefixOf f.1

/-- Where one name leads from a place. Above the root there is nothing but the root. -/
def enter (fs : Files) (place : Place) (name : String) : Except Error Place :=
  match place with
  | .file _ => .error .notDirectory
  | .directory names =>
    if name = "" ∨ name = "." then .ok place
    else if name = ".." then .ok (.directory names.dropLast)
    else if 255 < name.utf8ByteSize then .error .nameTooLong
    else
      let names := names ++ [name]
      match fs.files.lookup names with
      | some content => .ok (.file content)
      | none => if fs.hasDirectory names then .ok (.directory names) else .error .missing

/-- The names of a path. -/
def names (path : String) : List String :=
  (Text.split '/' path.toList).map String.ofList

/-- The directory that a path starts at. -/
def start (fs : Files) (path : String) : List String :=
  if path.toList.head? = some '/' then [] else fs.home

/-- What a path leads to. -/
def find (fs : Files) (path : String) : Except Error Place :=
  if path.toList.contains '\x00' then .error .badName
  else if path.isEmpty then .error .missing
  else if 4096 ≤ path.utf8ByteSize then .error .nameTooLong
  else (names path).foldlM fs.enter (.directory (fs.start path))

/-- The text of the file at a path. -/
def read (fs : Files) (path : String) : Except Error String := do
  match ← fs.find path with
  | .file (.text s) => return s
  | .file .octets => throw .notText
  | .directory _ => throw .isDirectory

/-- The names on the way to what a path would lead to if every directory on it existed. -/
def locate (fs : Files) (path : String) : List String :=
  (names path).foldl (fun place name =>
    if name = "" ∨ name = "." then place else if name = ".." then place.dropLast else place ++ [name])
    (fs.start path)

/-- The files with a further one, or a changed one, at a path. -/
def write (fs : Files) (path : String) (content : Content) : Files :=
  { fs with files := (fs.locate path, content) :: fs.files }

/-- The files with a further directory. -/
def makeDirectory (fs : Files) (path : String) : Files :=
  { fs with directories := fs.locate path :: fs.directories }

end Files

end Assay
