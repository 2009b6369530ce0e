import TextAnalysis.Error
import TextAnalysis.Text.Utf8

/-!
# Files

The files below a directory, as far as they are of interest. A file is reached by a path, which leads
through directories that must be there.
-/

namespace TextAnalysis

/-- The content of a file. -/
abbrev Bytes := List UInt8

/-- Files and directories by the names along their paths, with slashes between them. Of several
entries of a name the first one counts. -/
structure Files where
  entries : List (String × Bytes) := []
  directories : List String := []
deriving Repr, DecidableEq

namespace Files

/-- The content of the file with the given name. -/
def find? (files : Files) (name : String) : Option Bytes := files.entries.lookup name

/-- The files without the one of the given name. -/
def erase (files : Files) (name : String) : Files :=
  { files with entries := files.entries.filter fun entry => entry.1 ≠ name }

/-- The files with `content` under the given name. -/
def insert (files : Files) (name : String) (content : Bytes) : Files :=
  { files with entries := (name, content) :: (files.erase name).entries }

/-- The greatest number of bytes in one name along a path. -/
def greatestNameLength : Nat := 255

/-- The names along a path, without those that stay in the same directory. A path from the root begins
with an empty name. -/
def pathNames (path : String) : List String :=
  let names := ((path.toList.splitOn '/').map String.ofList).filter fun name =>
    name ≠ "" ∧ name ≠ "."
  if path.toList.head? = some '/' then "" :: names else names

/-- The names along a path as one. -/
def joinNames (names : List String) : String := "/".intercalate names

/-- Whether a path can only lead to a directory. -/
def endsInDirectory (path : String) : Bool :=
  match path.toList.reverse with
  | '/' :: _ => true
  | '.' :: '/' :: _ => true
  | _ => false

/-- Whether the names lead to a directory. -/
def isDirectory (files : Files) (names : List String) : Bool :=
  names = [] || files.directories.contains (joinNames names)

/-- What is wrong with a path through something that is not there or that is a file. -/
def passageFault (files : Files) (names : List String) : FileFault :=
  if (List.range names.length).any fun n => (files.find? (joinNames (names.take (n + 1)))).isSome
  then .notADirectory
  else .notFound

/-- The name of the file that a path leads to, whether or not there is such a file. -/
def locate (files : Files) (path : String) : Except FileFault String :=
  let names := pathNames path
  if path.toList.contains '\x00' then .error .nulInName
  else if path = "" then .error .notFound
  else if names.any fun name => greatestNameLength < name.utf8ByteSize then .error .nameTooLong
  else if files.isDirectory names then .error .isADirectory
  else if !files.isDirectory names.dropLast || endsInDirectory path then
    .error (files.passageFault names)
  else .ok (joinNames names)

/-- Whether something is found at a path. -/
def present (files : Files) (path : String) : Bool :=
  match files.locate path with
  | .ok name => (files.find? name).isSome
  | .error fault => fault = .isADirectory

/-- The content of the file at a path. -/
def read (files : Files) (path : String) : Except FileFault Bytes :=
  match files.locate path with
  | .error fault => .error fault
  | .ok name =>
    match files.find? name with
    | some content => .ok content
    | none => .error .notFound

/-- The content of the file at a path as text. -/
def readText (files : Files) (path : String) : Except FileFault String :=
  match files.read path with
  | .error fault => .error fault
  | .ok content =>
    match Text.ofBytes? content with
    | some text => .ok text
    | none => .error .notText

/-- The files after `content` is written at a path. -/
def write (files : Files) (path : String) (content : Bytes) : Except FileFault Files :=
  match files.locate path with
  | .error fault => .error fault
  | .ok name => .ok (files.insert name content)

/-- The files after the one at a path is removed. -/
def remove (files : Files) (path : String) : Except FileFault Files :=
  match files.locate path with
  | .error fault => .error fault
  | .ok name =>
    if (files.find? name).isSome then .ok (files.erase name) else .error .notFound

end Files

end TextAnalysis
