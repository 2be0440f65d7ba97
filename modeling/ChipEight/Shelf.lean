/-
The files a program can be loaded from.

A shelf is a directory with files in it and in directories below it.  A name is a way from
there, and its parts are gone one after the other: `.` stays where it is and `..` goes up.
A path is where such a way ends.  Of what lies above the shelf it is only known that those
are directories, unless a file was put there.  `ReadError` names what can go wrong on the
way.
-/
import ChipEight.Text.Quoted

namespace ChipEight

open Text

/-- Why a file cannot be read. -/
inductive ReadError where
  | missing
  /-- The host does not let it be read. -/
  | denied
  | notDirectory
  | isDirectory
  | nameTooLong
  deriving DecidableEq, Repr

namespace ReadError

/-- The number the host knows the error by. -/
def code : ReadError → Nat
  | missing => 2
  | denied => 13
  | notDirectory => 20
  | isDirectory => 21
  | nameTooLong => 36

def description : ReadError → String
  | missing => "No such file or directory"
  | denied => "Permission denied"
  | notDirectory => "Not a directory"
  | isDirectory => "Is a directory"
  | nameTooLong => "File name too long"

/-- The words the error is reported in for a file of some name. -/
def message (error : ReadError) (name : String) : String :=
  let code := error.code
  s!"[Errno {code}] " ++ error.description ++ ": " ++ Quoted.quote name

end ReadError

/-- A way to read files: the bytes of the file with a name, or why there are none. -/
abbrev Reader := String → Except ReadError (List UInt8)

/-- A place for a file, by the parts that lead there from the directory of the shelf.  Parts
`..` in front lead above it, and a part `/` in front to the directory above all others. -/
abbrev Path := List String

namespace Path

/-- Whether a path leads to the directory of the shelf or to one above it. -/
def isAncestor (path : Path) : Bool := path.all fun part => part = ".." || part = "/"

/-- The path one part further on. -/
def go (path : Path) (part : String) : Path :=
  if part = "" ∨ part = "." then path
  else if part = ".." ∧ !path.isAncestor then path.dropLast
  else path ++ [part]

/-- Where a name starts from. -/
def start (name : String) : Path := if name.startsWith "/" then ["/"] else []

end Path

/-- The files of a directory and of those below it. -/
abbrev Shelf := List (Path × List UInt8)

namespace Shelf

/-- What is found at the end of a path. -/
inductive Place where
  | directory (path : Path)
  | file (path : Path) (bytes : List UInt8)

/-- The longest part of a name, in bytes. -/
def longestPart : Nat := 255

/-- The longest name, in bytes. -/
def longestName : Nat := 4095

/-- Whether a path leads to a directory: to one that a file lies in or below, or to the
directory of the shelf, or above that. -/
def isDirectory (shelf : Shelf) (path : Path) : Bool :=
  path.isAncestor || shelf.any fun file => path ≠ file.1 && path.isPrefixOf file.1

/-- What a path leads to. -/
def place (shelf : Shelf) (path : Path) : Except ReadError Place :=
  match shelf.lookup path with
  | some bytes => .ok (.file path bytes)
  | none => if shelf.isDirectory path then .ok (.directory path) else .error .missing

/-- Goes the parts of a name. -/
def follow (shelf : Shelf) : Place → List String → Except ReadError Place
  | place, [] => .ok place
  | .file _ _, _ :: _ => .error .notDirectory
  | .directory path, part :: rest =>
    if longestPart < part.utf8ByteSize then .error .nameTooLong
    else do follow shelf (← shelf.place (path.go part)) rest

/-- Where a name starts from, if it can be that of a file at all. -/
def start (name : String) : Except ReadError Place :=
  if name = "" then .error .missing
  else if longestName < name.utf8ByteSize then .error .nameTooLong
  else .ok (.directory (Path.start name))

/-- What a name leads to. -/
def find (shelf : Shelf) (name : String) : Except ReadError Place := do
  shelf.follow (← start name) (name.splitOn "/")

/-- The bytes of the file with a name. -/
def read (shelf : Shelf) : Reader := fun name => do
  match ← shelf.find name with
  | .file _ bytes => return bytes
  | .directory _ => throw .isDirectory

/-! ### Changing files -/

/-- The shelf without the file at a path. -/
def erase (shelf : Shelf) (path : Path) : Shelf := shelf.filter fun file => file.1 ≠ path

/-- The shelf without the file that has a name. -/
def remove? (shelf : Shelf) (name : String) : Except ReadError Shelf := do
  match ← shelf.find name with
  | .file path _ => return shelf.erase path
  | .directory _ => throw .isDirectory

/-- The parts of a name without the empty ones at its end. -/
def namedParts (name : String) : List String :=
  ((name.splitOn "/").reverse.dropWhile (· = "")).reverse

/-- The shelf with other bytes in the file that has a name, or with a new file, if the
directory for it is there.  A name that ends in a slash can only be that of a directory. -/
def write? (shelf : Shelf) (name : String) (bytes : List UInt8) : Except ReadError Shelf := do
  let parts := namedParts name
  match ← shelf.follow (← start name) parts.dropLast with
  | .file _ _ => throw .notDirectory
  | .directory path =>
    let last := parts.getLastD ""
    let path := path.go last
    if name.endsWith "/" || shelf.isDirectory path then
      throw .isDirectory
    if longestPart < last.utf8ByteSize then
      throw .nameTooLong
    return (path, bytes) :: shelf.erase path

end Shelf

end ChipEight
