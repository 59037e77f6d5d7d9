import QueryGate.Text.Encoding

/-!
# Files and paths

A disk has directories and files, which are found by following the names of a path one after the
other from the root. Reading needs a file; appending also creates one in a directory that exists.
The first name that cannot be followed decides why a file cannot be opened.

A path can be made absolute and normal without looking at the disk: names that are empty or a
single point are left out, and two points take the name before them away. Names and paths are raw
texts.
-/

namespace QueryGate

open QueryGate.Text

def slash : RawUnit := .char '/'

def slashParts : List RawUnit → List (List RawUnit)
  | [] => [[]]
  | unit :: rest =>
      if unit = slash then [] :: slashParts rest
      else match slashParts rest with
        | part :: parts => (unit :: part) :: parts
        | [] => [[unit]]

/-- The name of a directory in itself. -/
def selfName : RawText := "."

/-- The name of the directory above a directory. -/
def parentName : RawText := ".."

/-- The names of a path. A slash at the end stands for a last name of a single point, because only
a directory may come before it. -/
def pathNames (path : RawText) : List RawText :=
  let parts := (slashParts path.units).map RawText.mk
  parts.filter (!·.isEmpty) ++ if path.units.getLast? == some slash then [selfName] else []

/-- Go one name further in a normal path. -/
def normalStep (names : List RawText) (name : RawText) : List RawText :=
  if name == selfName then names
  else if name == parentName then names.dropLast
  else names ++ [name]

def normalNames (path : RawText) : List RawText := (pathNames path).foldl normalStep []

/-- The path starts at the root. -/
def isAbsolute (path : RawText) : Bool := path.units.head? == some slash

/-- What an absolute path starts with. Exactly two slashes are kept, any other number is one. -/
def leadingSlashes (path : RawText) : RawText :=
  if (path.units.takeWhile (· == slash)).length = 2 then "//" else "/"

/-- The absolute and normal form of a path, which is taken from a directory unless it is absolute
itself. -/
def absolutePath (directory path : RawText) : RawText :=
  let whole :=
    if isAbsolute path then path
    else if directory.units.getLast? == some slash then directory ++ path
    else directory ++ "/" ++ path
  leadingSlashes whole ++ ⟨List.intercalate [slash] ((normalNames whole).map (·.units))⟩

/-- Why a file cannot be opened. -/
inductive OpenFailure where
  | missing
  | notDirectory
  | isDirectory
  | nameTooLong
  deriving DecidableEq, Repr

/-- A file that cannot be opened. -/
inductive OpenFault where
  /-- A path with a null character is no path. -/
  | nullCharacter
  | refused (failure : OpenFailure) (path : RawText)
  deriving DecidableEq, Repr

def OpenFailure.name : OpenFailure → String
  | .missing => "FileNotFoundError"
  | .notDirectory => "NotADirectoryError"
  | .isDirectory => "IsADirectoryError"
  | .nameTooLong => "OSError"

/-- The operating system's number and text for a failure. -/
def OpenFailure.message : OpenFailure → String
  | .missing => "[Errno 2] No such file or directory"
  | .notDirectory => "[Errno 20] Not a directory"
  | .isDirectory => "[Errno 21] Is a directory"
  | .nameTooLong => "[Errno 36] File name too long"

def OpenFault.name : OpenFault → String
  | .nullCharacter => "ValueError"
  | .refused failure _ => failure.name

def OpenFault.message : OpenFault → String
  | .nullCharacter => "embedded null byte"
  | .refused failure path => failure.message ++ ": " ++ path.literal

def maxNameBytes : Nat := 255

def maxPathBytes : Nat := 4095

/-- What stands at a place of a disk. -/
inductive Node where
  | directory
  | file
  deriving DecidableEq, Repr

/-- The directories and files that the program may open, by absolute paths. The root is a directory
of every disk. -/
structure Disk where
  files : List RawText := []
  directories : List RawText := []
  /-- The directory that other paths are taken from. -/
  current : RawText := "/"
  deriving Repr

namespace Disk

/-- What stands at the end of some names from the root. -/
def node? (disk : Disk) (names : List RawText) : Option Node :=
  if names.isEmpty || disk.directories.any fun path => normalNames path == names then
    some .directory
  else if disk.files.any fun path => normalNames path == names then some .file
  else none

/-- Follow names from a place, whose own names are given. Only a directory can be left. -/
def follow (disk : Disk) (place : List RawText) :
    List RawText → Except OpenFailure (List RawText)
  | [] => .ok place
  | name :: rest => match disk.node? place with
    | none => .error .missing
    | some .file => .error .notDirectory
    | some .directory =>
        if maxNameBytes < name.byteSize then .error .nameTooLong
        else disk.follow (normalStep place name) rest

def find? (disk : Disk) (path : RawText) : Except OpenFailure (Option Node) := do
  if path.isEmpty then throw .missing
  if maxPathBytes < path.byteSize then throw .nameTooLong
  let start := if isAbsolute path then [] else normalNames disk.current
  return disk.node? (← disk.follow start (pathNames path))

/-- Open a file at a path, with the outcome for a place where nothing stands. -/
def openOr (disk : Disk) (path : RawText) (absent : Except OpenFailure Unit) :
    Except OpenFault Unit :=
  if path.units.contains (.char '\x00') then .error .nullCharacter
  else
    let outcome : Except OpenFailure Unit := do
      match ← disk.find? path with
      | some .file => return ()
      | some .directory => throw .isDirectory
      | none => absent
    outcome.mapError (.refused · path)

def openForReading (disk : Disk) (path : RawText) : Except OpenFault Unit :=
  disk.openOr path (.error .missing)

/-- Open a file for appending, under its absolute and normal path. A file that is missing is
created. -/
def openForAppending (disk : Disk) (path : RawText) : Except OpenFault Unit :=
  disk.openOr (absolutePath disk.current path) (.ok ())

end Disk

end QueryGate
