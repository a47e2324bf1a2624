import FixtureHarness.Failure
import FixtureHarness.Text.Lines
import FixtureHarness.Text.Utf8

/-! # File trees

The files and directories that a run can see, and the operations on them by path. A path is followed
name by name, and each name but the last has to lead to a directory; `..` goes up, and nothing is
normalised before. An operation that fails leaves the tree as it was.
-/

namespace FixtureHarness

/-- The names that lead from the root to a file, outermost first. -/
abbrev Location := List (List Char)

/-- What lies at a location. -/
inductive Entry where
  | directory
  | file (content : List UInt8) (executable : Bool)
  deriving DecidableEq, Repr

/-- The files and directories below the root, each with its location, and the directory that
relative paths start from. The root itself always exists. -/
structure FileTree where
  working : Location
  entries : List (Location × Entry)
  deriving DecidableEq, Repr

namespace FileTree

/-! ## Locations -/

/-- What lies at a location. -/
def lookup? (tree : FileTree) (location : Location) : Option Entry :=
  if location.isEmpty then some .directory
  else (tree.entries.find? fun entry => entry.1 = location).map (·.2)

/-- Whether a directory lies at a location. -/
def hasDirectory (tree : FileTree) (location : Location) : Bool :=
  tree.lookup? location = some .directory

/-- Puts something at a location, in place of what lies there. -/
def put (tree : FileTree) (location : Location) (entry : Entry) : FileTree :=
  if tree.entries.any fun other => other.1 = location then
    { tree with
      entries := tree.entries.map fun other =>
        if other.1 = location then (location, entry) else other }
  else { tree with entries := tree.entries ++ [(location, entry)] }

/-- Removes what lies at a location or below it. -/
def remove (tree : FileTree) (location : Location) : FileTree :=
  { tree with entries := tree.entries.filter fun entry => !location.isPrefixOf entry.1 }

/-! ## Following paths -/

/-- The greatest number of bytes in a name. -/
def maxName : Nat := 255

/-- The least number of bytes of a path that is too long. -/
def pathLimit : Nat := 4096

/-- Whether a name has too many bytes. -/
def isLong (name : List Char) : Bool :=
  maxName < Text.byteCount name

/-- The names of a path, without the empty ones between slashes. -/
def names (path : Path) : List (List Char) :=
  path.parts.filter fun part => !part.isEmpty

/-- Whether a path ends in a slash. -/
def endsInSlash (path : Path) : Bool :=
  path.text.toList.getLast? = some '/'

/-- The location that a path starts from. -/
def origin (tree : FileTree) (path : Path) : Location :=
  if path.isAbsolute then [] else tree.working

/-- What is wrong with a path whatever the files are. -/
def pathFault? (path : Path) : Option FileFault :=
  if path.text.toList.contains '\x00' then some .nulInName
  else if path.text.isEmpty then some .notFound
  else if pathLimit ≤ path.text.utf8ByteSize then some .nameTooLong
  else none

/-- Follows names from a location. -/
def walk (tree : FileTree) : Location → List (List Char) → Except FileFault Location
  | here, [] => .ok here
  | here, name :: rest =>
    match tree.lookup? here with
    | none => .error .notFound
    | some (.file ..) => .error .notADirectory
    | some .directory =>
      if name = ['.'] then walk tree here rest
      else if name = ['.', '.'] then walk tree here.dropLast rest
      else if isLong name then .error .nameTooLong
      else if (tree.lookup? (here ++ [name])).isNone then .error .notFound
      else walk tree (here ++ [name]) rest

/-- The location of something that exists. A final slash asks for a directory. -/
def locate (tree : FileTree) (path : Path) : Except FileFault Location :=
  match pathFault? path with
  | some fault => .error fault
  | none =>
    match tree.walk (tree.origin path) (names path) with
    | .error fault => .error fault
    | .ok location =>
      if endsInSlash path && !tree.hasDirectory location then .error .notADirectory
      else .ok location

/-- Where something may be made: a directory that exists, and the last name of the path. The name is
missing if the path ends in `.` or `..` or has no names. -/
structure Slot where
  directory : Location
  name? : Option (List Char)
  deriving DecidableEq, Repr

/-- The slot of a path. -/
def slot (tree : FileTree) (path : Path) : Except FileFault Slot :=
  match pathFault? path with
  | some fault => .error fault
  | none =>
    match tree.walk (tree.origin path) (names path).dropLast with
    | .error fault => .error fault
    | .ok directory =>
      match tree.lookup? directory with
      | none => .error .notFound
      | some (.file ..) => .error .notADirectory
      | some .directory =>
        match (names path).getLast? with
        | none => .ok ⟨directory, none⟩
        | some name =>
          .ok ⟨directory, if name = ['.'] || name = ['.', '.'] then none else some name⟩

/-! ## Reading -/

/-- What lies at a path. -/
def find? (tree : FileTree) (path : Path) : Option Entry :=
  match tree.locate path with
  | .ok location => tree.lookup? location
  | .error _ => none

/-- Whether a path leads to a directory. -/
def isDirectory (tree : FileTree) (path : Path) : Bool :=
  tree.find? path = some .directory

/-- The bytes of a file. -/
def read (tree : FileTree) (path : Path) : Except FileFault (List UInt8) :=
  match tree.locate path with
  | .error fault => .error fault
  | .ok location =>
    match tree.lookup? location with
    | none => .error .notFound
    | some .directory => .error .isADirectory
    | some (.file content _) => .ok content

/-- The text of a file, which has to be in UTF-8. -/
def readText (tree : FileTree) (path : Path) : Except FileFault String :=
  match tree.read path with
  | .error fault => .error fault
  | .ok content =>
    match Utf8.decode? content with
    | some chars => .ok (String.ofList chars)
    | none => .error .invalidText

/-- The text of a file, or the failure that names it. -/
def readFile (tree : FileTree) (path : Path) : Except Failure String :=
  match tree.readText path with
  | .ok text => .ok text
  | .error fault => .error (.fileAccess path fault)

/-! ## Writing -/

/-- Where a path says a file is to be written, with the file that lies there. -/
def writeLocation (tree : FileTree) (path : Path) : Except FileFault (Location × Bool) :=
  match tree.slot path with
  | .error fault => .error fault
  | .ok ⟨_, none⟩ => .error .isADirectory
  | .ok ⟨directory, some name⟩ =>
    if endsInSlash path then .error .isADirectory
    else if isLong name then .error .nameTooLong
    else
      match tree.lookup? (directory ++ [name]) with
      | none => .ok (directory ++ [name], false)
      | some .directory => .error .isADirectory
      | some (.file _ executable) => .ok (directory ++ [name], executable)

/-- Writes a file, replacing its content. -/
def write (tree : FileTree) (path : Path) (content : List UInt8) : Except FileFault FileTree :=
  match tree.writeLocation path with
  | .error fault => .error fault
  | .ok (location, executable) => .ok (tree.put location (.file content executable))

/-- Writes a text as a file. -/
def writeText (tree : FileTree) (path : Path) (text : String) : Except FileFault FileTree :=
  tree.write path (Utf8.bytesOf text)

/-- Makes a directory in one that exists. -/
def makeDirectory (tree : FileTree) (path : Path) : Except FileFault FileTree :=
  match tree.slot path with
  | .error fault => .error fault
  | .ok ⟨_, none⟩ => .error .alreadyExists
  | .ok ⟨directory, some name⟩ =>
    if isLong name then .error .nameTooLong
    else if (tree.lookup? (directory ++ [name])).isSome then .error .alreadyExists
    else .ok (tree.put (directory ++ [name]) .directory)

/-- Makes a directory unless it is there already. -/
def ensureDirectory (tree : FileTree) (path : Path) : Except FileFault FileTree :=
  match tree.makeDirectory path with
  | .ok made => .ok made
  | .error fault =>
    if fault = .alreadyExists && tree.isDirectory path then .ok tree else .error fault

/-- The path and the paths above it, innermost first, without the root and the empty path. -/
def ancestors : Nat → Path → List Path
  | 0, _ => []
  | fuel + 1, path =>
    match path.parent? with
    | none => []
    | some parent => if path.text.isEmpty then [] else path :: ancestors fuel parent

/-- Makes the directories of paths, each inside the one before. Returns the tree as far as it got.
-/
def ensureAll : FileTree → List Path → FileTree × Option FileFault
  | tree, [] => (tree, none)
  | tree, path :: rest =>
    match tree.ensureDirectory path with
    | .ok made => ensureAll made rest
    | .error fault => (tree, some fault)

/-- Makes the first of some paths that can be made, and the paths before it from there on. -/
def ensureFrom (tree : FileTree) : List Path → List Path → FileTree × Option FileFault
  | [], missing => tree.ensureAll missing
  | path :: rest, missing =>
    match tree.ensureDirectory path with
    | .ok made => made.ensureAll missing
    | .error .notFound => ensureFrom tree rest (path :: missing)
    | .error fault => (tree, some fault)

/-- Makes a directory with all that are missing above it. Returns the tree as far as it got. -/
def ensureTree (tree : FileTree) (path : Path) : FileTree × Option FileFault :=
  tree.ensureFrom (ancestors (path.text.length + 1) path) []

end FileTree

end FixtureHarness
