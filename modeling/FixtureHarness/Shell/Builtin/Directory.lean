import FixtureHarness.Shell.Builtin.Basic

/-! # Builtins for the working directory -/

namespace FixtureHarness.Shell.Builtin

/-- The path of a location. -/
def pathText (location : Location) : Octets :=
  '/' :: List.intercalate ['/']
    (location.map fun name => Octets.ofString (String.ofList name))

/-- The location that a path leads to by its names alone, where two dots go up. -/
def namedLocation (working : Location) (path : Octets) : Location :=
  let parts := Text.splitAt '/' (Octets.text path).toList
  let start := if path.head? = some '/' then [] else working
  parts.foldl (fun location part =>
    if part.isEmpty || part = ['.'] then location
    else if part = ['.', '.'] then location.dropLast
    else location ++ [part]) start

/-- Whether there is a directory at a location. -/
def isDirectoryAt (files : FileTree) (location : Location) : Bool :=
  files.hasDirectory location ||
    match systemPlace? (pathText location) with
    | some .directory => true
    | _ => false

/-- The location of the directory that a path leads to. Only a physical path has to go through
directories that exist. -/
def directoryAt? (files : FileTree) (isPhysical : Bool) (path : Octets) : Option Location :=
  let location := namedLocation files.working path
  let isDirectory := isDirectoryAt files location
  if !isDirectory then none
  else if isPhysical && (files.locate (pathOf path)).toOption.isNone &&
      (systemPlace? path).isNone then none
  else some location

/-- Goes to a directory. -/
def goTo (isPhysical : Bool) (path : Octets) : Action Bool := do
  let session ← get
  let files := session.machine.files
  match directoryAt? files isPhysical path with
  | none => return false
  | some location =>
    Action.setMarked "OLDPWD".toList (some (pathText files.working)) true false false
    Action.onMachine fun machine =>
      { machine with files := { machine.files with working := location } }
    Action.setMarked "PWD".toList (some (pathText location)) true false false
    return true

/-- Whether a path begins with a slash, or with one or two dots that are a name. -/
def isFixed (path : Octets) : Bool :=
  match path with
  | '/' :: _ => true
  | ['.'] => true
  | '.' :: '/' :: _ => true
  | ['.', '.'] => true
  | '.' :: '.' :: '/' :: _ => true
  | _ => false

/-- Prints the path of the working directory. -/
def printWorking : Action Unit := do
  let session ← get
  Action.printLine (pathText session.machine.files.working)

/-- The first path below the directories of a search path that is a directory, and whether it lies
below one that was named. -/
def searchDirectory? (files : FileTree) (isPhysical : Bool) (searchPath? : Option Octets)
    (name : Octets) : Option (Octets × Bool) :=
  let directories :=
    match searchPath? with
    | none => []
    | some searchPath => Text.splitAt ':' searchPath
  directories.findSome? fun directory =>
    let path := if directory.isEmpty then name else directory ++ '/' :: name
    if (directoryAt? files isPhysical path).isSome then some (path, !directory.isEmpty) else none

/-- Changes the working directory. -/
def cd : Builtin := fun arguments => do
  let (choices, arguments) ← options "LP" arguments
  let isPhysical := (choices.getLast?.map (·.letter)) = some 'P'
  let session ← get
  let (target, prints) :=
    match arguments with
    | [] => ((session.value? "HOME".toList).getD [], false)
    | ['-'] :: _ => ((session.value? "OLDPWD".toList).getD [], true)
    | name :: _ => (name, false)
  let name := if target.isEmpty then ['.'] else target
  let found? :=
    if isFixed target then none
    else
      searchDirectory? session.machine.files isPhysical (session.value? "CDPATH".toList) name
  let (path, prints) :=
    match found? with
    | some (path, isBelow) => (path, prints || isBelow)
    | none => (name, prints)
  if ← goTo isPhysical path then
    if prints then printWorking
    return 0
  else Action.fail ("can't cd to ".toList ++ name)

/-- Prints the path of the working directory. -/
def pwd : Builtin := fun arguments => do
  let _ ← options "LP" arguments
  printWorking
  return 0

end FixtureHarness.Shell.Builtin
