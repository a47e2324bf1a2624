import FixtureHarness.Command.Launch
import FixtureHarness.Shell.Tool.Cat
import FixtureHarness.Shell.Tool.Grep
import FixtureHarness.Shell.Tool.Print
import FixtureHarness.Shell.Tool.Remove

/-! # Programs

A program is installed in one of the directories for programs, or it is an executable file whose
first line names the program that runs it. A name without a slash is looked for in the directories
of a search path.
-/

namespace FixtureHarness.Shell

/-- An installed program. -/
inductive Program where
  | shell
  | tool (run : Tool)

/-- The tool that does nothing. -/
def succeed : Tool := fun _ machine => (machine, 0)

/-- The tool that does nothing and fails. -/
def failQuietly : Tool := fun _ machine => (machine, 1)

/-- An installed program by its name. -/
def installed? (name : Octets) : Option Program :=
  match String.ofList name with
  | "sh" => some .shell
  | "dash" => some .shell
  | "echo" => some (.tool Echo.run)
  | "printf" => some (.tool Printf.run)
  | "cat" => some (.tool Cat.run)
  | "rm" => some (.tool Remove.run)
  | "grep" => some (.tool Grep.run)
  | "true" => some (.tool succeed)
  | "false" => some (.tool failQuietly)
  | _ => none

/-! ## The places of the system -/

/-- The directories of the system. -/
def systemDirectories : List (List String) :=
  [[], ["bin"], ["dev"], ["etc"], ["home"], ["lib"], ["opt"], ["proc"], ["root"], ["sbin"], ["sys"],
    ["tmp"], ["usr"], ["usr", "bin"], ["usr", "lib"], ["usr", "local"], ["usr", "local", "bin"],
    ["usr", "local", "sbin"], ["usr", "sbin"], ["usr", "share"], ["var"], ["var", "tmp"]]

/-- The directories that hold the installed programs. -/
def programDirectories : List (List String) :=
  [["bin"], ["usr", "bin"]]

/-- A place of the system. -/
inductive SystemPlace where
  | directory
  | program (program : Program)

/-- The place that parts of a path lead to from a directory of the system. -/
def systemPlaceFrom? : List String → List Octets → Option SystemPlace
  | directory, [] => if systemDirectories.contains directory then some .directory else none
  | directory, part :: rest =>
    if part.isEmpty || part = ['.'] then systemPlaceFrom? directory rest
    else if part = ['.', '.'] then systemPlaceFrom? directory.dropLast rest
    else if programDirectories.contains directory && rest.isEmpty then
      (installed? part).map .program
    else
      let next := directory ++ [String.ofList part]
      if systemDirectories.contains next then systemPlaceFrom? next rest else none

/-- The place of the system that a path leads to. -/
def systemPlace? (path : Octets) : Option SystemPlace :=
  match path with
  | '/' :: rest => systemPlaceFrom? [] (Text.splitAt '/' rest)
  | _ => none

/-- An installed program by its path. -/
def installedAt? (path : Octets) : Option Program :=
  match systemPlace? path with
  | some (.program program) => some program
  | _ => none

/-! ## Files that are started -/

/-- A program with the name and the arguments that it gets. -/
structure Launch where
  program : Program
  name : Octets
  arguments : List Octets

/-- What keeps a file from being started. -/
def launchFault : FileFault → LaunchFault
  | .notFound => .notFound
  | .notADirectory => .notADirectory
  | .nameTooLong => .nameTooLong
  | .nulInName => .nulInText
  | fault => .other fault.message

/-- Whether a character is a blank in the first line of a file. -/
def isLineBlank (char : Char) : Bool :=
  char = ' ' || char = '\t'

/-- How many bytes of a file are looked at for the program that runs it. -/
def headSize : Nat := 256

/-- A text without the blanks at its end. -/
def dropBlanksAtEnd (text : Octets) : Octets :=
  (text.reverse.dropWhile isLineBlank).reverse

/-- The program that the first line of a file names, with the one argument that it can give. A name
that does not end among the first bytes of the file counts for nothing. -/
def interpreter? (content : Octets) : Option (Octets × List Octets) :=
  match content with
  | '#' :: '!' :: _ =>
    let head := (content ++ List.replicate headSize '\x00').take headSize
    let inside := head.drop 2
    let beforeNul := inside.takeWhile (· ≠ '\x00')
    let line := beforeNul.takeWhile (· ≠ '\n')
    let endsName (char : Char) : Bool := isLineBlank char || char = '\x00'
    let line? :=
      if line.length < beforeNul.length then some line
      else
        let cut := inside.dropLast
        let start := cut.dropWhile isLineBlank
        if start.any endsName then some cut else none
    line?.bind fun line =>
      let line := (dropBlanksAtEnd line).dropWhile isLineBlank
      let name := line.takeWhile fun char => !endsName char
      let behind := line.drop name.length
      let argument :=
        if behind.head?.any isLineBlank then
          (behind.dropWhile isLineBlank).takeWhile (· ≠ '\x00')
        else []
      if line.isEmpty then none
      else some (name, if argument.isEmpty then [] else [argument])
  | _ => none

/-- The longest name of a program in bytes. -/
def maxProgramName : Nat := 255

/-- Finds what a path starts. The bound counts files that name each other. -/
def launchPath (files : FileTree) : Nat → Octets → List Octets → Except LaunchFault Launch
  | 0, _, _ => .error .tooManyLinks
  | fuel + 1, path, arguments =>
    match systemPlace? path with
    | some (.program program) => .ok ⟨program, path, arguments⟩
    | some .directory => .error .permissionDenied
    | none =>
      match files.locate (pathOf path) with
      | .error fault => .error (launchFault fault)
      | .ok location =>
        match files.lookup? location with
        | some (.file content true) =>
          match interpreter? (Octets.ofBytes content) with
          | some (name, given) => launchPath files fuel name (given ++ path :: arguments)
          | none => .error .notExecutable
        | _ => .error .permissionDenied

/-- How many files may name each other one after the other. -/
def maxInterpreters : Nat := 6

/-- Finds what a name starts. -/
def launch (files : FileTree) (name : Octets) (arguments : List Octets) :
    Except LaunchFault Launch :=
  if name.contains '/' then launchPath files maxInterpreters name arguments
  else
    match installed? name with
    | some program => .ok ⟨program, name, arguments⟩
    | none =>
      if name = ['.'] || name = ['.', '.'] then .error .permissionDenied
      else if maxProgramName < name.length then .error .nameTooLong
      else .error .notFound

/-! ## Search paths -/

/-- The search path of programs unless a variable says otherwise. -/
def usualSearchPath : Octets :=
  "/usr/local/sbin:/usr/local/bin:/usr/sbin:/usr/bin:/sbin:/bin".toList

/-- The paths that a name may have by a search path. -/
def candidates (searchPath name : Octets) : List Octets :=
  (Text.splitAt ':' searchPath).map fun directory =>
    if directory.isEmpty then name else directory ++ '/' :: name

/-- What lies at a path where a program is looked for. -/
inductive Candidate where
  | runnable
  | forbidden
  | missing (fault : FileFault)
  deriving DecidableEq, Repr

/-- Looks at a path where a program may lie. -/
def candidateAt (files : FileTree) (path : Octets) : Candidate :=
  match systemPlace? path with
  | some (.program _) => .runnable
  | some .directory => .forbidden
  | none =>
    match files.locate (pathOf path) with
    | .error fault => .missing fault
    | .ok location =>
      match files.lookup? location with
      | some (.file _ true) => .runnable
      | _ => .forbidden

/-- The path of a program by a search path, or whether one was found that cannot be run. -/
def search (files : FileTree) (searchPath name : Octets) : Except Bool Octets :=
  let paths := candidates searchPath name
  match paths.find? fun path => candidateAt files path = .runnable with
  | some path => .ok path
  | none => .error (paths.any fun path => candidateAt files path = .forbidden)

end FixtureHarness.Shell
