import FixtureHarness.CommandLine.Run
import FixtureHarness.FileTree.Changes
import FixtureHarness.Shell.System
import Std.Time.DateTime.Timestamp

/-! # The program

Reads the files below the working directory, runs the command line on them, puts the changes in
place and prints. Everything is decided in the modules that this one calls.
-/

namespace FixtureHarness.CommandLine

/-- How deep directories are read. -/
def maxDepth : Nat := 64

/-- Whether the first line of a file says what runs it. -/
def namesInterpreter (content : List UInt8) : Bool :=
  content.take 2 = [0x23, 0x21]

/-- Reads what lies at an entry of a directory and below it. -/
def readEntry : Nat → Location → IO.FS.DirEntry → IO (List (Location × Entry))
  | 0, _, _ => return []
  | depth + 1, parent, entry => do
    let location := parent ++ [entry.fileName.toList]
    if ← entry.path.isDir then
      let below ← (← entry.path.readDir).toList.mapM (readEntry depth location)
      return (location, .directory) :: below.flatten
    else
      try
        let content := (← IO.FS.readBinFile entry.path).toList
        return [(location, .file content (namesInterpreter content))]
      catch _ => return []

/-- The directories on the way to a location. -/
def directoriesTo (location : Location) : List (Location × Entry) :=
  (List.range location.length).map fun count => (location.take (count + 1), .directory)

/-- Reads the files below the working directory. -/
def readTree : IO FileTree := do
  let here ← IO.currentDir
  let working := (here.components.filter fun name => !name.isEmpty).map String.toList
  let below ← (← here.readDir).toList.mapM (readEntry maxDepth working)
  return ⟨working, directoriesTo working ++ below.flatten⟩

/-- Removes what lies at a path. A directory's path ends in a slash. -/
def removePath (path : String) : IO Unit :=
  try
    if path.endsWith "/" then IO.FS.removeDirAll path else IO.FS.removeFile path
  catch _ => return

/-- Writes an entry to its path. -/
def writeEntry (path : String) : Entry → IO Unit
  | .directory => IO.FS.createDirAll path
  | .file content _ => IO.FS.writeBinFile path ⟨content.toArray⟩

/-- Puts the changes from one tree to another in place. -/
def writeChanges (before after : FileTree) : IO Unit := do
  let changes := before.changes after
  changes.gone.reverse.forM removePath
  changes.written.forM fun (path, entry) => writeEntry path entry

/-- What the environment tells. -/
def readEnvironment : IO Environment := do
  return ⟨← IO.getEnv "TRANSFORMER_HARNESS_CONFIG", ← IO.getEnv "RUST_LOG"⟩

/-- The present moment. -/
def presentInstant : IO Instant := do
  return ⟨(← Std.Time.Timestamp.now).toNanosecondsSinceUnixEpoch.val.toNat⟩

end FixtureHarness.CommandLine

open FixtureHarness FixtureHarness.CommandLine in
/-- Runs the program with its arguments. -/
def main (arguments : List String) : IO UInt32 := do
  let files ← readTree
  let instant ← presentInstant
  let environment ← readEnvironment
  let response := CommandLine.run Shell.system (fun _ => instant) environment arguments files
  writeChanges files response.files
  IO.print response.output
  IO.eprint response.complaints
  return response.exitCode.toUInt32
