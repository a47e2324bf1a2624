import FixtureHarness.FileTree.Basic

/-! # Launching programs

A system launches a program by its name with arguments. It either fails to start, or runs to its end
and leaves what it wrote to its two streams, which share one pipe, its exit code and the files.
-/

namespace FixtureHarness

/-- Why a program cannot be started. -/
inductive LaunchFault where
  | notFound
  | permissionDenied
  | notADirectory
  | nameTooLong
  | notExecutable
  /-- Files that name each other's programs make a chain that is too long. -/
  | tooManyLinks
  | nulInText
  | other (text : String)
  deriving DecidableEq, Repr

/-- The text of a launch fault; those that the system reports carry its number. -/
def LaunchFault.message : LaunchFault → String
  | notFound => "No such file or directory (os error 2)"
  | permissionDenied => "Permission denied (os error 13)"
  | notADirectory => "Not a directory (os error 20)"
  | nameTooLong => "File name too long (os error 36)"
  | notExecutable => "Exec format error (os error 8)"
  | tooManyLinks => "Too many levels of symbolic links (os error 40)"
  | nulInText => "nul byte found in provided data"
  | other text => text

/-- What a program leaves when it has ended. -/
structure Ended where
  /-- The bytes of both streams in the order of writing. -/
  output : List UInt8
  /-- Missing if the program was ended by a signal. -/
  exitCode : Option Int
  files : FileTree

/-- Launches a program with arguments on files. -/
abbrev System := String → List String → FileTree → Except LaunchFault Ended

end FixtureHarness
