import FixtureHarness.Path

/-! # Failures

What can stop a test case or a command: a name that no catalog knows, a file operation, a text that
does not parse, or a catalog that contradicts itself. A runner that fails is an outcome, not a
failure, and a missing query fragment only shortens the script.
-/

namespace FixtureHarness

/-- Why a file operation failed. -/
inductive FileFault where
  | notFound
  | alreadyExists
  | notADirectory
  | isADirectory
  | nameTooLong
  | invalidText
  | nulInName
  | other (text : String)
  deriving DecidableEq, Repr

/-- The text of a file fault; those that the system reports carry its number. -/
def FileFault.message : FileFault → String
  | notFound => "No such file or directory (os error 2)"
  | alreadyExists => "File exists (os error 17)"
  | notADirectory => "Not a directory (os error 20)"
  | isADirectory => "Is a directory (os error 21)"
  | nameTooLong => "File name too long (os error 36)"
  | invalidText => "stream did not contain valid UTF-8"
  | nulInName => "file name contained an unexpected NUL byte"
  | other text => text

/-- Whatever keeps a request from being carried out. -/
inductive Failure where
  /-- No test case has this name. -/
  | unknownTestCase (name : String)
  /-- A file operation on this path failed. -/
  | fileAccess (path : Path) (fault : FileFault)
  /-- A catalog file does not parse. -/
  | catalogText (file message : String)
  /-- A configuration file does not parse. -/
  | configText (file message : String)
  /-- The catalogs contradict each other or themselves. -/
  | invalidCatalog (problems : List String)
  deriving DecidableEq, Repr

namespace Failure

/-- The text that a failure is reported with. -/
def message : Failure → String
  | unknownTestCase name => s!"Test case '{name}' not found in test-case catalog"
  | fileAccess path fault => s!"IO error for '{path.text}': {fault.message}"
  | catalogText file message => s!"Catalog parse error in {file}: {message}"
  | configText file message => s!"Config parse error in {file}: {message}"
  | invalidCatalog problems => "Invalid catalog: " ++ "; ".intercalate problems

/-- The text of the cause that lies under a failure. -/
def cause? : Failure → Option String
  | fileAccess _ fault => some fault.message
  | _ => none

end Failure

end FixtureHarness
