import FixtureHarness.Shell.Interpreter

/-! # The system of installed programs

Programs run one at a time on the files. Standard output and standard error are the same pipe, and
there is nothing on standard input.
-/

namespace FixtureHarness.Shell

/-- The bound on the depth of what runs. -/
def runDepth : Nat := 20000

/-- The number of the process that launches the first program. -/
def launchingProcess : Nat := 1000

/-- A machine before a program starts: nothing to read, and a pipe that collects. -/
def freshMachine (files : FileTree) : Machine where
  files := files
  streams := #[.nothing .reading, .collector []]
  signals := []
  nextProcess := launchingProcess + 2

/-- The descriptors of a program whose two outputs share the pipe. -/
def pipedDescriptors : Descriptors :=
  [(0, 0), (1, 1), (2, 1)]

/-- The limits that hold at the start. Those that are not here do not hold. -/
def usualLimits : List Limit :=
  [⟨'s', some 8388608, none⟩, ⟨'c', some 0, none⟩, ⟨'l', some 8388608, some 8388608⟩,
    ⟨'p', some 128619, some 128619⟩, ⟨'n', some 20000, some 20000⟩, ⟨'r', some 0, some 0⟩]

/-- What a program finds that is started on files. -/
def outside (files : FileTree) : Session :=
  let path : Variable := ⟨some usualSearchPath, true, false, true⟩
  { Session.fresh (freshMachine files) pipedDescriptors (launchingProcess + 1)
      [launchingProcess] with
    bindings := [("PATH".toList, path)], limits := usualLimits }

/-- The exit code of a program that has ended by itself. -/
def Ending.exitCode? : Ending → Option Int
  | exited code => some code
  | signalled _ => none

/-- Launches installed programs and executable files. -/
def system : System := fun program arguments files =>
  if (program :: arguments).any fun text => text.toList.contains nul then .error .nulInText
  else
    match launch files (Octets.ofString program) (arguments.map Octets.ofString) with
    | .error fault => .error fault
    | .ok found =>
      let (machine, ending) := runProgramWithin runDepth found (outside files)
      .ok
        { output := Octets.toBytes (machine.collected 1)
          exitCode := ending.exitCode?
          files := { machine.files with working := files.working } }

end FixtureHarness.Shell
