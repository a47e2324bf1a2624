import FixtureHarness.Command.Launch
import FixtureHarness.Harness.Runner
import FixtureHarness.Text.Lines

/-! # The command runner

Runs the configured program with the leading arguments and then each flag with its path. What the
program wrote is read as UTF-8, each maximal invalid part as one replacement character, and loses
one line ending at its end. A program that cannot be started gives a text that says so and no exit
code.
-/

namespace FixtureHarness

namespace RunnerSettings

/-- The arguments for the paths of a fixture. -/
def commandArguments (settings : RunnerSettings) (paths : FixturePaths) : List String :=
  settings.arguments ++
    [settings.scriptFlag, paths.script.text, settings.inputFlag, paths.input.text,
      settings.outputFlag, paths.output.text]

/-- The text that a program wrote. -/
def capturedText (output : List UInt8) : String :=
  String.ofList (Text.dropLineEnd (Utf8.decodeLossy output))

/-- The text for a program that cannot be started. -/
def launchText (program : String) (fault : LaunchFault) : String :=
  s!"{program}: {fault.message}"

/-- Runs the program on the paths of a fixture. -/
def run (settings : RunnerSettings) (system : System) (paths : FixturePaths) (files : FileTree) :
    RunnerReturn Unit :=
  let arguments := settings.commandArguments paths
  let start : Log.Record := .running settings.program arguments
  match system settings.program arguments files with
  | .ok ended =>
    { captured := ⟨capturedText ended.output, ended.exitCode⟩
      files := ended.files
      memory := ()
      log := [start] }
  | .error fault =>
    { captured := ⟨launchText settings.program fault, none⟩
      files := files
      memory := ()
      log := [start, .launchFailed settings.program fault.message] }

/-- The runner of these settings on a system. -/
def runner (settings : RunnerSettings) (system : System) : Runner Unit where
  run paths files _ := settings.run system paths files

end RunnerSettings

end FixtureHarness
