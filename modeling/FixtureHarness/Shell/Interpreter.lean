import FixtureHarness.Shell.Start

/-! # The interpreter

Commands, texts, scripts and programs run each other. Each of them runs the others one level deeper,
so that running ends; a script that goes too deep counts as ended by a signal.
-/

namespace FixtureHarness.Shell

mutual

/-- Runs a command, at most so many levels deep. -/
def runCommandWithin : Nat → Flags → Option Command → Action Nat
  | 0, _, _ => Action.stop .exhausted
  | depth + 1, flags, command? =>
    Action.runCommand
      ⟨runCommandWithin depth, runTextWithin depth, runScriptWithin depth,
        runProgramWithin depth⟩
      flags command?

/-- Runs a text, at most so many levels deep. -/
def runTextWithin : Nat → Flags → Octets → Action Nat
  | 0, _, _ => Action.stop .exhausted
  | depth + 1, flags, text =>
    Action.runText
      ⟨runCommandWithin depth, runTextWithin depth, runScriptWithin depth,
        runProgramWithin depth⟩
      flags text

/-- Runs the script of a file, at most so many levels deep. -/
def runScriptWithin : Nat → Octets → Action Nat
  | 0, _ => Action.stop .exhausted
  | depth + 1, content =>
    Action.runInput
      ⟨runCommandWithin depth, runTextWithin depth, runScriptWithin depth,
        runProgramWithin depth⟩
      false content

/-- Runs a program, at most so many levels deep. -/
def runProgramWithin : Nat → Launch → Session → Machine × Ending
  | 0, _, session => (session.machine, .signalled 11)
  | depth + 1, launch, session =>
    Action.runProgram
      ⟨runCommandWithin depth, runTextWithin depth, runScriptWithin depth,
        runProgramWithin depth⟩
      launch session

end

end FixtureHarness.Shell
