import FixtureHarness.Shell.Builtin.Basic
import FixtureHarness.Shell.Condition

/-! # Builtins that decide conditions -/

namespace FixtureHarness.Shell.Builtin

/-- Decides a condition. -/
def test : Builtin := fun arguments => do
  let session ← get
  match Condition.holds session.machine.files arguments with
  | .ok holds => return if holds then 0 else 1
  | .error fault => Action.fail fault.message

/-- Decides a condition that a bracket ends. -/
def bracket : Builtin := fun arguments =>
  if (arguments.getLast?.getD ['[']).head? = some ']' then test arguments.dropLast
  else Action.fail "missing ]".toList

end FixtureHarness.Shell.Builtin
