import FixtureHarness.Verdict

/-! # Outcomes

What performing a test case leaves behind when nothing kept the runner from being called: the text
it was captured with, the verdict on that text, and the queries that contributed nothing. The exit
code is kept for information and decides nothing.
-/

namespace FixtureHarness

/-- The outcome of one performed test case. -/
structure Outcome where
  test : String
  passed : Bool
  output : String
  exitCode : Option Int
  missing : List String
  deriving DecidableEq, Repr

namespace Outcome

/-- The message that a failed outcome is reported with. -/
def failureMessage (outcome : Outcome) : String :=
  s!"TEST FAILED!!\n{outcome.output}"

end Outcome

end FixtureHarness
