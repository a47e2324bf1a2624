import FixtureHarness.Text.Lines

/-! # Verdicts

A runner reports success by printing a fixed marker. Its output passes exactly when the marker
occurs somewhere in it, with its letters as they are; the exit code plays no part.
-/

namespace FixtureHarness

/-- What the output of a runner says about a test case. -/
inductive Verdict where
  | passed
  | failed
  deriving DecidableEq, Repr

namespace Verdict

/-- The text that a runner prints on success. -/
def marker : String := "Test passed!"

/-- The verdict on a captured output. -/
def classify (output : String) : Verdict :=
  if Text.occursIn marker.toList output.toList then .passed else .failed

/-- The name of a verdict. -/
def name : Verdict → String
  | passed => "passed"
  | failed => "failed"

/-- Whether a verdict is `passed`. -/
def isPassed (verdict : Verdict) : Bool :=
  decide (verdict = .passed)

end Verdict

end FixtureHarness
