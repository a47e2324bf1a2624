import FixtureHarness.Report.Basic

/-! # Collecting a report

The results of a suite are recorded one after the other, as they come. A report can be made at any
moment: it covers what was recorded until then, and making it leaves the collection as it is.
-/

namespace FixtureHarness

/-- What was recorded since a suite began. -/
structure ReportCollector where
  suite : String
  start : Instant
  cases : List CaseReport
  deriving DecidableEq, Repr

namespace ReportCollector

/-- The collector of a suite that begins. -/
def started (suite : String) (start : Instant) : ReportCollector :=
  ⟨suite, start, []⟩

/-- Records a case. -/
def record (collector : ReportCollector) (case : CaseReport) : ReportCollector :=
  { collector with cases := collector.cases ++ [case] }

/-- The report of what was recorded until a moment. -/
def generate (collector : ReportCollector) (finish : Instant) : SuiteReport :=
  .ofCases collector.suite collector.start finish collector.cases

/-- A call on a collector. -/
inductive Call where
  /-- Records a performed test case. -/
  | addOutcome (outcome : Outcome) (milliseconds : Nat)
  /-- Records a test case that could not be executed. -/
  | addFailure (name : String) (cause : Failure) (milliseconds : Nat)
  /-- Makes a report. -/
  | generate (finish : Instant)
  deriving DecidableEq, Repr

/-- Performs a call. -/
def perform (collector : ReportCollector) : Call → ReportCollector
  | .addOutcome outcome milliseconds => collector.record (.ofOutcome outcome milliseconds)
  | .addFailure name cause milliseconds => collector.record (.ofFailure name cause milliseconds)
  | .generate _ => collector

/-- The reports that calls make, one after the other. -/
def reports : ReportCollector → List Call → List SuiteReport
  | _, [] => []
  | collector, .generate finish :: rest => collector.generate finish :: reports collector rest
  | collector, call :: rest => reports (collector.perform call) rest

end ReportCollector

end FixtureHarness
