import FixtureHarness.Failure
import FixtureHarness.Instant
import FixtureHarness.Outcome

/-! # Suite reports

A suite run collects one case for each test it was asked for, in order. The report counts the cases
by their status and adds the readings of the clock.
-/

namespace FixtureHarness

/-- How a case of a suite ended. -/
inductive CaseStatus where
  | passed
  | failed
  /-- The case could not be executed. -/
  | error
  deriving DecidableEq, Repr

/-- The name of a status. -/
def CaseStatus.name : CaseStatus → String
  | passed => "passed"
  | failed => "failed"
  | error => "error"

/-- One case of a report. -/
structure CaseReport where
  name : String
  status : CaseStatus
  milliseconds : Nat
  /-- The captured output of the runner. -/
  output? : Option String
  /-- Why the case could not be executed. -/
  error? : Option String
  missing : List String
  deriving DecidableEq, Repr

namespace CaseReport

/-- The case of a performed test. -/
def ofOutcome (outcome : Outcome) (milliseconds : Nat) : CaseReport where
  name := outcome.test
  status := if outcome.passed then .passed else .failed
  milliseconds := milliseconds
  output? := some outcome.output
  error? := none
  missing := outcome.missing

/-- The case of a test that could not be executed. -/
def ofFailure (name : String) (cause : Failure) (milliseconds : Nat) : CaseReport where
  name := name
  status := .error
  milliseconds := milliseconds
  output? := none
  error? := some cause.message
  missing := []

end CaseReport

/-- The numbers of cases, in all and by status. -/
structure Summary where
  total : Nat
  passed : Nat
  failed : Nat
  errors : Nat
  deriving DecidableEq, Repr

namespace Summary

/-- Counts cases. -/
def ofCases (cases : List CaseReport) : Summary where
  total := cases.length
  passed := cases.countP fun case => case.status = .passed
  failed := cases.countP fun case => case.status = .failed
  errors := cases.countP fun case => case.status = .error

end Summary

/-- The report of a suite run. -/
structure SuiteReport where
  suite : String
  runId : String
  startTime : String
  endTime : String
  milliseconds : Nat
  summary : Summary
  cases : List CaseReport
  deriving DecidableEq, Repr

namespace SuiteReport

/-- The report of the cases that a run collected between two moments. -/
def ofCases (suite : String) (start finish : Instant) (cases : List CaseReport) : SuiteReport where
  suite := suite
  runId := start.runId
  startTime := start.text
  endTime := finish.text
  milliseconds := start.elapsed finish
  summary := .ofCases cases
  cases := cases

/-- Whether no case failed and none ended in an error. -/
def allPassed (report : SuiteReport) : Bool :=
  report.summary.failed = 0 && report.summary.errors = 0

end SuiteReport

end FixtureHarness
