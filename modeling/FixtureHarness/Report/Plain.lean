import FixtureHarness.Report.Basic
import FixtureHarness.Text.Lines

/-! # The plain text of a report

A heading, a paragraph for each case and a closing line that counts. The output of a failed case is
shown line by line behind a bar, so that it cannot be taken for a line of the report itself.
-/

namespace FixtureHarness

namespace CaseStatus

/-- The name of a status in the text of a report. -/
def heading : CaseStatus → String
  | passed => "PASSED"
  | failed => "FAILED"
  | error => "ERROR"

end CaseStatus

namespace CaseReport

/-- The lines that show the output of a failed case. -/
def outputLines (case : CaseReport) : List String :=
  match case.status, case.output? with
  | .failed, some output =>
    "   TEST FAILED!!" ::
      (Text.lines output.toList).map fun line => s!"   | {String.ofList line}"
  | _, _ => []

/-- The lines of a case, without their ends. -/
def plainLines (case : CaseReport) : List String :=
  let missing :=
    if case.missing.isEmpty then []
    else ["   Missing queries: " ++ ", ".intercalate case.missing]
  let error := case.error?.toList.map fun error => s!"   ERROR: {error}"
  ["", s!"[{case.status.heading}] {case.name} ({case.milliseconds}ms)"] ++
    missing ++ error ++ case.outputLines

end CaseReport

/-- The number of cases that did not pass, added up in 64 bits. -/
def Summary.unpassed (summary : Summary) : Nat :=
  (summary.failed + summary.errors) % UInt64.size

namespace SuiteReport

/-- The lines of a report, without their ends. -/
def plainLines (report : SuiteReport) : List String :=
  ["", "Transformer Test Report", "========================================",
    s!"Suite: {report.suite}", s!"Run ID: {report.runId}",
    s!"Duration: {report.milliseconds}ms"] ++
  report.cases.flatMap CaseReport.plainLines ++
  ["", s!"there are {report.summary.passed} passed and " ++
    s!"{report.summary.unpassed} failed tests"]

/-- A report as plain text. -/
def plainText (report : SuiteReport) : String :=
  Text.unlines report.plainLines

end SuiteReport

end FixtureHarness
