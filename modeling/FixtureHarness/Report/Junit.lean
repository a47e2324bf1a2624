import FixtureHarness.Number.Fixed
import FixtureHarness.Report.Basic
import FixtureHarness.Text.Xml

/-! # The JUnit document of a report

An outer and an inner suite element around one element for each case. A failed case holds its
output, a case that could not be executed its error, all of it escaped.
-/

namespace FixtureHarness

open Text.Xml (openTag closeTag escape)

/-- A duration as the value of a `time` attribute. -/
def timeText (milliseconds : Nat) : String :=
  String.ofList (secondsText milliseconds)

namespace CaseReport

/-- What stands inside the element of a case. -/
def junitContent (case : CaseReport) : List String :=
  match case.status with
  | .passed => []
  | .failed =>
    ["      " ++ openTag "failure" [("message", "TEST FAILED!!")]] ++
      case.output?.toList.map escape ++ ["      " ++ closeTag "failure"]
  | .error =>
    case.error?.toList.map fun error =>
      "      " ++ openTag "error" [("message", error)] ++ escape error ++ closeTag "error"

/-- The element of a case. -/
def junitLines (suite : String) (case : CaseReport) : List String :=
  let attributes :=
    [("name", case.name), ("classname", suite), ("time", timeText case.milliseconds)]
  ["    " ++ openTag "testcase" attributes] ++ case.junitContent ++ ["    " ++ closeTag "testcase"]

end CaseReport

namespace SuiteReport

/-- The attributes of a suite element that counts so many tests. -/
def junitAttributes (report : SuiteReport) (tests : Nat) : List (String × String) :=
  [("name", report.suite), ("tests", toString tests),
    ("failures", toString report.summary.failed), ("errors", toString report.summary.errors),
    ("time", timeText report.milliseconds)]

/-- The lines of the document. The outer element counts the tests of the summary, the inner one the
cases there are. -/
def junitLines (report : SuiteReport) : List String :=
  ["<?xml version=\"1.0\" encoding=\"UTF-8\"?>",
    openTag "testsuites" (report.junitAttributes report.summary.total),
    "  " ++ openTag "testsuite" (report.junitAttributes report.cases.length)] ++
  report.cases.flatMap (CaseReport.junitLines report.suite) ++
  ["  " ++ closeTag "testsuite", closeTag "testsuites"]

/-- A report as a JUnit document. -/
def junitText (report : SuiteReport) : String :=
  Text.unlines report.junitLines

end SuiteReport

end FixtureHarness
