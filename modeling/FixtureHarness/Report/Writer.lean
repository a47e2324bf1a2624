import FixtureHarness.Report.Document
import FixtureHarness.Report.Format
import FixtureHarness.Report.Junit
import FixtureHarness.Report.Plain

/-! # Writing a report

The text of a report in each of its forms.
-/

namespace FixtureHarness.SuiteReport

/-- The text of a report in a form. -/
def write (report : SuiteReport) : ReportFormat → String
  | .text => report.plainText
  | .json => report.jsonText
  | .junit => report.junitText

end FixtureHarness.SuiteReport
