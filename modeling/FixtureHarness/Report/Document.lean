import FixtureHarness.Json.Printer
import FixtureHarness.Json.Typed
import FixtureHarness.Report.Basic

/-! # The JSON document of a report

Reports are written as JSON documents and read from them. Writing leaves out an absent output or
error and an empty list of missing queries; reading takes their absence for just that.
-/

namespace FixtureHarness

open Json (Decoder Shape decodeText decodeCount decodeList decodeOptional decodeMember? needField)

namespace CaseStatus

/-- The names of the statuses, as complaints list them. -/
def names : List String := ["passed", "failed", "error"]

/-- The status of a name. -/
def ofName? : String → Except Mismatch CaseStatus
  | "passed" => .ok passed
  | "failed" => .ok failed
  | "error" => .ok error
  | other => .error (.unknownVariant other names)

/-- Decodes a status: its name, or an object that has the name as its only key and null under it. -/
def ofJson? : Decoder CaseStatus
  | .text name => ofName? name
  | .object [(name, value)] => do
    let status ← ofName? name
    match value with
    | .null => .ok status
    | other => other.unexpected "unit"
  | .object _ => .error (.wrongValue .map "map with a single key")
  | value => value.unexpected "string or map"

end CaseStatus

namespace CaseReport

/-- The fields of a case. -/
def shape : Shape := ⟨"struct CaseReport", 6⟩

/-- A case as a document. -/
def toJson (case : CaseReport) : Json :=
  .object <|
    [("name", .text case.name), ("status", .text case.status.name),
      ("duration_ms", .number (.integer case.milliseconds))] ++
    case.output?.toList.map (fun output => ("output", .text output)) ++
    case.error?.toList.map (fun error => ("error", .text error)) ++
    if case.missing.isEmpty then []
    else [("missing_queries", .array (case.missing.map .text))]

/-- Decodes a case from named fields, which are looked at in the order of their names. -/
def ofMembers? (members : List (String × Json)) : Except Mismatch CaseReport := do
  let milliseconds ← decodeMember? members "duration_ms" (decodeCount "u64")
  let error ← decodeMember? members "error" (decodeOptional decodeText)
  let missing ← decodeMember? members "missing_queries" (decodeList decodeText)
  let name ← decodeMember? members "name" decodeText
  let output ← decodeMember? members "output" (decodeOptional decodeText)
  let status ← decodeMember? members "status" CaseStatus.ofJson?
  let name ← needField "name" name
  let status ← needField "status" status
  let milliseconds ← needField "duration_ms" milliseconds
  .ok ⟨name, status, milliseconds, output.join, error.join, missing.getD []⟩

/-- Decodes a case from its fields in order; the last may be left out. -/
def ofItems? (items : List Json) : Except Mismatch CaseReport := do
  let name ← shape.decodeElement items 0 decodeText
  let status ← shape.decodeElement items 1 CaseStatus.ofJson?
  let milliseconds ← shape.decodeElement items 2 (decodeCount "u64")
  let output ← shape.decodeElement items 3 (decodeOptional decodeText)
  let error ← shape.decodeElement items 4 (decodeOptional decodeText)
  let missing ←
    match items[5]? with
    | some value => decodeList decodeText value
    | none => .ok []
  shape.checkLength items
  .ok ⟨name, status, milliseconds, output, error, missing⟩

/-- Decodes a case. -/
def ofJson? : Decoder CaseReport
  | .object members => ofMembers? members
  | .array items => ofItems? items
  | value => value.unexpected shape.title

end CaseReport

namespace Summary

/-- The fields of a summary. -/
def shape : Shape := ⟨"struct SuiteSummary", 4⟩

/-- A summary as a document. -/
def toJson (summary : Summary) : Json :=
  .object [("total", .number (.integer summary.total)),
    ("passed", .number (.integer summary.passed)),
    ("failed", .number (.integer summary.failed)),
    ("errors", .number (.integer summary.errors))]

/-- Decodes a summary from named fields, which are looked at in the order of their names. -/
def ofMembers? (members : List (String × Json)) : Except Mismatch Summary := do
  let errors ← decodeMember? members "errors" (decodeCount "usize")
  let failed ← decodeMember? members "failed" (decodeCount "usize")
  let passed ← decodeMember? members "passed" (decodeCount "usize")
  let total ← decodeMember? members "total" (decodeCount "usize")
  let total ← needField "total" total
  let passed ← needField "passed" passed
  let failed ← needField "failed" failed
  let errors ← needField "errors" errors
  .ok ⟨total, passed, failed, errors⟩

/-- Decodes a summary from its fields in order. -/
def ofItems? (items : List Json) : Except Mismatch Summary := do
  let total ← shape.decodeElement items 0 (decodeCount "usize")
  let passed ← shape.decodeElement items 1 (decodeCount "usize")
  let failed ← shape.decodeElement items 2 (decodeCount "usize")
  let errors ← shape.decodeElement items 3 (decodeCount "usize")
  shape.checkLength items
  .ok ⟨total, passed, failed, errors⟩

/-- Decodes a summary. -/
def ofJson? : Decoder Summary
  | .object members => ofMembers? members
  | .array items => ofItems? items
  | value => value.unexpected shape.title

end Summary

namespace SuiteReport

/-- The fields of a report. -/
def shape : Shape := ⟨"struct SuiteReport", 7⟩

/-- A report as a document. -/
def toJson (report : SuiteReport) : Json :=
  .object [("suite", .text report.suite), ("run_id", .text report.runId),
    ("start_time", .text report.startTime), ("end_time", .text report.endTime),
    ("duration_ms", .number (.integer report.milliseconds)),
    ("summary", report.summary.toJson), ("cases", .array (report.cases.map CaseReport.toJson))]

/-- The text of the document of a report. -/
def jsonText (report : SuiteReport) : String :=
  report.toJson.pretty ++ "\n"

/-- Decodes a report from named fields, which are looked at in the order of their names. -/
def ofMembers? (members : List (String × Json)) : Except Mismatch SuiteReport := do
  let cases ← decodeMember? members "cases" (decodeList CaseReport.ofJson?)
  let milliseconds ← decodeMember? members "duration_ms" (decodeCount "u64")
  let endTime ← decodeMember? members "end_time" decodeText
  let runId ← decodeMember? members "run_id" decodeText
  let startTime ← decodeMember? members "start_time" decodeText
  let suite ← decodeMember? members "suite" decodeText
  let summary ← decodeMember? members "summary" Summary.ofJson?
  let suite ← needField "suite" suite
  let runId ← needField "run_id" runId
  let startTime ← needField "start_time" startTime
  let endTime ← needField "end_time" endTime
  let milliseconds ← needField "duration_ms" milliseconds
  let summary ← needField "summary" summary
  let cases ← needField "cases" cases
  .ok ⟨suite, runId, startTime, endTime, milliseconds, summary, cases⟩

/-- Decodes a report from its fields in order. -/
def ofItems? (items : List Json) : Except Mismatch SuiteReport := do
  let suite ← shape.decodeElement items 0 decodeText
  let runId ← shape.decodeElement items 1 decodeText
  let startTime ← shape.decodeElement items 2 decodeText
  let endTime ← shape.decodeElement items 3 decodeText
  let milliseconds ← shape.decodeElement items 4 (decodeCount "u64")
  let summary ← shape.decodeElement items 5 Summary.ofJson?
  let cases ← shape.decodeElement items 6 (decodeList CaseReport.ofJson?)
  shape.checkLength items
  .ok ⟨suite, runId, startTime, endTime, milliseconds, summary, cases⟩

/-- Decodes a report. -/
def ofJson? : Decoder SuiteReport
  | .object members => ofMembers? members
  | .array items => ofItems? items
  | value => value.unexpected shape.title

end SuiteReport

end FixtureHarness
