import FixtureHarness.Proofs.Harness.Passing
import FixtureHarness.Proofs.Report.Junit
import FixtureHarness.Proofs.Text.Lines
import FixtureHarness.Proofs.Xml.Escaped
import FixtureHarness.Report.Collector

/-! # What a report says about the calls before it

A report has one case for each result that was recorded before it was made, in their order. Its
counters, its verdict, the last line of its text and the suite elements of its JUnit form all come
from these cases and agree with each other; reports made in between leave no trace.
-/

namespace FixtureHarness

/-! ## Cases and counters -/

/-- The shape of a case: it has an error or an output, and its status tells which. -/
structure CaseReport.Consistent (case : CaseReport) : Prop where
  error : case.status = .error ↔ case.error?.isSome
  output : case.error?.isSome ↔ case.output? = none

theorem CaseReport.consistent_ofOutcome (outcome : Outcome) (milliseconds : Nat) :
    (ofOutcome outcome milliseconds).Consistent := by
  refine ⟨?_, by simp [ofOutcome]⟩
  cases passed : outcome.passed <;> simp [ofOutcome, passed]

theorem CaseReport.consistent_ofFailure (name : String) (cause : Failure) (milliseconds : Nat) :
    (ofFailure name cause milliseconds).Consistent :=
  ⟨by simp [ofFailure], by simp [ofFailure]⟩

namespace Summary

theorem ofCases_total (cases : List CaseReport) :
    (ofCases cases).total =
      (ofCases cases).passed + (ofCases cases).failed + (ofCases cases).errors := by
  induction cases with
  | nil => rfl
  | cons case cases ih =>
    simp only [ofCases, List.length_cons, List.countP_cons] at ih ⊢
    cases case.status <;> simp <;> omega

/-- The cases that failed and those that could not be executed are the ones that did not pass. -/
theorem ofCases_others (cases : List CaseReport) :
    (ofCases cases).failed + (ofCases cases).errors =
      cases.countP fun case => !decide (case.status = .passed) := by
  induction cases with
  | nil => rfl
  | cons case cases ih =>
    simp only [ofCases, List.countP_cons] at ih ⊢
    cases case.status <;> simp <;> omega

end Summary

namespace SuiteReport

/-! ## The last line of the text -/

/-- The line that closes the text of a report. -/
def closingLine (passed others : Nat) : String :=
  s!"there are {passed} passed and {others} failed tests"

theorem toList_closingLine (passed others : Nat) :
    (closingLine passed others).toList =
      "there are ".toList ++ Nat.toDigits 10 passed ++ " passed and ".toList ++
        Nat.toDigits 10 others ++ " failed tests".toList := by
  have digits (number : Nat) : (toString number).toList = Nat.toDigits 10 number :=
    String.toList_ofList
  simp only [closingLine, String.toList_append, digits]
  rfl

theorem newLine_not_mem_toDigits (number : Nat) : '\n' ∉ Nat.toDigits 10 number := by
  intro member
  exact absurd (Nat.isDigit_of_mem_toDigits (by decide) (by decide) member) (by decide)

theorem getLast_lines_plainText (report : SuiteReport) :
    (Text.lines report.plainText.toList).getLast? =
      some (closingLine report.summary.passed report.summary.unpassed).toList := by
  generalize whole : (closingLine report.summary.passed report.summary.unpassed).toList = line
  have oneLine : '\n' ∉ line := by
    rw [← whole, toList_closingLine]
    simp [newLine_not_mem_toDigits]
  have kept : line.getLast? ≠ some '\r' := by
    rw [← whole, toList_closingLine, List.getLast?_append_of_ne_nil _ (by decide)]
    decide
  have text : ∃ front, report.plainText.toList = front ++ '\n' :: (line ++ ['\n']) := by
    rw [plainText, plainLines, Text.toList_unlines_append, ← whole]
    refine ⟨(Text.unlines _).toList, congrArg (_ ++ ·) ?_⟩
    simp [Text.toList_unlines, closingLine]
  obtain ⟨front, text⟩ := text
  rw [text, Text.lines_append_feed, Text.lines_line oneLine kept]
  exact List.getLast?_concat

/-! ## The suite elements of the JUnit form -/

/-- The tag that opens a suite element, with the counters of a summary. -/
def suiteTag (element name time : String) (summary : Summary) : String :=
  s!"<{element} name=\"{name}\" tests=\"{summary.total}\" " ++
    s!"failures=\"{summary.failed}\" errors=\"{summary.errors}\" time=\"{time}\">"

open Text.Xml in
theorem escape_of_plain {text : String}
    (plain : ∀ char ∈ text.toList, char ∉ references.map (·.1)) : escape text = text := by
  have each : text.toList.flatMap escapeChar = text.toList.flatMap fun char => [char] :=
    List.flatMap_congr fun char member => escapeChar_of_not_mem (plain char member)
  apply String.toList_injective
  rw [toList_escape, each]
  simp

open Text.Xml in
theorem plain_of_isDigit {char : Char} (digit : char.isDigit = true) :
    char ∉ references.map (·.1) := by
  intro special
  have none : (references.map (·.1)).all (fun special => !special.isDigit) = true := by decide
  have notDigit := List.all_eq_true.mp none char special
  rw [digit] at notDigit
  exact absurd notDigit (by decide)

theorem escape_repr (number : Nat) : Text.Xml.escape number.repr = number.repr := by
  refine escape_of_plain fun char member => plain_of_isDigit ?_
  have digits : number.repr.toList = Nat.toDigits 10 number := String.toList_ofList
  rw [digits] at member
  exact Nat.isDigit_of_mem_toDigits (by decide) (by decide) member

theorem quote_not_mem_escape (text : String) : '"' ∉ (Text.Xml.escape text).toList :=
  Text.Xml.not_mem_escape (by decide) (by decide) text

open Text.Xml in
theorem openTag_junitAttributes (report : SuiteReport) (element : String) {tests : Nat}
    (all : tests = report.summary.total) :
    openTag element (report.junitAttributes tests) =
      suiteTag element (escape report.suite) (escape (timeText report.milliseconds))
        report.summary := by
  have same (text : String) : toString text = text := rfl
  apply String.toList_injective
  simp [openTag, junitAttributes, attributeText, suiteTag, String.toList_append, escape_repr, all,
    same]

open Text.Xml in
theorem junitText_eq (report : SuiteReport)
    (counted : report.cases.length = report.summary.total) :
    ∃ rest, report.junitText = "<?xml version=\"1.0\" encoding=\"UTF-8\"?>\n" ++
      suiteTag "testsuites" (escape report.suite) (escape (timeText report.milliseconds))
        report.summary ++ "\n  " ++
      suiteTag "testsuite" (escape report.suite) (escape (timeText report.milliseconds))
        report.summary ++ "\n" ++ rest := by
  refine ⟨Text.unlines (report.cases.flatMap (CaseReport.junitLines report.suite) ++
    ["  " ++ closeTag "testsuite", closeTag "testsuites"]), ?_⟩
  apply String.toList_injective
  rw [junitText, junitLines, report.openTag_junitAttributes "testsuites" rfl,
    report.openTag_junitAttributes "testsuite" counted]
  simp [Text.toList_unlines]

end SuiteReport

/-! ## Calls -/

namespace ReportCollector

namespace Call

/-- The case that a call records. -/
def case? : Call → Option CaseReport
  | addOutcome outcome milliseconds => some (.ofOutcome outcome milliseconds)
  | addFailure name cause milliseconds => some (.ofFailure name cause milliseconds)
  | generate _ => none

/-- Whether a call makes a report. -/
def isGenerate : Call → Bool
  | generate _ => true
  | _ => false

/-- A call that records something records a test case that passed. -/
def Passes : Call → Prop
  | addOutcome outcome _ => outcome.passed = true
  | addFailure .. => False
  | generate _ => True

theorem consistent_of_case {call : Call} {case : CaseReport} (made : call.case? = some case) :
    case.Consistent := by
  cases call with
  | addOutcome outcome milliseconds =>
    obtain rfl := Option.some.inj made
    exact CaseReport.consistent_ofOutcome outcome milliseconds
  | addFailure name cause milliseconds =>
    obtain rfl := Option.some.inj made
    exact CaseReport.consistent_ofFailure name cause milliseconds
  | generate finish => cases made

theorem passes_iff (call : Call) :
    call.Passes ↔ ∀ case, call.case? = some case → case.status = .passed := by
  cases call with
  | addOutcome outcome milliseconds =>
    cases passed : outcome.passed <;> simp [Passes, case?, CaseReport.ofOutcome, passed]
  | addFailure name cause milliseconds => simp [Passes, case?, CaseReport.ofFailure]
  | generate finish => simp [Passes, case?]

end Call

variable {collector : ReportCollector}

/-- A call records its case, if it has one, behind the others. -/
theorem perform_eq (collector : ReportCollector) (call : Call) :
    collector.perform call =
      { collector with cases := collector.cases ++ call.case?.toList } := by
  cases call <;> simp [perform, record, Call.case?]

theorem foldl_perform (collector : ReportCollector) (calls : List Call) :
    calls.foldl perform collector =
      { collector with cases := collector.cases ++ calls.filterMap Call.case? } := by
  induction calls generalizing collector with
  | nil => simp
  | cons call calls ih =>
    rw [List.foldl_cons, ih, perform_eq]
    cases made : call.case? <;> simp [made]

/-- Later calls are performed on what the earlier ones recorded. -/
theorem reports_append (collector : ReportCollector) (first second : List Call) :
    collector.reports (first ++ second) =
      collector.reports first ++ (first.foldl perform collector).reports second := by
  induction first generalizing collector with
  | nil => rfl
  | cons call first ih =>
    cases call <;> simp only [List.cons_append, reports, List.foldl_cons, ih, perform]

/-- Each call for a report makes one. -/
theorem reports_length (collector : ReportCollector) (calls : List Call) :
    (collector.reports calls).length = calls.countP Call.isGenerate := by
  induction calls generalizing collector with
  | nil => rfl
  | cons call calls ih => cases call <;> simp [reports, ih, Call.isGenerate, List.countP_cons]

/-- The report of a moment covers the results recorded before it, whatever reports were made. -/
theorem reports_getElem? (collector : ReportCollector) (before rest : List Call)
    (finish : Instant) :
    (collector.reports (before ++ .generate finish :: rest))[before.countP Call.isGenerate]? =
      some (.ofCases collector.suite collector.start finish
        (collector.cases ++ before.filterMap Call.case?)) := by
  rw [reports_append, ← collector.reports_length before, foldl_perform, reports]
  simp [generate]

/-- Without the calls for reports, only the last one makes a report, of the same cases. -/
theorem reports_filter (collector : ReportCollector) (before : List Call) (finish : Instant) :
    collector.reports ((before.filter fun call => !call.isGenerate) ++ [.generate finish]) =
      [.ofCases collector.suite collector.start finish
        (collector.cases ++ before.filterMap Call.case?)] := by
  have none : collector.reports (before.filter fun call => !call.isGenerate) = [] := by
    rw [← List.length_eq_zero_iff, reports_length, List.countP_eq_zero]
    intro call member
    simpa using (List.mem_filter.mp member).2
  have recorded : (before.filter fun call => !call.isGenerate).filterMap Call.case? =
      before.filterMap Call.case? := by
    rw [List.filterMap_filter]
    refine List.filterMap_congr fun call _ => ?_
    cases call <;> rfl
  rw [reports_append, none, foldl_perform, recorded]
  rfl

end ReportCollector

/-! ## Reports and calls -/

open ReportCollector (Call started)

/-- What a report says about the calls that were made before it. -/
structure SuiteReport.Covers (report : SuiteReport) (calls : List Call) : Prop where
  cases : report.cases = calls.filterMap Call.case?
  consistent : ∀ case ∈ report.cases, case.Consistent
  total : report.summary.total = report.cases.length
  split : report.summary.total =
    report.summary.passed + report.summary.failed + report.summary.errors
  passed : report.summary.passed = report.cases.countP fun case => case.status = .passed
  failed : report.summary.failed = report.cases.countP fun case => case.status = .failed
  errors : report.summary.errors = report.cases.countP fun case => case.status = .error
  allPassed : report.allPassed = true ↔ ∀ call ∈ calls, call.Passes
  /-- The last line counts the cases that passed and, in 64 bits, all others. This sum does not
  overflow where the total, a counter of 64 bits as well, does not. -/
  closing : ∃ others, (Text.lines (report.write .text).toList).getLast? =
      some (closingLine report.summary.passed others).toList ∧
    others = (report.cases.countP fun case => !decide (case.status = .passed)) % UInt64.size ∧
    (report.summary.total < UInt64.size →
      others = report.summary.failed + report.summary.errors ∧
      others = (report.cases.countP fun case => !decide (case.status = .passed)) ∧
      report.summary.passed + others = report.summary.total ∧ others ≤ calls.length)
  /-- Both suite elements show the counters of the summary. Their other attributes have no quote
  inside, so that each attribute ends where it seems to. -/
  elements : ∃ name time rest, '"' ∉ name.toList ∧ '"' ∉ time.toList ∧
    report.write .junit = "<?xml version=\"1.0\" encoding=\"UTF-8\"?>\n" ++
      suiteTag "testsuites" name time report.summary ++ "\n  " ++
      suiteTag "testsuite" name time report.summary ++ "\n" ++ rest

theorem SuiteReport.covers_ofCases (suite : String) (start finish : Instant) (calls : List Call) :
    (ofCases suite start finish (calls.filterMap Call.case?)).Covers calls := by
  generalize recorded : calls.filterMap Call.case? = cases
  generalize made : ofCases suite start finish cases = report
  have summary : report.summary = .ofCases cases := by rw [← made, ofCases]
  have held : report.cases = cases := by rw [← made, ofCases]
  have bounded : cases.length ≤ calls.length := by
    rw [← recorded]
    exact List.length_filterMap_le _ _
  have split := Summary.ofCases_total cases
  have others := Summary.ofCases_others cases
  refine ⟨held.trans recorded.symm, ?_, ?_, ?_, ?_, ?_, ?_, ?_, ?_, ?_⟩
  · intro case member
    rw [held, ← recorded] at member
    obtain ⟨call, _, said⟩ := List.mem_filterMap.mp member
    exact Call.consistent_of_case said
  · rw [summary, held]
    rfl
  · rw [summary]
    exact split
  · rw [summary, held]
    rfl
  · rw [summary, held]
    rfl
  · rw [summary, held]
    rfl
  · rw [← made, allPassed_ofCases_iff, ← recorded]
    simp only [List.mem_filterMap, Call.passes_iff]
    constructor
    · intro all call member case said
      exact all case ⟨call, member, said⟩
    · rintro all case ⟨call, member, said⟩
      exact all call member case said
  · have total : (Summary.ofCases cases).total = cases.length := rfl
    refine ⟨_, report.getLast_lines_plainText, ?_, fun counted => ?_⟩
    · rw [summary, held, Summary.unpassed, others]
    · rw [summary] at counted ⊢
      have fits : (Summary.ofCases cases).failed + (Summary.ofCases cases).errors < UInt64.size := by
        omega
      rw [held, Summary.unpassed, Nat.mod_eq_of_lt fits]
      refine ⟨rfl, others, ?_, ?_⟩
      · rw [split, Nat.add_assoc]
      · omega
  · have counted : report.cases.length = report.summary.total := by
      rw [summary, held]
      rfl
    obtain ⟨rest, text⟩ := report.junitText_eq counted
    exact ⟨_, _, rest, quote_not_mem_escape _, quote_not_mem_escape _, text⟩

/-- Wherever a report is made among calls, it covers the calls before it. Made at another moment and
without any report before it, it differs in the readings of the clock only. -/
theorem ReportCollector.reports_cover_calls (suite : String) (start finish : Instant)
    (before rest : List Call) :
    ∃ report : SuiteReport,
      ((started suite start).reports (before ++ .generate finish :: rest))[before.countP
        Call.isGenerate]? = some report ∧
      report.Covers before ∧
      ∀ other : Instant,
        (started suite start).reports
            ((before.filter fun call => !call.isGenerate) ++ [.generate other]) =
          [{ report with endTime := other.text, milliseconds := start.elapsed other }] := by
  refine ⟨.ofCases suite start finish (before.filterMap Call.case?), ?_, ?_, ?_⟩
  · exact (started suite start).reports_getElem? before rest finish
  · exact SuiteReport.covers_ofCases suite start finish before
  · intro other
    exact (started suite start).reports_filter before other

/-! ## The report of a suite -/

/-- The call that records the result of a name. -/
def ReportCollector.Call.ofResult (name : String) (result : Except Failure Outcome)
    (milliseconds : Nat) : Call :=
  match result with
  | .ok outcome => .addOutcome outcome milliseconds
  | .error cause => .addFailure name cause milliseconds

namespace Harness

variable {Memory : Type}

/-- The calls that record what a run of names gives. -/
def recording (harness : Harness) (runner : Runner Memory) (clock : Clock) :
    Nat → List String → FileTree → Memory → List Call
  | _, [], _, _ => []
  | reading, name :: rest, files, memory =>
    let performed := harness.perform runner name files memory
    .ofResult name performed.result ((clock reading).elapsed (clock (reading + 1))) ::
      recording harness runner clock (reading + 2) rest performed.files performed.memory

theorem case?_ofResult (name : String) (result : Except Failure Outcome) (milliseconds : Nat) :
    (Call.ofResult name result milliseconds).case? = some (caseReport name result milliseconds) := by
  cases result <;> rfl

theorem runCases_cases_eq (harness : Harness) (runner : Runner Memory) (clock : Clock)
    (reading : Nat) (names : List String) (files : FileTree) (memory : Memory) :
    (harness.runCases runner clock reading names files memory).cases =
      (harness.recording runner clock reading names files memory).filterMap Call.case? := by
  induction names generalizing reading files memory with
  | nil => rfl
  | cons name rest ih =>
    rw [runCases, recording, List.filterMap_cons, case?_ofResult]
    exact congrArg _ (ih _ _ _)

theorem recording_records (harness : Harness) (runner : Runner Memory) (clock : Clock)
    {reading : Nat} (names : List String) (files : FileTree) (memory : Memory) :
    ∀ call ∈ harness.recording runner clock reading names files memory,
      call.isGenerate = false := by
  induction names generalizing reading files memory with
  | nil => exact fun call member => nomatch member
  | cons name rest ih =>
    rw [recording, List.forall_mem_cons]
    refine ⟨?_, ih _ _⟩
    cases (harness.perform runner name files memory).result <;> rfl

/-- The report of a suite is the one that a collector makes of the results of its names. -/
theorem reports_recording (harness : Harness) (runner : Runner Memory) (clock : Clock)
    (suite : String) (names : List String) (files : FileTree) (memory : Memory) :
    let calls := harness.recording runner clock 1 names files memory
    let report := report clock suite (harness.runSuite runner clock names files memory)
    (started suite (clock 0)).reports (calls ++ [.generate (clock (2 * names.length + 1))]) =
        [report] ∧ report.Covers calls := by
  intro calls report
  have made : report = .ofCases suite (clock 0) (clock (2 * names.length + 1))
      (calls.filterMap Call.case?) := by
    have counted : (harness.runSuite runner clock names files memory).cases.length = names.length :=
      harness.runCases_cases_length ..
    rw [← runCases_cases_eq, ← counted]
    rfl
  have untouched : calls.filter (fun call => !call.isGenerate) = calls := by
    rw [List.filter_eq_self]
    intro call member
    rw [harness.recording_records runner clock names files memory call member]
    rfl
  refine ⟨?_, ?_⟩
  · have single := (started suite (clock 0)).reports_filter calls (clock (2 * names.length + 1))
    rw [untouched] at single
    rw [single, made]
    rfl
  · rw [made]
    exact SuiteReport.covers_ofCases suite _ _ calls

end Harness

end FixtureHarness
