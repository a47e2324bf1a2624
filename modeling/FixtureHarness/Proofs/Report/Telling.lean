import FixtureHarness.Proofs.Report.Collecting
import FixtureHarness.Proofs.Xml.Unambiguous
import Mathlib.Data.List.Forall2

/-! # What the JUnit form of a report tells

The form shows the name of the suite, the counters, the durations, and of each case its name, its
status and the text that explains it. All of these can be read off again: no text of a report ends an
attribute or an element early, and none looks like another case or another status.
-/

namespace FixtureHarness

open Text Text.Xml

/-! ## The element of a case -/

namespace CaseReport

variable {case other : CaseReport} {lines otherLines : List String} {rest more : List Char}

/-- The lines in the element of a case. -/
inductive Shows (case : CaseReport) : List String → Prop where
  | passed : case.status = .passed → Shows case []
  | failed {output : String} : case.status = .failed → case.output? = some output →
      Shows case ["      " ++ openTag "failure" [("message", "TEST FAILED!!")], escape output,
        "      " ++ closeTag "failure"]
  | error {error : String} : case.status = .error → case.error? = some error →
      Shows case ["      " ++ openTag "error" [("message", error)] ++ escape error ++ closeTag "error"]

theorem Consistent.shows (consistent : case.Consistent) : case.Shows case.junitContent := by
  obtain ⟨ofError, ofOutput⟩ := consistent
  rw [junitContent]
  cases ended : case.status with
  | passed => exact .passed ended
  | failed =>
    obtain ⟨output, given⟩ : ∃ output, case.output? = some output := by
      rw [← Option.ne_none_iff_exists', ne_eq, ← ofOutput, ← ofError, ended]
      decide
    rw [given]
    exact .failed ended given
  | error =>
    obtain ⟨error, given⟩ := Option.isSome_iff_exists.mp (ofError.mp ended)
    rw [given]
    exact .error ended given

/-- Two cases of one status that the same text explains. -/
inductive ExplainedSame (case other : CaseReport) : Prop where
  | passed : case.status = .passed → other.status = .passed → ExplainedSame case other
  | failed (output : String) : case.status = .failed → other.status = .failed →
      case.output? = some output → other.output? = some output → ExplainedSame case other
  | error (error : String) : case.status = .error → other.status = .error →
      case.error? = some error → other.error? = some error → ExplainedSame case other

/-- The tag that ends the element of a case. -/
def closing : List Char :=
  ("    " ++ closeTag "testcase").toList

/-- The text of a failed case, up to the first tag behind the output. -/
theorem toList_failure (output : String) (rest : List Char) :
    (unlines ["      " ++ openTag "failure" [("message", "TEST FAILED!!")], escape output,
        "      " ++ closeTag "failure"]).toList ++ (closing ++ rest) =
      ("      " ++ openTag "failure" [("message", "TEST FAILED!!")] ++ "\n").toList ++
        ((escape output).toList ++ ('\n' :: List.replicate 6 ' ' ++
          '<' :: ("/failure>\n    </testcase>".toList ++ rest))) := by
  simp [toList_unlines, toList_closeTag, closing, List.replicate]

theorem toList_error (error : String) (rest : List Char) :
    (unlines ["      " ++ openTag "error" [("message", error)] ++ escape error ++
        closeTag "error"]).toList ++ (closing ++ rest) =
      "      ".toList ++ ((openTag "error" [("message", error)]).toList ++
        ((escape error).toList ++ ("</error>\n    </testcase>".toList ++ rest))) := by
  simp [toList_unlines, toList_closeTag, closing]

/-- The lines in the element of a case tell its status and the text that explains it, and none of
them is taken for the end of the element. -/
theorem Shows.append_inj (shown : case.Shows lines) (shownOther : other.Shows otherLines)
    (same : (unlines lines).toList ++ (closing ++ rest) =
      (unlines otherLines).toList ++ (closing ++ more)) :
    case.ExplainedSame other ∧ rest = more := by
  cases shown with
  | passed ended =>
    cases shownOther with
    | passed endedOther => exact ⟨.passed ended endedOther, List.append_cancel_left same⟩
    -- Lines of different kinds differ in their indentation or in the first letter of their tag.
    | failed => simp [toList_unlines, toList_openTag, toList_closeTag, closing] at same
    | error => simp [toList_unlines, toList_openTag, toList_closeTag, closing] at same
  | @failed output ended given =>
    cases shownOther with
    | passed => simp [toList_unlines, toList_openTag, toList_closeTag, closing] at same
    | @failed otherOutput endedOther givenOther =>
      have noTag : '<' ∉ '\n' :: List.replicate 6 ' ' := by decide
      rw [toList_failure, toList_failure, List.append_cancel_left_eq,
        escape_append_inj (by decide) (by decide) noTag] at same
      obtain ⟨rfl, behind⟩ := same
      exact ⟨.failed output ended endedOther given givenOther, List.append_cancel_left behind⟩
    | error => simp [toList_unlines, toList_openTag, toList_closeTag, closing] at same
  | @error error ended given =>
    cases shownOther with
    | passed => simp [toList_unlines, toList_openTag, toList_closeTag, closing] at same
    | failed => simp [toList_unlines, toList_openTag, toList_closeTag, closing] at same
    | @error otherError endedOther givenOther =>
      rw [toList_error, toList_error, List.append_cancel_left_eq] at same
      obtain ⟨attributes, behind⟩ := openTag_append_inj same rfl
      obtain rfl : error = otherError := by simpa using attributes
      exact ⟨.error error ended endedOther given givenOther,
        List.append_cancel_left (List.append_cancel_left behind)⟩

/-! ## Cases -/

/-- Two cases of which the form shows the same. -/
structure ShowsSame (case other : CaseReport) : Prop where
  name : other.name = case.name
  status : other.status = case.status
  output : case.status = .failed →
    ∃ output, case.output? = some output ∧ other.output? = some output
  error : case.status = .error → ∃ error, case.error? = some error ∧ other.error? = some error
  time : timeText other.milliseconds = timeText case.milliseconds

theorem ExplainedSame.showsSame (explained : case.ExplainedSame other)
    (name : other.name = case.name)
    (time : timeText other.milliseconds = timeText case.milliseconds) : case.ShowsSame other := by
  cases explained with
  | passed ended endedOther =>
    refine ⟨name, endedOther.trans ended.symm, ?_, ?_, time⟩
    all_goals simp [ended]
  | failed output ended endedOther given givenOther =>
    exact ⟨name, endedOther.trans ended.symm, fun _ => ⟨output, given, givenOther⟩,
      by simp [ended], time⟩
  | error error ended endedOther given givenOther =>
    exact ⟨name, endedOther.trans ended.symm, by simp [ended],
      fun _ => ⟨error, given, givenOther⟩, time⟩

/-- Cases that show the same have the same lines. -/
theorem ShowsSame.junitLines_eq (same : case.ShowsSame other) (suite : String) :
    other.junitLines suite = case.junitLines suite := by
  obtain ⟨name, status, output, error, time⟩ := same
  have content : other.junitContent = case.junitContent := by
    rw [junitContent, junitContent, status]
    cases ended : case.status with
    | passed => rfl
    | failed =>
      obtain ⟨shared, given, givenOther⟩ := output ended
      rw [given, givenOther]
    | error =>
      obtain ⟨shared, given, givenOther⟩ := error ended
      rw [given, givenOther]
  simp only [junitLines, content, name, time]

/-- The attributes of the element of a case. -/
def attributes (suite : String) (case : CaseReport) : List (String × String) :=
  [("name", case.name), ("classname", suite), ("time", timeText case.milliseconds)]

theorem toList_junitLines (suite : String) (case : CaseReport) (rest : List Char) :
    (unlines (case.junitLines suite)).toList ++ rest =
      "    ".toList ++ ((openTag "testcase" (case.attributes suite)).toList ++
        '\n' :: ((unlines case.junitContent).toList ++ (closing ++ '\n' :: rest))) := by
  simp [junitLines, attributes, toList_unlines, closing]

/-- The element of a case tells what the form shows of the case, and where the element ends. -/
theorem junitLines_append_inj {suite : String} (consistent : case.Consistent)
    (consistentOther : other.Consistent)
    (same : (unlines (case.junitLines suite)).toList ++ rest =
      (unlines (other.junitLines suite)).toList ++ more) :
    case.ShowsSame other ∧ rest = more := by
  rw [toList_junitLines, toList_junitLines, List.append_cancel_left_eq] at same
  obtain ⟨told, behind⟩ := openTag_append_inj same rfl
  obtain ⟨name, time⟩ : case.name = other.name ∧
      timeText case.milliseconds = timeText other.milliseconds := by
    simpa [attributes] using told
  obtain ⟨explained, ended⟩ :=
    consistent.shows.append_inj consistentOther.shows (List.cons.inj behind).2
  exact ⟨explained.showsSame name.symm time.symm, (List.cons.inj ended).2⟩

end CaseReport

/-! ## Reports -/

namespace SuiteReport

/-- The tags that end the document. -/
def closing : List Char :=
  (unlines ["  " ++ closeTag "testsuite", closeTag "testsuites"]).toList

/-- The elements of the cases tell how many there are, and what the form shows of each. -/
theorem junitLines_cases_inj {suite : String} {cases others : List CaseReport}
    (consistent : ∀ case ∈ cases, case.Consistent) (consistentOthers : ∀ case ∈ others, case.Consistent)
    (same : (unlines (cases.flatMap (CaseReport.junitLines suite))).toList ++ closing =
      (unlines (others.flatMap (CaseReport.junitLines suite))).toList ++ closing) :
    List.Forall₂ CaseReport.ShowsSame cases others := by
  -- The tag that ends the inner suite element is less deeply indented than a case.
  have ends (case : CaseReport) (rest : List Char) :
      closing ≠ (unlines (case.junitLines suite)).toList ++ rest := by
    rw [CaseReport.toList_junitLines]
    simp [closing, toList_unlines, toList_closeTag]
  induction cases generalizing others with
  | nil =>
    cases others with
    | nil => exact .nil
    | cons other others =>
      rw [List.flatMap_cons, toList_unlines_append, List.append_assoc] at same
      exact (ends other _ same).elim
  | cons case cases ih =>
    cases others with
    | nil =>
      rw [List.flatMap_cons, toList_unlines_append, List.append_assoc] at same
      exact (ends case _ same.symm).elim
    | cons other others =>
      rw [List.forall_mem_cons] at consistent consistentOthers
      rw [List.flatMap_cons, List.flatMap_cons, toList_unlines_append, toList_unlines_append,
        List.append_assoc, List.append_assoc] at same
      obtain ⟨first, behind⟩ :=
        CaseReport.junitLines_append_inj consistent.1 consistentOthers.1 same
      exact .cons first (ih consistent.2 consistentOthers.2 behind)

/-- Two reports of which the form shows the same. -/
structure ShowsSame (report other : SuiteReport) : Prop where
  suite : other.suite = report.suite
  summary : other.summary = report.summary
  cases : List.Forall₂ CaseReport.ShowsSame report.cases other.cases
  time : timeText other.milliseconds = timeText report.milliseconds

/-- A report whose counters come from its cases, each of which is as one is recorded. -/
structure Recorded (report : SuiteReport) : Prop where
  summary : report.summary = .ofCases report.cases
  consistent : ∀ case ∈ report.cases, case.Consistent

theorem toList_junitText (report : SuiteReport) :
    report.junitText.toList = "<?xml version=\"1.0\" encoding=\"UTF-8\"?>\n".toList ++
      ((openTag "testsuites" (report.junitAttributes report.summary.total)).toList ++
        ("\n  ".toList ++
          ((openTag "testsuite" (report.junitAttributes report.cases.length)).toList ++
            '\n' :: ((unlines (report.cases.flatMap (CaseReport.junitLines report.suite))).toList ++
              closing)))) := by
  simp [junitText, junitLines, toList_unlines, closing]

theorem junitLines_cases_eq {cases others : List CaseReport}
    (same : List.Forall₂ CaseReport.ShowsSame cases others) (suite : String) :
    others.flatMap (CaseReport.junitLines suite) = cases.flatMap (CaseReport.junitLines suite) := by
  induction same with
  | nil => rfl
  | cons first _ ih => rw [List.flatMap_cons, List.flatMap_cons, first.junitLines_eq, ih]

end SuiteReport

theorem Summary.ofCases_eq_of_statuses {cases others : List CaseReport}
    (same : cases.map (·.status) = others.map (·.status)) : ofCases cases = ofCases others := by
  have total : cases.length = others.length := by
    simpa using congrArg List.length same
  have count (status : CaseStatus) : (cases.countP fun case => case.status = status) =
      others.countP fun case => case.status = status := by
    have counted := congrArg (List.countP fun held => decide (held = status)) same
    rwa [List.countP_map, List.countP_map] at counted
  simp only [ofCases, total, count]

namespace SuiteReport

variable {report other : SuiteReport}

/-- The forms of two recorded reports are the same text exactly if the form shows the same of both. -/
theorem Recorded.junitText_eq_iff (recorded : report.Recorded) (recordedOther : other.Recorded) :
    report.junitText = other.junitText ↔ report.ShowsSame other := by
  rw [← String.toList_inj, toList_junitText, toList_junitText, List.append_cancel_left_eq]
  constructor
  · intro same
    obtain ⟨outer, behind⟩ := openTag_append_inj same rfl
    obtain ⟨inner, elements⟩ := openTag_append_inj (List.append_cancel_left behind) rfl
    simp only [junitAttributes, List.cons.injEq, Prod.mk.injEq, true_and, and_true] at outer
    obtain ⟨suite, -, -, -, time⟩ := outer
    rw [← suite] at elements
    have cases := junitLines_cases_inj recorded.consistent recordedOther.consistent
      (List.cons.inj elements).2
    have statuses : report.cases.map (·.status) = other.cases.map (·.status) := by
      have each : List.Forall₂ (· = ·) (report.cases.map (·.status)) (other.cases.map (·.status)) := by
        rw [List.forall₂_map_left_iff, List.forall₂_map_right_iff]
        exact cases.imp fun _ _ same => same.status.symm
      rwa [List.forall₂_eq_eq_eq] at each
    refine ⟨suite.symm, ?_, cases, time.symm⟩
    rw [recorded.summary, recordedOther.summary, Summary.ofCases_eq_of_statuses statuses]
  · rintro ⟨suite, summary, cases, time⟩
    have attributes (tests : Nat) : other.junitAttributes tests = report.junitAttributes tests := by
      simp only [junitAttributes, suite, summary, time]
    rw [suite, summary, attributes, attributes, cases.length_eq, junitLines_cases_eq cases]

end SuiteReport

/-! ## Reports that are made of calls -/

namespace ReportCollector

variable {collector : ReportCollector}

/-- A call leaves cases as they are recorded. -/
theorem consistent_perform (consistent : ∀ case ∈ collector.cases, case.Consistent) (call : Call) :
    ∀ case ∈ (collector.perform call).cases, case.Consistent := by
  rw [perform_eq, List.forall_mem_append]
  refine ⟨consistent, fun case member => ?_⟩
  exact Call.consistent_of_case (Option.mem_toList.mp member)

/-- Every report that calls make is a recorded one. -/
theorem recorded_of_mem_reports (consistent : ∀ case ∈ collector.cases, case.Consistent)
    {calls : List Call} {report : SuiteReport} (made : report ∈ collector.reports calls) :
    report.Recorded := by
  induction calls generalizing collector with
  | nil => cases made
  | cons call calls ih =>
    cases call with
    | generate finish =>
      rcases List.mem_cons.mp made with rfl | later
      · exact ⟨rfl, consistent⟩
      · exact ih consistent later
    | addOutcome outcome milliseconds => exact ih (consistent_perform consistent _) made
    | addFailure name cause milliseconds => exact ih (consistent_perform consistent _) made

/-- The JUnit forms of two reports, each made of any calls, are the same text exactly if both reports
have the same suite name, the same counters and durations, and case by case the same name, the same
status, the same output where the case failed and the same error where it could not be executed. -/
theorem junit_forms_eq_iff {suite otherSuite : String} {start otherStart : Instant}
    {calls otherCalls : List Call} {report other : SuiteReport}
    (made : report ∈ (started suite start).reports calls)
    (otherMade : other ∈ (started otherSuite otherStart).reports otherCalls) :
    report.write .junit = other.write .junit ↔ report.ShowsSame other :=
  (recorded_of_mem_reports (List.forall_mem_nil _) made).junitText_eq_iff
    (recorded_of_mem_reports (List.forall_mem_nil _) otherMade)

/-- An output that spells the end of its element and another case. -/
def forgingOutcome : Outcome where
  test := "b"
  passed := false
  output := "]]></failure>\n    </testcase>\n    <testcase name=\"c\" classname=\"\" time=\"0.000\">"
  exitCode := some 1
  missing := []

/-- The form does not show what a case printed that passed, nor which queries were missing, nor when
the suite began; the output that looks like the end of its element is shown as it is. -/
theorem junit_forms_eq_of_forging :
    let calls : List Call := [.addOutcome ⟨"a", true, "Test passed!", some 0, []⟩ 5,
      .addOutcome forgingOutcome 7, .addFailure "c" (.unknownTestCase "c") 0, .generate ⟨9000000⟩]
    let otherCalls : List Call := [.addOutcome ⟨"a", true, "</x> Test passed!", none, ["q"]⟩ 5,
      .generate ⟨0⟩, .addOutcome forgingOutcome 7, .addFailure "c" (.unknownTestCase "c") 0,
      .generate ⟨10000000⟩]
    let report := SuiteReport.ofCases "\"s\"" ⟨0⟩ ⟨9000000⟩ (calls.filterMap Call.case?)
    let other := SuiteReport.ofCases "\"s\"" ⟨1000000⟩ ⟨10000000⟩ (otherCalls.filterMap Call.case?)
    report ∈ (started "\"s\"" ⟨0⟩).reports calls ∧
      other ∈ (started "\"s\"" ⟨1000000⟩).reports otherCalls ∧
      report.write .junit = other.write .junit ∧ report.ShowsSame other ∧ report ≠ other := by
  intro calls otherCalls report other
  have same : report.ShowsSame other := by
    refine ⟨rfl, rfl, .cons ?_ (.cons ?_ (.cons ?_ .nil)), rfl⟩
    · exact ⟨rfl, rfl, nofun, nofun, rfl⟩
    · exact ⟨rfl, rfl, fun _ => ⟨_, rfl, rfl⟩, nofun, rfl⟩
    · exact ⟨rfl, rfl, nofun, fun _ => ⟨_, rfl, rfl⟩, rfl⟩
  have made : report ∈ (started "\"s\"" ⟨0⟩).reports calls := List.mem_singleton_self _
  have otherMade : other ∈ (started "\"s\"" ⟨1000000⟩).reports otherCalls :=
    List.mem_cons_of_mem _ (List.mem_singleton_self _)
  refine ⟨made, otherMade, (junit_forms_eq_iff made otherMade).mpr same, same, ?_⟩
  intro equal
  have missing := congrArg (fun report => report.cases.map (·.missing)) equal
  exact absurd missing (by decide)

end ReportCollector

end FixtureHarness
