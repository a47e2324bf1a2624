import FixtureHarness.Proofs.Command.Capture
import FixtureHarness.Proofs.Harness.Suite

/-! # What the report of a suite says

One case for each name, in order. A refused name gives an error and calls no runner. Any other name
calls the runner once, and its case says what the runner gave back at that call.
-/

namespace FixtureHarness

namespace CaseReport

/-- A case that says nothing but why it could not be executed. -/
structure Errs (case : CaseReport) (cause : Failure) : Prop where
  status : case.status = .error
  error : case.error? = some cause.message
  output : case.output? = none
  missing : case.missing = []

/-- A case that says what a runner wrote, and that is judged by the marker in it. -/
structure Tells (case : CaseReport) (output : String) (missing : List String) : Prop where
  passed : case.status = .passed ↔ Verdict.marker.toList <:+: output.toList
  failed : case.status = .failed ↔ ¬ Verdict.marker.toList <:+: output.toList
  error : case.error? = none
  output : case.output? = some output
  missing : case.missing = missing

theorem ofFailure_errs (name : String) (cause : Failure) (milliseconds : Nat) :
    (ofFailure name cause milliseconds).Errs cause :=
  ⟨rfl, rfl, rfl, rfl⟩

theorem ofOutcome_tells {outcome : Outcome} (milliseconds : Nat)
    (judged : outcome.passed = (Verdict.classify outcome.output).isPassed) :
    (ofOutcome outcome milliseconds).Tells outcome.output outcome.missing := by
  have marked := Verdict.isPassed_classify_iff outcome.output
  rw [← judged] at marked
  refine ⟨?_, ?_, rfl, rfl, rfl⟩
  · rw [← marked]
    cases passed : outcome.passed <;> simp [ofOutcome, passed]
  · rw [← marked]
    cases passed : outcome.passed <;> simp [ofOutcome, passed]

end CaseReport

namespace Harness

variable {Memory : Type} {harness : Harness} {runner : Runner Memory} {name : String}
  {files : FileTree} {memory : Memory} {result : Except Failure Outcome} {made : List RunnerCall}

theorem judge_tells (harness : Harness) (case : TestCase) (captured : Captured)
    (milliseconds : Nat) :
    (CaseReport.ofOutcome (judge (harness.catalog.fixture case) captured) milliseconds).Tells
      captured.text
      (case.queries.filter fun query => (harness.catalog.queries.get? query).isNone) := by
  rw [← QueryCatalog.compose_missing]
  exact CaseReport.ofOutcome_tells milliseconds rfl

/-- The case of a step: an error without a call for a refused name, else what was captured. -/
theorem Step.caseReport_cases (step : harness.Step runner name files memory result made)
    (milliseconds : Nat) :
    (caseReport name result milliseconds).name = name ∧
      ((∃ cause, harness.Refuses name files cause ∧
          (caseReport name result milliseconds).Errs cause ∧ made = []) ∨
        ∃ record ready captured, harness.Readies name record files ready ∧
          captured = (runner.run harness.writer.paths ready memory).captured ∧
          (caseReport name result milliseconds).Tells captured.text
            (record.queries.filter fun query => (harness.catalog.queries.get? query).isNone) ∧
          made = [⟨harness.writer.paths, ready, captured⟩]) := by
  cases step with
  | refused refused =>
    exact ⟨rfl, .inl ⟨_, refused, CaseReport.ofFailure_errs .., rfl⟩⟩
  | ran readies back =>
    exact ⟨Catalog.name_of_find? readies.1,
      .inr ⟨_, _, _, readies, back, judge_tells .., rfl⟩⟩

/-- A case is an error exactly if its name was refused. -/
theorem Step.error_iff (step : harness.Step runner name files memory result made)
    (milliseconds : Nat) :
    (caseReport name result milliseconds).status = .error ↔
      ∃ cause, harness.Refuses name files cause := by
  rw [caseReport_status_error_iff]
  cases step with
  | refused refused => exact iff_of_true ⟨_, rfl⟩ ⟨_, refused⟩
  | ran readies _ =>
    refine iff_of_false ?_ ?_
    · rintro ⟨cause, failed⟩
      cases failed
    · rintro ⟨cause, refused⟩
      exact readies.not_refuses refused

/-- The report of a suite has one case for each name, and the runner is called once for each case
that is not an error. What the case at a position says, and whether the runner is called for it, is
settled by the name there and by what the names before leave: it is refused and not run, or it is
made ready and run, and never both. The calls stand in the order of the names. -/
theorem report_cases_tell (harness : Harness) (runner : Runner Memory) (clock : Clock)
    (suite : String) (names : List String) (files : FileTree) (memory : Memory) :
    let report := Harness.report clock suite (harness.runSuite runner clock names files memory)
    let calls (count : Nat) := harness.calls runner clock (names.take count) files memory
    report.cases.length = names.length ∧
      (harness.calls runner clock names files memory).length =
        report.cases.countP (fun case => case.status ≠ .error) ∧
      ∀ position : Fin names.length,
        let before := harness.runSuite runner clock (names.take position) files memory
        ∃ case, report.cases[position.val]? = some case ∧ case.name = names.get position ∧
          (case.status = .error ↔ ∃ cause, harness.Refuses (names.get position) before.files cause) ∧
          ((∃ cause, harness.Refuses (names.get position) before.files cause ∧ case.Errs cause ∧
              calls (position + 1) = calls position) ∨
            ∃ record ready captured, harness.Readies (names.get position) record before.files ready ∧
              (¬ ∃ cause, harness.Refuses (names.get position) before.files cause) ∧
              captured = (runner.run harness.writer.paths ready before.memory).captured ∧
              case.Tells captured.text
                (record.queries.filter fun query => (harness.catalog.queries.get? query).isNone) ∧
              calls (position + 1) =
                calls position ++ [⟨harness.writer.paths, ready, captured⟩]) := by
  intro report calls
  refine ⟨harness.runCases_cases_length .., harness.callsFrom_length runner clock 1 .., ?_⟩
  intro position before
  obtain ⟨⟨milliseconds, there⟩, grown⟩ := harness.runSuite_at runner clock files memory position
  have step := harness.perform_step runner (names.get position) before.files before.memory
  obtain ⟨named, said⟩ := step.caseReport_cases milliseconds
  refine ⟨_, there, named, step.error_iff milliseconds, ?_⟩
  rcases said with ⟨cause, refused, errs, none⟩ | ⟨record, ready, captured, readies, back, tells, one⟩
  · rw [none, List.append_nil] at grown
    exact .inl ⟨cause, refused, errs, grown⟩
  · rw [one] at grown
    refine .inr ⟨record, ready, captured, readies, ?_, back, tells, grown⟩
    rintro ⟨cause, refused⟩
    exact readies.not_refuses refused

end Harness

end FixtureHarness
