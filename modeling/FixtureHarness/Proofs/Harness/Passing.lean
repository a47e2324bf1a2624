import FixtureHarness.Proofs.Harness.Cases

/-! # When a suite passes

A suite passes if each of its names passes on what the suite over the names before leaves. Of what a
runner gives back, its text, its files and its memory count: with other exit codes a suite has the
same cases and leaves the same.
-/

namespace FixtureHarness

variable {Memory : Type}

theorem SuiteReport.allPassed_ofCases_iff (suite : String) (start finish : Instant)
    (cases : List CaseReport) :
    (ofCases suite start finish cases).allPassed = true ↔
      ∀ case ∈ cases, case.status = .passed := by
  simp only [allPassed, ofCases, Summary.ofCases, Bool.and_eq_true, decide_eq_true_eq,
    List.countP_eq_zero, ← forall_and]
  refine forall_congr' fun case => forall_congr' fun _ => ?_
  cases case.status <;> decide

/-- The other runner does the same, but for exit codes and for what is logged. -/
structure Runner.AgreesButExit (runner other : Runner Memory) : Prop where
  text : ∀ paths files memory,
    (other.run paths files memory).captured.text = (runner.run paths files memory).captured.text
  files : ∀ paths files memory,
    (other.run paths files memory).files = (runner.run paths files memory).files
  memory : ∀ paths files memory,
    (other.run paths files memory).memory = (runner.run paths files memory).memory

namespace Harness

/-- A name passes on some files: its fixture is written, and the runner then gives a text that
contains the marker. -/
def Passes (harness : Harness) (runner : Runner Memory) (name : String) (files : FileTree)
    (memory : Memory) : Prop :=
  ∃ record ready, harness.Readies name record files ready ∧
    Verdict.marker.toList <:+:
      (runner.run harness.writer.paths ready memory).captured.text.toList

/-- Every name of a suite passes on what the suite over the names before it leaves. -/
def PassesAll (harness : Harness) (runner : Runner Memory) (clock : Clock) (names : List String)
    (files : FileTree) (memory : Memory) : Prop :=
  ∀ position : Fin names.length,
    let before := harness.runSuite runner clock (names.take position) files memory
    harness.Passes runner (names.get position) before.files before.memory

variable {harness : Harness} {runner : Runner Memory} {name : String} {files ready : FileTree}
  {memory : Memory} {result : Except Failure Outcome} {made : List RunnerCall}

/-- What is written for a name is settled by the files before. -/
theorem Readies.ready_eq {record other : TestCase} {left : FileTree}
    (readies : harness.Readies name record files ready)
    (again : harness.Readies name other files left) : left = ready := by
  obtain rfl := Option.some.inj (again.1.symm.trans readies.1)
  exact again.2.write_eq.2.symm.trans readies.2.write_eq.2

/-- The case of a step is a passed one exactly if its name passes. -/
theorem Step.status_passed_iff (step : harness.Step runner name files memory result made)
    (milliseconds : Nat) :
    (caseReport name result milliseconds).status = .passed ↔
      harness.Passes runner name files memory := by
  obtain ⟨_, said⟩ := step.caseReport_cases milliseconds
  rcases said with ⟨cause, refused, errs, _⟩ | ⟨record, ready, captured, readies, rfl, tells, _⟩
  · refine iff_of_false ?_ ?_
    · rw [errs.status]
      decide
    · rintro ⟨record, ready, readies, _⟩
      exact readies.not_refuses refused
  · rw [tells.passed]
    constructor
    · intro marked
      exact ⟨record, ready, readies, marked⟩
    · rintro ⟨other, left, again, marked⟩
      rwa [readies.ready_eq again] at marked

/-- All cases of a suite are passed ones exactly if every name passes. -/
theorem runSuite_passed_iff (harness : Harness) (runner : Runner Memory) (clock : Clock)
    (names : List String) (files : FileTree) (memory : Memory) :
    (∀ case ∈ (harness.runSuite runner clock names files memory).cases, case.status = .passed) ↔
      harness.PassesAll runner clock names files memory := by
  have passed (position : Fin names.length) (milliseconds : Nat) :=
    (harness.perform_step runner (names.get position)
      (harness.runSuite runner clock (names.take position) files memory).files
      (harness.runSuite runner clock (names.take position) files memory).memory).status_passed_iff
        milliseconds
  constructor
  · intro all position
    obtain ⟨⟨milliseconds, there⟩, _⟩ := harness.runSuite_at runner clock files memory position
    exact (passed position milliseconds).mp (all _ (List.mem_of_getElem? there))
  · intro each case member
    obtain ⟨position, held⟩ := List.getElem?_of_mem member
    have inside : position < names.length := by
      obtain ⟨bound, _⟩ := List.getElem?_eq_some_iff.mp held
      rwa [runSuite, runCases_cases_length] at bound
    obtain ⟨⟨milliseconds, there⟩, _⟩ :=
      harness.runSuite_at runner clock files memory ⟨position, inside⟩
    obtain rfl := Option.some.inj (held.symm.trans there)
    exact (passed ⟨position, inside⟩ milliseconds).mpr (each ⟨position, inside⟩)

/-- The report of a suite tells the same. -/
theorem allPassed_report_iff (harness : Harness) (runner : Runner Memory) (clock : Clock)
    (suite : String) (names : List String) (files : FileTree) (memory : Memory) :
    (report clock suite (harness.runSuite runner clock names files memory)).allPassed = true ↔
      harness.PassesAll runner clock names files memory := by
  rw [report, SuiteReport.allPassed_ofCases_iff]
  exact harness.runSuite_passed_iff runner clock names files memory

/-! ## Exit codes -/

variable {other : Runner Memory}

/-- Exit codes neither show in the case of a name nor change what it leaves. -/
theorem perform_of_agrees (agrees : runner.AgreesButExit other) (harness : Harness) (name : String)
    (files : FileTree) (memory : Memory) (milliseconds : Nat) :
    let performed := harness.perform runner name files memory
    let again := harness.perform other name files memory
    caseReport name again.result milliseconds = caseReport name performed.result milliseconds ∧
      again.files = performed.files ∧ again.memory = performed.memory := by
  rcases harness.refuses_or_readies name files with ⟨cause, refused⟩ | ⟨record, ready, readies⟩
  · obtain ⟨after, log, same⟩ := refused.perform_eq
    simp only [same, and_self]
  · simp only [readies.perform_eq, caseReport, judge, CaseReport.ofOutcome, agrees.text,
      agrees.files, agrees.memory, and_self]

/-- So a whole run has the same cases and leaves the same. -/
theorem runCases_of_agrees (agrees : runner.AgreesButExit other) (harness : Harness) (clock : Clock)
    (reading : Nat) (names : List String) (files : FileTree) (memory : Memory) :
    let run := harness.runCases runner clock reading names files memory
    let again := harness.runCases other clock reading names files memory
    again.cases = run.cases ∧ again.files = run.files ∧ again.memory = run.memory := by
  induction names generalizing reading files memory with
  | nil => exact ⟨rfl, rfl, rfl⟩
  | cons name rest ih =>
    obtain ⟨case, left, remembered⟩ := perform_of_agrees agrees harness name files memory
      ((clock reading).elapsed (clock (reading + 1)))
    obtain ⟨cases, filesAfter, memoryAfter⟩ := ih (reading + 2)
      (harness.perform runner name files memory).files
      (harness.perform runner name files memory).memory
    simp only [runCases, case, left, remembered, cases, filesAfter, memoryAfter, and_self]

theorem report_of_agrees (agrees : runner.AgreesButExit other) (harness : Harness) (clock : Clock)
    (suite : String) (names : List String) (files : FileTree) (memory : Memory) :
    report clock suite (harness.runSuite other clock names files memory) =
      report clock suite (harness.runSuite runner clock names files memory) := by
  have cases := (runCases_of_agrees agrees harness clock 1 names files memory).1
  simp only [report, runSuite, cases]

end Harness

end FixtureHarness
