import FixtureHarness.Harness.Runner
import FixtureHarness.Report.Basic

/-! # Performing test cases

A test case is resolved, written, run and judged. What keeps it from being run is a failure;
whatever the runner does is an outcome. A suite performs its cases one after the other, each on the
files that the case before left, and goes on after a failure.
-/

namespace FixtureHarness

/-- The catalogs and the place for fixtures. -/
structure Harness where
  catalog : Catalog
  writer : FixtureWriter
  deriving DecidableEq, Repr

/-- What a test case leaves when it was performed. -/
structure Performed (Memory : Type) where
  result : Except Failure Outcome
  files : FileTree
  memory : Memory
  log : List Log.Record

/-- What a suite leaves when it has run. -/
structure SuiteRun (Memory : Type) where
  cases : List CaseReport
  files : FileTree
  memory : Memory
  log : List Log.Record

namespace Harness

variable {Memory : Type}

/-- The harness of a configuration and its catalogs. -/
def ofConfiguration (configuration : Configuration) (catalog : Catalog) : Harness :=
  ⟨catalog, .ofConfiguration configuration⟩

/-- The outcome of a run. -/
def judge (fixture : Fixture) (captured : Captured) : Outcome where
  test := fixture.test
  passed := (Verdict.classify captured.text).isPassed
  output := captured.text
  exitCode := captured.exitCode
  missing := fixture.missing

/-- The records of judging the run of a name. -/
def judgeLog (name : String) (captured : Captured) : List Log.Record :=
  [.verifying,
    if (Verdict.classify captured.text).isPassed then .passed name
    else .failed name captured.exitCode]

/-- Performs a test case. -/
def perform (harness : Harness) (runner : Runner Memory) (name : String) (files : FileTree)
    (memory : Memory) : Performed Memory :=
  let resolved := harness.catalog.resolve name
  match resolved.result with
  | .error cause => ⟨.error cause, files, memory, resolved.log⟩
  | .ok fixture =>
    let written := harness.writer.write fixture files
    match written.result with
    | .error cause => ⟨.error cause, written.files, memory, resolved.log ++ written.log⟩
    | .ok paths =>
      let back := runner.run paths written.files memory
      { result := .ok (judge fixture back.captured)
        files := back.files
        memory := back.memory
        log := resolved.log ++ written.log ++ [.performing name] ++ back.log ++
          judgeLog name back.captured }

/-- The case of a suite for a name that was performed in some time. -/
def caseReport (name : String) (result : Except Failure Outcome) (milliseconds : Nat) :
    CaseReport :=
  match result with
  | .ok outcome => .ofOutcome outcome milliseconds
  | .error cause => .ofFailure name cause milliseconds

/-- The record that a suite leaves of a case. -/
def caseLog (name : String) : Except Failure Outcome → List Log.Record
  | .ok _ => []
  | .error cause => [.notExecuted name cause.message]

/-- Performs names one after the other. The clock is read before and after each, from a reading on.
-/
def runCases (harness : Harness) (runner : Runner Memory) (clock : Clock) :
    Nat → List String → FileTree → Memory → SuiteRun Memory
  | _, [], files, memory => ⟨[], files, memory, []⟩
  | reading, name :: rest, files, memory =>
    let performed := harness.perform runner name files memory
    let milliseconds := (clock reading).elapsed (clock (reading + 1))
    let more := runCases harness runner clock (reading + 2) rest performed.files performed.memory
    { cases := caseReport name performed.result milliseconds :: more.cases
      files := more.files
      memory := more.memory
      log := performed.log ++ caseLog name performed.result ++ more.log }

/-- Runs a suite of names. The first reading of the clock is its start. -/
def runSuite (harness : Harness) (runner : Runner Memory) (clock : Clock) (names : List String)
    (files : FileTree) (memory : Memory) : SuiteRun Memory :=
  harness.runCases runner clock 1 names files memory

/-- The report of a suite run. The last reading of the clock is its end. -/
def report (clock : Clock) (suite : String) (run : SuiteRun Memory) : SuiteReport :=
  .ofCases suite (clock 0) (clock (2 * run.cases.length + 1)) run.cases

/-- Runs all test cases in the order of their declaration. -/
def runAll (harness : Harness) (runner : Runner Memory) (clock : Clock) (files : FileTree)
    (memory : Memory) : SuiteRun Memory :=
  harness.runSuite runner clock harness.catalog.tests.names files memory

end Harness

end FixtureHarness
