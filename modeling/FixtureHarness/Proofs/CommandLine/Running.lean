import FixtureHarness.CommandLine.Run
import FixtureHarness.Proofs.Harness.Passing

/-! # What the exit status of a run tells

Where the configuration and the catalogs can be loaded, the program runs a suite: of the names on
the command line, or of all test cases. It exits with zero exactly if each name passes, whatever the
form of the report and the name of the suite are, and whatever the exit codes of the runner are.
-/

namespace FixtureHarness.CommandLine

variable {Memory : Type}

/-- The names that a run goes through. -/
def requestedNames (catalog : Catalog) (names : List String) : List String :=
  if names.isEmpty then catalog.tests.names else names

/-- The calls of the runner in a run of the program, as the runner itself sees them. -/
def runnerCalls (runnerOf : RunnerSettings → Runner Memory) (clock : Clock)
    (environment : Environment) (arguments : List String) (files : FileTree) (memory : Memory) :
    List RunnerCall :=
  (runWith (fun settings => (runnerOf settings).recorded) clock environment arguments files
    (memory, [])).memory.2

variable {environment : Environment} {arguments : List String} {overrides : Overrides}
  {verbose : Bool} {names : List String} {format : ReportFormat} {suite : String}
  {files : FileTree} {configuration : Configuration} {catalog : Catalog}

/-- A run of the program is a run of a suite with its report. -/
theorem runWith_of_asked (runnerOf : RunnerSettings → Runner Memory) (clock : Clock)
    (memory : Memory)
    (asked : read environment arguments =
      .ok (.perform overrides verbose (.run names format suite)))
    (configured : loadConfiguration overrides files = .ok configuration)
    (loaded : (Catalog.load configuration files).result = .ok catalog) :
    let run := (Harness.ofConfiguration configuration catalog).runSuite
      (runnerOf configuration.runner) clock (requestedNames catalog names) files memory
    let report := Harness.report clock suite run
    let response := runWith runnerOf clock environment arguments files memory
    response.exitCode = (if report.allPassed then 0 else 1) ∧
      response.output = report.write format ∧ response.files = run.files ∧
      response.memory = run.memory := by
  simp only [runWith, asked, perform, configured, loaded, performLoaded, performRun, requestedNames]
  cases names with
  | nil => exact ⟨rfl, rfl, rfl, rfl⟩
  | cons name rest => exact ⟨rfl, rfl, rfl, rfl⟩

/-- The calls of the runner are those of the suite. -/
theorem runnerCalls_of_asked (runnerOf : RunnerSettings → Runner Memory) (clock : Clock)
    (memory : Memory)
    (asked : read environment arguments =
      .ok (.perform overrides verbose (.run names format suite)))
    (configured : loadConfiguration overrides files = .ok configuration)
    (loaded : (Catalog.load configuration files).result = .ok catalog) :
    runnerCalls runnerOf clock environment arguments files memory =
      (Harness.ofConfiguration configuration catalog).calls (runnerOf configuration.runner) clock
        (requestedNames catalog names) files memory := by
  obtain ⟨_, _, _, remembered⟩ := runWith_of_asked (fun settings => (runnerOf settings).recorded)
    clock (memory, []) asked configured loaded
  exact congrArg Prod.snd remembered

/-- Where everything can be loaded, a run exits with zero if each name passes on what the names
before it leave, and else with one. The form of the report and the name of the suite change neither
this nor the files nor the calls of the runner; the exit codes of the runner change neither this nor
what is put out. -/
theorem runWith_exits_zero_iff (runnerOf : RunnerSettings → Runner Memory) (clock : Clock)
    (memory : Memory)
    (asked : read environment arguments =
      .ok (.perform overrides verbose (.run names format suite)))
    (configured : loadConfiguration overrides files = .ok configuration)
    (loaded : (Catalog.load configuration files).result = .ok catalog) :
    let harness := Harness.ofConfiguration configuration catalog
    let runner := runnerOf configuration.runner
    let requested := requestedNames catalog names
    let response := runWith runnerOf clock environment arguments files memory
    (response.exitCode = 0 ↔ harness.PassesAll runner clock requested files memory) ∧
      (response.exitCode = 1 ↔ ¬ harness.PassesAll runner clock requested files memory) ∧
      (∀ otherEnvironment otherArguments otherVerbose otherFormat otherSuite,
        read otherEnvironment otherArguments =
            .ok (.perform overrides otherVerbose (.run names otherFormat otherSuite)) →
          let other := runWith runnerOf clock otherEnvironment otherArguments files memory
          other.exitCode = response.exitCode ∧ other.files = response.files ∧
            runnerCalls runnerOf clock otherEnvironment otherArguments files memory =
              runnerCalls runnerOf clock environment arguments files memory) ∧
      ∀ otherOf : RunnerSettings → Runner Memory,
        runner.AgreesButExit (otherOf configuration.runner) →
          let other := runWith otherOf clock environment arguments files memory
          other.exitCode = response.exitCode ∧ other.output = response.output := by
  intro harness runner requested response
  obtain ⟨status, output, left, _⟩ :=
    runWith_of_asked runnerOf clock memory asked configured loaded
  have zero_or_one :
      (response.exitCode = 0 ↔ harness.PassesAll runner clock requested files memory) ∧
        (response.exitCode = 1 ↔ ¬ harness.PassesAll runner clock requested files memory) := by
    rw [status, ← harness.allPassed_report_iff runner clock suite]
    cases (Harness.report ..).allPassed <;> decide
  refine ⟨zero_or_one.1, zero_or_one.2, ?_, ?_⟩
  · intro otherEnvironment otherArguments otherVerbose otherFormat otherSuite askedToo other
    obtain ⟨otherStatus, _, otherLeft, _⟩ :=
      runWith_of_asked runnerOf clock memory askedToo configured loaded
    refine ⟨otherStatus.trans status.symm, otherLeft.trans left.symm, ?_⟩
    rw [runnerCalls_of_asked runnerOf clock memory askedToo configured loaded,
      runnerCalls_of_asked runnerOf clock memory asked configured loaded]
  · intro otherOf agrees other
    obtain ⟨otherStatus, otherOutput, _⟩ :=
      runWith_of_asked otherOf clock memory asked configured loaded
    have same := Harness.report_of_agrees agrees harness clock suite requested files memory
    rw [same] at otherStatus otherOutput
    exact ⟨otherStatus.trans status.symm, otherOutput.trans output.symm⟩

/-- The catalogs with one test case. -/
def stockedCatalog : Catalog :=
  ⟨.ofEntries [("q1", "SELECT 1;")], ⟨[⟨"t1", ["q1"], "[]", "[]"⟩]⟩⟩

/-- These catalogs where the default configuration looks for them. -/
def stocked : FileTree where
  working := []
  entries :=
    [(["transformer_queries.json".toList],
        .file (Utf8.bytesOf "\x7b\"q1\": \"SELECT 1;\"\x7d") false),
      (["test_files".toList], .directory),
      (["test_files".toList, "transformer_test_data.json".toList],
        .file (Utf8.bytesOf ("[\x7b\"name\": \"t1\", \"sql_queries\": [\"q1\"], " ++
          "\"input\": \"[]\", \"output\": \"[]\"\x7d]")) false)]

/-- A system on which every program says that the test passed, and exits with three. -/
def approving : System := fun _ _ files =>
  .ok ⟨Utf8.bytesOf "Test passed!\n", some 3, files⟩

/-- The test case passes, whatever the form of the report is. -/
theorem run_stocked_exits_zero :
    let arguments := ["run", "-o", "json", "--suite=nightly"]
    let overrides : Overrides := ⟨none, none, none, none⟩
    read ⟨none, none⟩ arguments = .ok (.perform overrides false (.run [] .json "nightly")) ∧
      loadConfiguration overrides stocked = .ok {} ∧
      (Catalog.load {} stocked).result = .ok stockedCatalog ∧
      (run approving (fun _ => ⟨0⟩) ⟨none, none⟩ arguments stocked).exitCode = 0 ∧
      (run approving (fun _ => ⟨0⟩) ⟨none, none⟩ ["run"] stocked).exitCode = 0 := by
  intro arguments overrides
  have asked : read ⟨none, none⟩ arguments =
      .ok (.perform overrides false (.run [] .json "nightly")) := rfl
  have configured : loadConfiguration overrides stocked = .ok {} := rfl
  have loaded : (Catalog.load {} stocked).result = .ok stockedCatalog := by decide +kernel
  obtain ⟨zero, _, others, _⟩ := runWith_exits_zero_iff (fun settings => settings.runner approving)
    (fun _ => ⟨0⟩) () asked configured loaded
  have approved : Verdict.marker.toList <:+:
      (RunnerSettings.capturedText (Utf8.bytesOf "Test passed!\n")).toList := by
    rw [← Text.occursIn_iff]
    decide +kernel
  have writable : ((Harness.ofConfiguration {} stockedCatalog).writer.write
      (stockedCatalog.fixture ⟨"t1", ["q1"], "[]", "[]"⟩) stocked).result =
        .ok (FixtureWriter.ofConfiguration {}).paths := by decide +kernel
  have exits : (run approving (fun _ => ⟨0⟩) ⟨none, none⟩ arguments stocked).exitCode = 0 := by
    refine zero.mpr fun position => ?_
    match position with
    | ⟨0, _⟩ =>
      exact ⟨⟨"t1", ["q1"], "[]", "[]"⟩, _, ⟨rfl, (FixtureWriter.writes_of_ok writable).2⟩,
        approved⟩
  have plain := (others ⟨none, none⟩ ["run"] false .text "transformer" rfl).1
  exact ⟨asked, configured, loaded, exits, plain.trans exits⟩

end FixtureHarness.CommandLine
