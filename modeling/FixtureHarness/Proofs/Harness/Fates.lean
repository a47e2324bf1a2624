import FixtureHarness.Proofs.Fixture.Attempts
import FixtureHarness.Proofs.Harness.Suite

/-! # What becomes of a name

No test case has a name, or its fixture cannot be written, or it is run. This settles what performing
the name gives and, with a runner that leaves no records of its own, the block of records that it
leaves.
-/

namespace FixtureHarness

variable {Memory : Type}

/-- A runner that leaves no records of its own. -/
def Runner.Silent (runner : Runner Memory) : Prop :=
  ∀ paths files memory, (runner.run paths files memory).log = []

/-- What can become of a name in a suite. -/
inductive Fate where
  | unknown
  /-- The writing of some pages was begun; the last of them, or the directory before any, failed. -/
  | unwritten (record : TestCase) (begun : List (Path × String)) (cause : Failure)
  | ran (record : TestCase) (captured : Captured)

namespace Harness

/-- The records of a known name up to the announcement of its files. -/
def preparation (harness : Harness) (name : String) (record : TestCase) : List Log.Record :=
  .resolving name :: .composing record.queries.length ::
    ((record.queries.filter fun query => (harness.catalog.queries.get? query).isNone).map
      (.unknownQuery name) ++ [harness.writer.announcement])

/-- The record that a run ends with. -/
def verdictRecord (name : String) (captured : Captured) : Log.Record :=
  if (Verdict.classify captured.text).isPassed then .passed name
  else .failed name captured.exitCode

/-- The records of a name that something became of. -/
def block (harness : Harness) (name : String) : Fate → List Log.Record
  | .unknown => [.resolving name, .notExecuted name (Failure.unknownTestCase name).message]
  | .unwritten record begun cause =>
    harness.preparation name record ++ FixtureWriter.writingLog begun ++
      [.notExecuted name cause.message]
  | .ran record captured =>
    let pages := harness.writer.pages (harness.catalog.fixture record)
    harness.preparation name record ++ FixtureWriter.writingLog pages ++
      [.performing name, .verifying, verdictRecord name captured]

/-- What becomes of a name that is performed on some files. -/
inductive Befalls (harness : Harness) (runner : Runner Memory) (name : String) (files : FileTree)
    (memory : Memory) : Fate → Prop where
  | unknown : harness.catalog.tests.find? name = none →
      Befalls harness runner name files memory .unknown
  | unmade {record : TestCase} {made : FileTree} {fault : FileFault} :
      harness.catalog.tests.find? name = some record →
      files.ensureTree harness.writer.directory = (made, some fault) →
      Befalls harness runner name files memory
        (.unwritten record [] (.fileAccess harness.writer.directory fault))
  | cut {record : TestCase} {made : FileTree} {done rest : List (Path × String)}
      {page : Path × String} {fault : FileFault} :
      harness.catalog.tests.find? name = some record →
      files.ensureTree harness.writer.directory = (made, none) →
      harness.writer.pages (harness.catalog.fixture record) = done ++ page :: rest →
      (FixtureWriter.writePages harness.writer.paths made done).result = .ok harness.writer.paths →
      (FixtureWriter.writePages harness.writer.paths made done).files.writeText page.1 page.2 =
        .error fault →
      Befalls harness runner name files memory
        (.unwritten record (done ++ [page]) (.fileAccess page.1 fault))
  | ran {record : TestCase} {ready : FileTree} :
      harness.Readies name record files ready →
      Befalls harness runner name files memory
        (.ran record (runner.run harness.writer.paths ready memory).captured)

variable {harness : Harness} {runner : Runner Memory} {name : String} {files : FileTree}
  {memory : Memory} {fate : Fate}

theorem exists_fate (harness : Harness) (runner : Runner Memory) (name : String)
    (files : FileTree) (memory : Memory) :
    ∃ fate, harness.Befalls runner name files memory fate := by
  cases known : harness.catalog.tests.find? name with
  | none => exact ⟨_, .unknown known⟩
  | some record =>
    have attempt := harness.writer.write_attempt (harness.catalog.fixture record) files
    generalize result : harness.writer.write (harness.catalog.fixture record) files = written
      at attempt
    cases attempt with
    | unmade directory => exact ⟨_, .unmade known directory⟩
    | cut directory split done failed => exact ⟨_, .cut known directory split done failed⟩
    | complete _ _ =>
      have succeeded := congrArg Written.result result
      exact ⟨_, .ran ⟨known, (FixtureWriter.writes_of_ok succeeded).2⟩⟩

/-! ## One block -/

/-- What performing a name gives, after what became of it. -/
def resultOf (harness : Harness) (name : String) : Fate → Except Failure Outcome
  | .unknown => .error (.unknownTestCase name)
  | .unwritten _ _ cause => .error cause
  | .ran record captured => .ok (judge (harness.catalog.fixture record) captured)

theorem resolve_log_of_known {record : TestCase}
    (known : harness.catalog.tests.find? name = some record) :
    (harness.catalog.resolve name).log ++ [harness.writer.announcement] =
      harness.preparation name record := by
  simp only [Catalog.resolve, Catalog.resolveLog, known, Catalog.composeLog,
    QueryCatalog.compose_missing, preparation, List.cons_append, List.nil_append]

theorem Befalls.perform_result (befalls : harness.Befalls runner name files memory fate) :
    (harness.perform runner name files memory).result = harness.resultOf name fate := by
  cases befalls with
  | unknown unknown => rw [perform_of_unknown unknown, resultOf]
  | @unmade record _ _ known directory =>
    have written : harness.writer.write (harness.catalog.fixture record) files = _ :=
      FixtureWriter.write_of_unmade directory
    rw [perform_of_unwritten known (by rw [written]), resultOf]
  | cut known directory split done failed =>
    have written := FixtureWriter.write_of_cut directory split done failed
    rw [perform_of_unwritten known (by rw [written]), resultOf]
  | ran readies => rw [readies.perform_eq, resultOf]

/-- With a runner that is silent, the records of a name are the block of what became of it. -/
theorem Befalls.perform_log (befalls : harness.Befalls runner name files memory fate)
    (silent : runner.Silent) :
    (harness.perform runner name files memory).log ++
        caseLog name (harness.perform runner name files memory).result =
      harness.block name fate := by
  rw [befalls.perform_result]
  cases befalls with
  | unknown unknown =>
    simp only [perform_of_unknown unknown, Catalog.resolve, Catalog.resolveLog, unknown, resultOf,
      caseLog, block, List.cons_append, List.nil_append]
  | @unmade record _ _ known directory =>
    have written : harness.writer.write (harness.catalog.fixture record) files = _ :=
      FixtureWriter.write_of_unmade directory
    rw [perform_of_unwritten known (by rw [written]), written]
    simp only [resolve_log_of_known known, resultOf, caseLog, block, FixtureWriter.writingLog,
      List.map_nil, List.append_nil]
  | cut known directory split done failed =>
    have written := FixtureWriter.write_of_cut directory split done failed
    rw [perform_of_unwritten known (by rw [written]), written]
    simp only [← resolve_log_of_known known, resultOf, caseLog, block, List.append_assoc,
      List.cons_append, List.nil_append]
  | ran readies =>
    rw [readies.perform_eq, readies.2.write_log]
    simp only [← resolve_log_of_known readies.1, resultOf, caseLog, block, judgeLog, verdictRecord,
      silent _ _ _, List.append_assoc, List.cons_append, List.nil_append, List.append_nil]

end Harness

end FixtureHarness
