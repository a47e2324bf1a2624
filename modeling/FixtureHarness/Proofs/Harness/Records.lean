import FixtureHarness.Proofs.Catalog.Validating
import FixtureHarness.Proofs.Harness.Suite

/-! # Running all test cases

Running all test cases goes from the test cases to their names, and from each name to the first test
case that has it. Where every fixture can be written, the runner is called once for each test case,
right behind the writing of the fragments and datasets of the first one of its name. So a test case
behind another one of its name is never run, and without such test cases each is run with its own
data.
-/

namespace FixtureHarness

variable {Memory : Type}

/-- A call with the files of a writer that directly follows the writing of a script, an input and an
output over what was there before. -/
structure RunnerCall.Runs (call : RunnerCall) (writer : FixtureWriter)
    (script input output : String) (before : FileTree) : Prop where
  paths : call.paths =
    { script := writer.directory.join ⟨writer.names.statements⟩
      input := writer.directory.join ⟨writer.names.input⟩
      output := writer.directory.join ⟨writer.names.output⟩ }
  files : writer.WritesTexts script input output before call.files

namespace Harness

/-- Whatever fixture a suite comes to write, it is written. -/
def WritesAll (harness : Harness) (runner : Runner Memory) (clock : Clock) (names : List String)
    (files : FileTree) (memory : Memory) : Prop :=
  ∀ position name record, names[position]? = some name →
    harness.catalog.tests.find? name = some record →
      ∃ paths, (harness.writer.write (harness.catalog.fixture record)
        (harness.runSuite runner clock (names.take position) files memory).files).result = .ok paths

/-- Every name of a suite comes to be run. -/
def RunsAll (harness : Harness) (runner : Runner Memory) (clock : Clock) (names : List String)
    (files : FileTree) (memory : Memory) : Prop :=
  ∀ position : Fin names.length, ∃ record ready, harness.Readies (names.get position) record
    (harness.runSuite runner clock (names.take position) files memory).files ready

variable {harness : Harness} {runner : Runner Memory} {clock : Clock} {names : List String}
  {files : FileTree} {memory : Memory}

/-- A name whose fixture is written makes one call, on what was written. -/
theorem Readies.callsOf_eq {name : String} {record : TestCase} {ready : FileTree}
    (readies : harness.Readies name record files ready) (runner : Runner Memory) (memory : Memory) :
    harness.callsOf runner name files memory =
      [⟨harness.writer.paths, ready, (runner.run harness.writer.paths ready memory).captured⟩] := by
  rw [callsOf, readies.perform_eq]
  rfl

/-- The calls of the first names come first. -/
theorem calls_take_prefix (harness : Harness) (runner : Runner Memory) (clock : Clock)
    (names : List String) (files : FileTree) (memory : Memory) (count : Nat) :
    harness.calls runner clock (names.take count) files memory <+:
      harness.calls runner clock names files memory := by
  have made := harness.callsFrom_append runner clock 1 files memory (names.take count)
    (names.drop count)
  rw [List.take_append_drop] at made
  exact ⟨_, made.symm⟩

/-- If every name comes to be run, the calls are as many as the names. -/
theorem RunsAll.calls_length (runs : harness.RunsAll runner clock names files memory) {count : Nat}
    (bound : count ≤ names.length) :
    (harness.calls runner clock (names.take count) files memory).length = count := by
  induction count with
  | zero => rfl
  | succ count ih =>
    obtain ⟨record, ready, readies⟩ := runs ⟨count, bound⟩
    have added := (harness.runSuite_at runner clock files memory ⟨count, bound⟩).2
    rw [readies.callsOf_eq] at added
    rw [added, List.length_append, ih (Nat.le_of_succ_le bound), List.length_singleton]

/-- Then the call at a position is the one that is made for the name there. -/
theorem RunsAll.calls_getElem? (runs : harness.RunsAll runner clock names files memory)
    {position : Fin names.length} {record : TestCase} {ready : FileTree} :
    let before := harness.runSuite runner clock (names.take position) files memory
    harness.Readies (names.get position) record before.files ready →
      (harness.calls runner clock names files memory)[position.val]? =
        some ⟨harness.writer.paths, ready,
          (runner.run harness.writer.paths ready before.memory).captured⟩ := by
  intro before readies
  have added := (harness.runSuite_at runner clock files memory position).2
  have counted := runs.calls_length (Nat.le_of_lt position.isLt)
  obtain ⟨later, whole⟩ := harness.calls_take_prefix runner clock names files memory (position + 1)
  rw [readies.callsOf_eq] at added
  rw [← whole, added, List.append_assoc, List.getElem?_append_right (Nat.le_of_eq counted), counted,
    Nat.sub_self]
  rfl

/-! ## All test cases -/

/-- A name of the catalog finds the first test case that has it, and where all fixtures are written
that one comes to be run. -/
theorem WritesAll.readies
    (written : harness.WritesAll runner clock harness.catalog.tests.names files memory)
    {position : Nat} {name : String} (named : harness.catalog.tests.names[position]? = some name) :
    let tests := harness.catalog.tests
    let before := harness.runSuite runner clock (tests.names.take position) files memory
    ∃ (first : Fin tests.cases.length) (ready : FileTree),
      tests.position? name = some first.val ∧
        harness.Readies name (tests.cases.get first) before.files ready := by
  intro tests before
  obtain ⟨first, _, found⟩ := TestCatalog.exists_position? named
  have inside : first < tests.cases.length := by
    obtain ⟨bound, _⟩ := List.getElem?_eq_some_iff.mp (TestCatalog.position?_eq_some_iff.mp found).1
    rwa [TestCatalog.names_length] at bound
  have known : tests.find? name = some (tests.cases.get ⟨first, inside⟩) := by
    rw [TestCatalog.find?_eq_bind_position?, found, Option.bind_some]
    exact List.getElem?_eq_getElem inside
  obtain ⟨paths, done⟩ := written position name _ named known
  exact ⟨⟨first, inside⟩, _, found, known, (FixtureWriter.writes_of_ok done).2⟩

/-- Where all fixtures are written, running all test cases calls the runner once for each of them,
in their order. The call directly follows the writing of the joined fragments, the input and the
output of the first test case that has the same name: of the test case itself if there are no
duplicates, and never of a hidden one. The duplicates are the names that stand at two or more
positions, each once, in the order of their second places. -/
theorem runAll_runs_first (harness : Harness) (runner : Runner Memory) (clock : Clock)
    (files : FileTree) (memory : Memory)
    (written : harness.WritesAll runner clock harness.catalog.tests.names files memory) :
    let tests := harness.catalog.tests
    let calls := (harness.runAll runner.recorded clock files (memory, [])).memory.2
    calls.length = tests.cases.length ∧
      (∀ position : Fin tests.cases.length,
        let before := harness.runSuite runner clock (tests.names.take position) files memory
        ∃ (first : Fin tests.cases.length) (call : RunnerCall),
          let record := tests.cases.get first
          tests.position? (tests.cases.get position).name = some first.val ∧
            calls[position.val]? = some call ∧
            call.Runs harness.writer
              (String.join (record.queries.filterMap harness.catalog.queries.get?))
              record.input record.output before.files ∧
            (harness.catalog.duplicates = [] → first = position) ∧ ¬ tests.IsHidden first) ∧
      (∀ name, name ∈ harness.catalog.duplicates ↔ 2 ≤ tests.names.count name) ∧
      harness.catalog.duplicates.Nodup ∧
      harness.catalog.duplicates.Pairwise (Catalog.SecondBefore tests.names) := by
  intro tests calls
  have runs : harness.RunsAll runner clock tests.names files memory := by
    intro position
    obtain ⟨first, ready, _, readies⟩ :=
      written.readies (List.getElem?_eq_getElem position.isLt)
    exact ⟨_, ready, readies⟩
  refine ⟨?_, ?_, fun _ => Catalog.mem_repeatedNames_iff, Catalog.nodup_repeatedNames _,
    Catalog.pairwise_repeatedNames _⟩
  · have counted := runs.calls_length (Nat.le_refl _)
    rwa [List.take_length, TestCatalog.names_length] at counted
  · intro position before
    have named := TestCatalog.names_getElem? position
    obtain ⟨first, ready, found, readies⟩ := written.readies named
    obtain ⟨bound, same⟩ := List.getElem?_eq_some_iff.mp named
    have here : harness.Readies (tests.names.get ⟨position, bound⟩) (tests.cases.get first)
        before.files ready := by
      rw [List.get_eq_getElem, same]
      exact readies
    have writes := readies.2
    rw [Catalog.fixture_eq] at writes
    refine ⟨first, _, found, runs.calls_getElem? here, ⟨rfl, writes⟩, fun different => ?_,
      TestCatalog.not_isHidden_of_position? found⟩
    have own := Catalog.duplicates_eq_nil_iff_position?.mp different position
    exact Fin.ext (Option.some.inj (found.symm.trans own))

/-- A harness whose last test case is hidden by its first one. -/
def crowded : Harness where
  catalog := Catalog.shadowed
  writer := ⟨⟨"fixtures"⟩, ⟨"statements.sql", "input.json", "output.json"⟩⟩

/-- A runner that removes what it was given. -/
def sweeping : Runner Unit where
  run _ files _ :=
    { captured := ⟨"swept", some 0⟩
      files := ⟨files.working, []⟩
      memory := ()
      log := [] }

/-- At the place of the hidden test case, the first one is run. -/
theorem runAll_crowded :
    let calls := (crowded.runAll sweeping.recorded (fun _ => ⟨0⟩) ⟨[], []⟩ ((), [])).memory.2
    crowded.WritesAll sweeping (fun _ => ⟨0⟩) crowded.catalog.tests.names ⟨[], []⟩ () ∧
      calls.length = 3 ∧ ∃ call, calls[2]? = some call ∧
        call.Runs crowded.writer "SELECT 1;" "[]" "[]" ⟨[], []⟩ := by
  intro calls
  have written :
      crowded.WritesAll sweeping (fun _ => ⟨0⟩) crowded.catalog.tests.names ⟨[], []⟩ () := by
    intro position name record named found
    match position with
    | 0 | 1 | 2 =>
      obtain rfl := Option.some.inj named
      obtain rfl := Option.some.inj found
      exact ⟨_, rfl⟩
    | _ + 3 => cases named
  obtain ⟨count, each, _⟩ := runAll_runs_first crowded sweeping (fun _ => ⟨0⟩) ⟨[], []⟩ () written
  obtain ⟨first, call, found, held, runs, _⟩ := each ⟨2, by decide⟩
  have isFirst : some 0 = some first.val := found
  obtain rfl : first = ⟨0, by decide⟩ := Fin.ext (Option.some.inj isFirst).symm
  exact ⟨written, count, call, held, runs⟩

end Harness

end FixtureHarness
