import FixtureHarness.Harness.Basic
import FixtureHarness.Proofs.Catalog.Resolving
import FixtureHarness.Proofs.Fixture.Pages

/-! # What performing one test case does

A name is refused, or its fixture is written and the runner is called once. To speak about the calls
of a runner, the runner is made to keep them in its memory; this changes nothing that it does.
-/

namespace FixtureHarness

variable {Memory : Type}

/-- What a runner was given at a call, and what was captured of it. -/
structure RunnerCall where
  paths : FixturePaths
  files : FileTree
  captured : Captured

/-- The runner that also remembers its calls, in order. -/
def Runner.recorded (runner : Runner Memory) : Runner (Memory × List RunnerCall) where
  run paths files memory :=
    let back := runner.run paths files memory.1
    { captured := back.captured
      files := back.files
      memory := (back.memory, memory.2 ++ [⟨paths, files, back.captured⟩])
      log := back.log }

namespace Harness

/-- The calls of the runner that performing a name makes. -/
def callsOf (harness : Harness) (runner : Runner Memory) (name : String) (files : FileTree)
    (memory : Memory) : List RunnerCall :=
  (harness.perform runner.recorded name files (memory, [])).memory.2

/-- What keeps a name from being run: no test case has it, or its fixture cannot be written. -/
inductive Refuses (harness : Harness) (name : String) (files : FileTree) : Failure → Prop where
  | unknown : harness.catalog.tests.find? name = none →
      Refuses harness name files (.unknownTestCase name)
  | unwritten {case : TestCase} {cause : Failure} :
      harness.catalog.tests.find? name = some case →
      (harness.writer.write (harness.catalog.fixture case) files).result = .error cause →
        Refuses harness name files cause

/-- The first test case of a name is written as a fixture. -/
def Readies (harness : Harness) (name : String) (case : TestCase) (before after : FileTree) :
    Prop :=
  harness.catalog.tests.find? name = some case ∧
    harness.writer.Writes (harness.catalog.fixture case) before after

variable {harness : Harness} {name : String} {case : TestCase} {files ready : FileTree}

/-- A name is refused, or its fixture is written. -/
theorem refuses_or_readies (harness : Harness) (name : String) (files : FileTree) :
    (∃ cause, harness.Refuses name files cause) ∨ ∃ case ready, harness.Readies name case files ready := by
  cases known : harness.catalog.tests.find? name with
  | none => exact .inl ⟨_, .unknown known⟩
  | some case =>
    cases written : (harness.writer.write (harness.catalog.fixture case) files).result with
    | error cause => exact .inl ⟨cause, .unwritten known written⟩
    | ok paths => exact .inr ⟨case, _, known, (FixtureWriter.writes_of_ok written).2⟩

theorem Readies.not_refuses (readies : harness.Readies name case files ready) {cause : Failure} :
    ¬ harness.Refuses name files cause := by
  obtain ⟨known, writes⟩ := readies
  intro refused
  cases refused with
  | unknown unknown => cases unknown.symm.trans known
  | unwritten other failed =>
    obtain rfl := Option.some.inj (other.symm.trans known)
    cases failed.symm.trans writes.write_eq.1

/-! ## One step -/

theorem perform_of_unknown (unknown : harness.catalog.tests.find? name = none)
    (runner : Runner Memory) (memory : Memory) :
    harness.perform runner name files memory =
      ⟨.error (.unknownTestCase name), files, memory, (harness.catalog.resolve name).log⟩ := by
  simp only [perform, Catalog.resolve_of_unknown unknown]

theorem perform_of_unwritten {cause : Failure}
    (known : harness.catalog.tests.find? name = some case)
    (failed : (harness.writer.write (harness.catalog.fixture case) files).result = .error cause)
    (runner : Runner Memory) (memory : Memory) :
    let written := harness.writer.write (harness.catalog.fixture case) files
    harness.perform runner name files memory =
      ⟨.error cause, written.files, memory,
        (harness.catalog.resolve name).log ++ written.log⟩ := by
  simp only [perform, Catalog.resolve_of_known known, failed]

/-- A refused name leaves the runner alone, whatever runner it is. -/
theorem Refuses.perform_eq {cause : Failure} (refused : harness.Refuses name files cause) :
    ∃ after log, ∀ {State : Type} (runner : Runner State) (memory : State),
      harness.perform runner name files memory = ⟨.error cause, after, memory, log⟩ := by
  cases refused with
  | unknown unknown => exact ⟨_, _, perform_of_unknown unknown⟩
  | unwritten known failed => exact ⟨_, _, perform_of_unwritten known failed⟩

/-- A name whose fixture is written is run on what was written. -/
theorem Readies.perform_eq (readies : harness.Readies name case files ready) (runner : Runner Memory)
    (memory : Memory) :
    let back := runner.run harness.writer.paths ready memory
    harness.perform runner name files memory =
      { result := .ok (judge (harness.catalog.fixture case) back.captured)
        files := back.files
        memory := back.memory
        log := (harness.catalog.resolve name).log ++
          (harness.writer.write (harness.catalog.fixture case) files).log ++ [.performing name] ++
          back.log ++ judgeLog name back.captured } := by
  obtain ⟨known, writes⟩ := readies
  obtain ⟨done, same⟩ := writes.write_eq
  simp only [perform, Catalog.resolve_of_known known, done, same]

/-- What the step of a suite does for a name, with the calls that it makes. -/
inductive Step (harness : Harness) (runner : Runner Memory) (name : String) (files : FileTree)
    (memory : Memory) : Except Failure Outcome → List RunnerCall → Prop where
  | refused {cause : Failure} : harness.Refuses name files cause →
      Step harness runner name files memory (.error cause) []
  | ran {case : TestCase} {ready : FileTree} {captured : Captured} :
      harness.Readies name case files ready →
      captured = (runner.run harness.writer.paths ready memory).captured →
        Step harness runner name files memory (.ok (judge (harness.catalog.fixture case) captured))
          [⟨harness.writer.paths, ready, captured⟩]

theorem perform_step (harness : Harness) (runner : Runner Memory) (name : String)
    (files : FileTree) (memory : Memory) :
    harness.Step runner name files memory (harness.perform runner name files memory).result
      (harness.callsOf runner name files memory) := by
  rcases harness.refuses_or_readies name files with ⟨cause, refused⟩ | ⟨case, ready, readies⟩
  · obtain ⟨after, log, same⟩ := refused.perform_eq
    rw [callsOf, same runner, same runner.recorded]
    exact .refused refused
  · rw [callsOf, readies.perform_eq, readies.perform_eq]
    exact .ran readies rfl

/-- Keeping the calls changes nothing else. -/
theorem perform_recorded (harness : Harness) (runner : Runner Memory) (name : String)
    (files : FileTree) (memory : Memory) (calls : List RunnerCall) :
    let performed := harness.perform runner name files memory
    harness.perform runner.recorded name files (memory, calls) =
      { result := performed.result
        files := performed.files
        memory := (performed.memory, calls ++ harness.callsOf runner name files memory)
        log := performed.log } := by
  rcases harness.refuses_or_readies name files with ⟨cause, refused⟩ | ⟨case, ready, readies⟩
  · obtain ⟨after, log, same⟩ := refused.perform_eq
    simp only [callsOf, same, List.append_nil]
  · simp only [callsOf, readies.perform_eq, Runner.recorded, List.nil_append]

end Harness

end FixtureHarness
