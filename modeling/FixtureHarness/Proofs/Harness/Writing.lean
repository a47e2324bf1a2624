import FixtureHarness.Proofs.Fixture.Attempts
import FixtureHarness.Proofs.Harness.Performing

/-! # What writing a fixture leaves

Whichever step of it fails, an attempt to write a fixture leaves what was written until then and
touches nothing else. The failure names what could not be made or written, and with such a failure
the runner is not called.
-/

namespace FixtureHarness

variable {Memory : Type}

/-- A failure to write a fixture ends the test case before the runner is called. -/
theorem Harness.not_run_of_unwritten {harness : Harness} {name : String} {record : TestCase}
    {files : FileTree} {cause : Failure}
    (known : harness.catalog.tests.find? name = some record)
    (failed : (harness.writer.write (harness.catalog.fixture record) files).result = .error cause)
    (runner : Runner Memory) (memory : Memory) :
    let performed := harness.perform runner name files memory
    performed.result = .error cause ∧
      performed.files = (harness.writer.write (harness.catalog.fixture record) files).files ∧
      performed.memory = memory ∧ harness.callsOf runner name files memory = [] := by
  rw [callsOf, perform_of_unwritten known failed, perform_of_unwritten known failed]
  exact ⟨rfl, rfl, rfl, rfl⟩

namespace FixtureWriter

/-- A fixture that is written is held by its three files in a directory that is there, where the
empty path stands for the working directory that the program was started in. A failure names the
directory, or the page whose writing failed: then the pages before it are held. Beside the files that
are held everything is as before, the file of that page and those of the pages behind it included,
but for directories on the way to the fixtures; and the runner is not called. -/
theorem write_leaves (writer : FixtureWriter) (fixture : Fixture) (before : FileTree) :
    let written := writer.write fixture before
    let after := written.files
    let paths : FixturePaths :=
      { script := writer.directory.join ⟨writer.names.statements⟩
        input := writer.directory.join ⟨writer.names.input⟩
        output := writer.directory.join ⟨writer.names.output⟩ }
    let pages := [(paths.script, fixture.script), (paths.input, fixture.input),
      (paths.output, fixture.output)]
    (∀ result, written.result = .ok result →
      result = paths ∧ paths.Hold after fixture.script fixture.input fixture.output ∧
        writer.Holds pages before after ∧
        ((writer.directory = Path.empty → before.hasDirectory before.working = true) →
          after.LeadsToDirectory writer.directory)) ∧
      ∀ cause, written.result = .error cause →
        ((∃ fault, cause = .fileAccess writer.directory fault ∧
            (before.ensureTree writer.directory).2 = some fault ∧ writer.Holds [] before after) ∨
          ∃ done page rest fault, pages = done ++ page :: rest ∧
            cause = .fileAccess page.1 fault ∧ after.writeText page.1 page.2 = .error fault ∧
            writer.Holds done before after) ∧
          ∀ {Memory : Type} (harness : Harness) (runner : Runner Memory) (name : String)
            (record : TestCase) (memory : Memory), harness.writer = writer →
              harness.catalog.tests.find? name = some record →
              harness.catalog.fixture record = fixture →
                let performed := harness.perform runner name before memory
                performed.result = .error cause ∧ performed.files = after ∧
                  performed.memory = memory ∧ harness.callsOf runner name before memory = [] := by
  intro written after paths pages
  have attempt := writer.write_attempt fixture before
  constructor
  · intro result done
    obtain ⟨rfl, writes⟩ := writes_of_ok done
    exact ⟨rfl, writes.hold, attempt.holds_all done⟩
  · intro cause failed
    refine ⟨attempt.holds_some failed, ?_⟩
    rintro Memory harness runner name record memory rfl known rfl
    exact Harness.not_run_of_unwritten known failed runner memory

/-- Input and script go to one file, the output to the directory itself. -/
theorem write_leaves_colliding :
    let writer : FixtureWriter := ⟨⟨"a/b"⟩, ⟨"x", "x", ""⟩⟩
    let fixture : Fixture := ⟨"t", "SELECT 1;", "[1]", "[]", []⟩
    let written := writer.write fixture ⟨[], []⟩
    written.result = .error (.fileAccess ⟨"a/b/"⟩ .isADirectory) ∧
      written.files.read ⟨"a/b/x"⟩ = .ok (Utf8.bytesOf "[1]") ∧
      ∃ done page rest, writer.pages fixture = done ++ page :: rest ∧ page.1 = ⟨"a/b/"⟩ ∧
        writer.Holds done ⟨[], []⟩ written.files := by
  intro writer fixture written
  have failed : written.result = .error (.fileAccess ⟨"a/b/"⟩ .isADirectory) := by decide +kernel
  refine ⟨failed, by decide +kernel, ?_⟩
  rcases ((write_leaves writer fixture ⟨[], []⟩).2 _ failed).1 with
    ⟨fault, named, _⟩ | ⟨done, page, rest, fault, split, named, _, holds⟩
  · simp [writer] at named
  · exact ⟨done, page, rest, split, by simpa using (Failure.fileAccess.inj named).1.symm, holds⟩

end FixtureWriter

end FixtureHarness
