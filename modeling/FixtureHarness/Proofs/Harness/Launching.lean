import FixtureHarness.Proofs.Command.Capture
import FixtureHarness.Proofs.Harness.Performing

/-! # Programs that cannot be started

A program that cannot be started is judged by the text that says so. The text holds the name of the
program and what the system says, so the marker in either of them makes a test pass that never ran.
-/

namespace FixtureHarness

/-- The faults that a system names by itself do not have the marker in their texts. -/
theorem LaunchFault.marker_infix_message_iff (fault : LaunchFault) :
    Verdict.marker.toList <:+: fault.message.toList ↔
      ∃ text, fault = .other text ∧ Verdict.marker.toList <:+: text.toList := by
  cases fault with
  | other text => simp [message]
  | _ =>
    refine iff_of_false ?_ (by simp)
    rw [← Text.occursIn_iff]
    decide

namespace RunnerSettings

/-- The colon keeps the marker from lying across the two parts of the text. -/
theorem marker_infix_launchText_iff (program : String) (fault : LaunchFault) :
    Verdict.marker.toList <:+: (launchText program fault).toList ↔
      Verdict.marker.toList <:+: program.toList ∨
        Verdict.marker.toList <:+: fault.message.toList := by
  have joined : launchText program fault = program ++ ": " ++ fault.message := rfl
  have parts : (launchText program fault).toList =
      program.toList ++ ':' :: ' ' :: fault.message.toList := by
    rw [joined, String.toList_append, String.toList_append, List.append_assoc]
    rfl
  have colon : ':' ∉ Verdict.marker.toList := by decide
  -- the marker has a blank of its own, but does not begin with it
  have blank : Verdict.marker.toList <:+: ' ' :: fault.message.toList ↔
      Verdict.marker.toList <:+: fault.message.toList := by
    rw [List.infix_cons_iff]
    refine or_iff_right ?_
    intro starts
    have first : Verdict.marker.toList.head? = some 'T' := by decide
    rcases List.prefix_cons_iff.mp starts with empty | ⟨rest, same, _⟩
    · rw [empty] at first
      cases first
    · rw [same] at first
      cases first
  rw [parts, Text.infix_append_cons_iff colon, blank]

end RunnerSettings

namespace Harness

variable {harness : Harness} {name : String} {case : TestCase} {files ready : FileTree}

/-- A test whose program cannot be started has an outcome, and passes exactly when the marker stands
in the name of the program or in a text of the system for a fault that has no name here. -/
theorem perform_of_launch_failure (settings : RunnerSettings) (system : System)
    (readies : harness.Readies name case files ready) {fault : LaunchFault}
    (failed : system settings.program (settings.commandArguments harness.writer.paths) ready =
      .error fault) :
    ∃ outcome, (harness.perform (settings.runner system) name files ()).result = .ok outcome ∧
      outcome.output = RunnerSettings.launchText settings.program fault ∧
      outcome.exitCode = none ∧
      (outcome.passed = true ↔ Verdict.marker.toList <:+: settings.program.toList ∨
        ∃ text, fault = .other text ∧ Verdict.marker.toList <:+: text.toList) := by
  have captured : (settings.run system harness.writer.paths ready).captured =
      ⟨RunnerSettings.launchText settings.program fault, none⟩ := by
    simp only [RunnerSettings.run, failed]
  refine ⟨judge (harness.catalog.fixture case)
    ⟨RunnerSettings.launchText settings.program fault, none⟩, ?_, rfl, rfl, ?_⟩
  · rw [readies.perform_eq, ← captured]
    rfl
  · rw [← LaunchFault.marker_infix_message_iff, ← RunnerSettings.marker_infix_launchText_iff]
    exact Verdict.isPassed_classify_iff _

/-- A harness with one test case. -/
def single : Harness where
  catalog := ⟨.ofEntries [("first", "SELECT 1;")], ⟨[⟨"only", ["first"], "[]", "[]"⟩]⟩⟩
  writer := ⟨⟨"fixtures"⟩, ⟨"statements.sql", "input.json", "output.json"⟩⟩

/-- The program of the default settings is not there: the test fails. -/
theorem perform_without_program :
    let system : System := fun _ _ _ => .error .notFound
    let settings : RunnerSettings := {}
    let case : TestCase := ⟨"only", ["first"], "[]", "[]"⟩
    let ready := (single.writer.write (single.catalog.fixture case) ⟨[], []⟩).files
    single.Readies "only" case ⟨[], []⟩ ready ∧
      system settings.program (settings.commandArguments single.writer.paths) ready =
        .error .notFound ∧
      ∃ outcome, (single.perform (settings.runner system) "only" ⟨[], []⟩ ()).result = .ok outcome ∧
        outcome.passed = false := by
  intro system settings case ready
  have readies : single.Readies "only" case ⟨[], []⟩ ready :=
    ⟨rfl, (FixtureWriter.writes_of_ok rfl).2⟩
  obtain ⟨outcome, performed, _, _, passes⟩ :=
    perform_of_launch_failure settings system readies rfl
  refine ⟨readies, rfl, outcome, performed, ?_⟩
  have unmarked : ¬ Verdict.marker.toList <:+: settings.program.toList := by
    rw [← Text.occursIn_iff]
    decide
  simpa [unmarked] using passes

/-- A program that is called like the marker and is not there: the test passes. -/
theorem perform_without_program_named_as_marker :
    let system : System := fun _ _ _ => .error .notFound
    let settings : RunnerSettings := { program := "Test passed!" }
    ∃ outcome, (single.perform (settings.runner system) "only" ⟨[], []⟩ ()).result = .ok outcome ∧
      outcome.passed = true := by
  exact ⟨_, rfl, rfl⟩

end Harness

end FixtureHarness
