import FixtureHarness.Proofs.Fixture.Overwriting
import FixtureHarness.Proofs.Harness.Suite
import Mathlib.Data.List.FinRange

/-! # Cases that do not depend on each other

All cases of a suite share three files. Where these can be written, and with a runner that goes by
their contents and changes no file, a case says what it would say in a suite of its own, whatever
was asked for before it; and the suite leaves the files of its last known name.
-/

namespace FixtureHarness

variable {Memory : Type}

/-- A runner whose text is an answer to the contents of the three files, and that changes no file.
What it remembers, the exit code and the records are free. -/
structure Runner.Answers (runner : Runner Memory)
    (answer : List UInt8 → List UInt8 → List UInt8 → String) : Prop where
  text : ∀ paths (files : FileTree) memory script input output,
    files.read paths.script = .ok script → files.read paths.input = .ok input →
      files.read paths.output = .ok output →
        (runner.run paths files memory).captured.text = answer script input output
  files : ∀ paths files memory, (runner.run paths files memory).files = files

/-- A case without the time that it took. -/
def CaseReport.untimed (case : CaseReport) : CaseReport :=
  { case with milliseconds := 0 }

namespace FixtureWriter

/-- The directory and the three files can be written. -/
def CanWrite (writer : FixtureWriter) (files : FileTree) : Prop :=
  ∃ fixture after, writer.Writes fixture files after

/-- What a start is as long as only fixtures are written: itself, or a fixture written on it. -/
def Reached (writer : FixtureWriter) (start files : FileTree) : Prop :=
  files = start ∨ ∃ fixture, writer.Writes fixture start files

variable {writer : FixtureWriter} {start files : FileTree}

/-- A fixture leaves the same tree on whatever was reached as on the start. -/
theorem Reached.writes (reached : writer.Reached start files) (writable : writer.CanWrite start)
    (fixture : Fixture) :
    ∃ ready, writer.Writes fixture start ready ∧ writer.Writes fixture files ready := by
  rcases reached with rfl | ⟨held, writes⟩
  · obtain ⟨some, after, writes⟩ := writable
    obtain ⟨ready, here, _⟩ := writes.overwrite fixture
    exact ⟨ready, here, here⟩
  · exact writes.overwrite fixture

end FixtureWriter

namespace Harness

/-- Whether the catalog has a test case of a name. -/
def knows (harness : Harness) (name : String) : Bool :=
  (harness.catalog.tests.find? name).isSome

/-- The case of a performed name hangs on the captured text only. -/
theorem untimed_caseReport_judge (name : String) (fixture : Fixture) {first second : Captured}
    (same : first.text = second.text) (time otherTime : Nat) :
    (caseReport name (.ok (judge fixture first)) time).untimed =
      (caseReport name (.ok (judge fixture second)) otherTime).untimed := by
  obtain ⟨text, _⟩ := first
  obtain ⟨_, _⟩ := second
  obtain rfl : text = _ := same
  rfl

variable {harness : Harness} {runner : Runner Memory}
  {answer : List UInt8 → List UInt8 → List UInt8 → String} {start files : FileTree}

/-- What performing a name on what was reached has in common with performing it on the start. -/
theorem perform_of_reached (answers : runner.Answers answer)
    (writable : harness.writer.CanWrite start) (reached : harness.writer.Reached start files)
    (name : String) (memory other : Memory) (time otherTime : Nat) :
    let here := harness.perform runner name files memory
    let alone := harness.perform runner name start other
    (caseReport name here.result time).untimed =
        (caseReport name alone.result otherTime).untimed ∧
      here.files = (if harness.knows name then alone.files else files) ∧
      harness.writer.Reached start here.files := by
  intro here alone
  cases known : harness.catalog.tests.find? name with
  | none =>
    simp only [here, alone, perform_of_unknown known, knows, known, Option.isSome_none,
      Bool.false_eq_true, if_false]
    exact ⟨rfl, trivial, reached⟩
  | some case =>
    obtain ⟨ready, onStart, onFiles⟩ := reached.writes writable (harness.catalog.fixture case)
    obtain ⟨output, input, script⟩ := onStart.hold
    have readiesHere : harness.Readies name case files ready := ⟨known, onFiles⟩
    have readiesAlone : harness.Readies name case start ready := ⟨known, onStart⟩
    have text (held : Memory) := answers.text harness.writer.paths ready held _ _ _ script input output
    simp only [here, alone, readiesHere.perform_eq, readiesAlone.perform_eq, answers.files, knows,
      known, Option.isSome_some, if_true]
    exact ⟨untimed_caseReport_judge name _ ((text memory).trans (text other).symm) time otherTime,
      trivial, .inr ⟨_, onStart⟩⟩

/-- A run on what was reached, in terms of each of its names on the start. -/
theorem runCases_of_reached (answers : runner.Answers answer)
    (writable : harness.writer.CanWrite start) (clock : Clock) (reading : Nat)
    (names : List String) (reached : harness.writer.Reached start files) (memory other : Memory) :
    let run := harness.runCases runner clock reading names files memory
    let alone (name : String) := harness.perform runner name start other
    run.cases.map (·.untimed) =
        names.map (fun name => (caseReport name (alone name).result 0).untimed) ∧
      run.files =
        match (names.filter harness.knows).getLast? with
        | some last => (alone last).files
        | none => files := by
  induction names generalizing reading files memory with
  | nil => exact ⟨rfl, rfl⟩
  | cons name rest ih =>
    obtain ⟨case, left, reachedNext⟩ := perform_of_reached answers writable reached name memory other
      ((clock reading).elapsed (clock (reading + 1))) 0
    obtain ⟨cases, filesAfter⟩ := ih (reading + 2) reachedNext
      (harness.perform runner name files memory).memory
    refine ⟨?_, ?_⟩
    · simp only [runCases, List.map_cons, cases, case]
    · rw [runCases]
      refine filesAfter.trans ?_
      rw [left]
      cases known : harness.knows name with
      | false =>
        rw [List.filter_cons_of_neg (by simp [known])]
        rfl
      | true =>
        rw [List.filter_cons_of_pos known, List.getLast?_cons]
        cases (rest.filter harness.knows).getLast? <;> rfl

end Harness

namespace Summary

variable {cases others : List CaseReport}

/-- The numbers of cases do not hang on times or on the order. -/
theorem ofCases_eq_of_perm (same : (cases.map (·.untimed)).Perm (others.map (·.untimed))) :
    ofCases cases = ofCases others := by
  have counted (status : CaseStatus) :
      cases.countP (fun case => case.status = status) =
        others.countP fun case => case.status = status := by
    have untimed := same.countP_eq fun case : CaseReport => case.status = status
    rw [List.countP_map, List.countP_map] at untimed
    exact untimed
  have length : cases.length = others.length := by simpa using same.length_eq
  simp only [ofCases, counted, length]

end Summary

namespace Harness

variable {harness : Harness} {runner : Runner Memory}
  {answer : List UInt8 → List UInt8 → List UInt8 → String} {start : FileTree}

theorem untimed_caseReport (name : String) (result : Except Failure Outcome) (time other : Nat) :
    (caseReport name result time).untimed = (caseReport name result other).untimed := by
  cases result <;> rfl

/-- The cases of a suite but for their times, each from its name alone. -/
theorem runSuite_untimed (answers : runner.Answers answer)
    (writable : harness.writer.CanWrite start) (clock : Clock) (names : List String)
    (memory other : Memory) :
    (harness.runSuite runner clock names start memory).cases.map (·.untimed) =
      names.map fun name =>
        (caseReport name (harness.perform runner name start other).result 0).untimed :=
  (runCases_of_reached answers writable clock 1 names (.inl rfl) memory other).1

/-- A case of a suite and the case of its name alone differ at most in their times. -/
theorem runSuite_case_alone (answers : runner.Answers answer)
    (writable : harness.writer.CanWrite start) (clock otherClock : Clock) {names : List String}
    {name : String} {position : Nat} (named : names[position]? = some name)
    (memory other : Memory) :
    ∃ case alone,
      (harness.runSuite runner clock names start memory).cases[position]? = some case ∧
        (harness.runSuite runner otherClock [name] start other).cases = [alone] ∧
        case.untimed = alone.untimed := by
  have there := congrArg (·[position]?)
    (runSuite_untimed answers writable clock names memory other)
  simp only [List.getElem?_map, named, Option.map_some, Option.map_eq_some_iff] at there
  obtain ⟨case, held, same⟩ := there
  exact ⟨case, _, held, rfl, same.trans (untimed_caseReport ..)⟩

/-- With a runner that goes by the contents of the three files, and where these can be written, every
case of a suite is, but for its time, the only case of the suite of its name. So another order of the
names is the same order of the cases with the same summary; and the suite leaves the files that its
last known name leaves on its own. Neither the clocks nor what the runner remembers matter. -/
theorem runSuite_independent (answers : runner.Answers answer)
    (writable : harness.writer.CanWrite start) (clock : Clock) (names : List String)
    (memory : Memory) :
    let run := harness.runSuite runner clock names start memory
    run.cases.length = names.length ∧
      (∀ (position : Fin names.length) (otherClock : Clock) (other : Memory),
        ∃ case alone, run.cases[position.val]? = some case ∧
          (harness.runSuite runner otherClock [names.get position] start other).cases = [alone] ∧
          case.untimed = alone.untimed) ∧
      (∀ (order : Equiv.Perm (Fin names.length)) (otherClock : Clock) (other : Memory),
        let permuted := harness.runSuite runner otherClock
          (List.ofFn fun position => names.get (order position)) start other
        (∀ position : Fin names.length, ∃ case moved,
          run.cases[(order position).val]? = some case ∧
            permuted.cases[position.val]? = some moved ∧ moved.untimed = case.untimed) ∧
          ∀ suite, (report otherClock suite permuted).summary = (report clock suite run).summary) ∧
      ∀ (otherClock : Clock) (other : Memory),
        run.files =
          match (names.filter harness.knows).getLast? with
          | some last => (harness.runSuite runner otherClock [last] start other).files
          | none => start := by
  intro run
  refine ⟨runCases_cases_length .., ?_, ?_, ?_⟩
  · intro position otherClock other
    exact runSuite_case_alone answers writable clock otherClock
      (List.getElem?_eq_getElem position.isLt) memory other
  · intro order otherClock other permuted
    refine ⟨fun position => ?_, fun suite => ?_⟩
    · have moved : (List.ofFn fun position => names.get (order position))[position.val]? =
          some (names.get (order position)) := by
        rw [List.getElem?_ofFn, dif_pos position.isLt]
      obtain ⟨there, alone, held, only, same⟩ :=
        runSuite_case_alone answers writable otherClock otherClock moved other other
      obtain ⟨case, again, heldHere, onlyHere, sameHere⟩ :=
        runSuite_case_alone answers writable clock otherClock
          (List.getElem?_eq_getElem (order position).isLt) memory other
      obtain rfl := List.singleton_inj.mp (only.symm.trans onlyHere)
      exact ⟨case, there, heldHere, held, same.trans sameHere.symm⟩
    · apply Summary.ofCases_eq_of_perm
      rw [runSuite_untimed answers writable otherClock _ other other,
        runSuite_untimed answers writable clock names memory other]
      have names_perm := order.ofFn_comp_perm names.get
      rw [List.ofFn_get] at names_perm
      exact names_perm.map _
  · intro otherClock other
    exact (runCases_of_reached answers writable clock 1 names (.inl rfl) memory other).2

/-- A harness with two test cases, whose input and output go to one file. -/
def shared : Harness where
  catalog := ⟨.ofEntries [("first", "SELECT 1;")],
    ⟨[⟨"short", ["first"], "[]", "[]"⟩, ⟨"long", ["first", "first"], "[1]", "[1, 2]"⟩]⟩⟩
  writer := ⟨⟨"fixtures"⟩, ⟨"statements.sql", "data.json", "data.json"⟩⟩

/-- The answer of a runner that passes exactly the empty dataset. -/
def emptyAnswer (_ _ output : List UInt8) : String :=
  if output = Utf8.bytesOf "[]" then "Test passed!" else "not empty"

/-- A runner that gives this answer, counts its calls and exits with their number. -/
def counting : Runner Nat where
  run paths files count :=
    let text := match files.read paths.output with
      | .ok output => emptyAnswer [] [] output
      | .error _ => "unreadable"
    ⟨⟨text, some count⟩, files, count + 1, []⟩

/-- A repeated and an unknown name among others, in an empty tree. -/
theorem runSuite_shared_independent :
    let names := ["short", "ghost", "long", "short", "nobody"]
    let run := shared.runSuite counting (fun _ => ⟨0⟩) names ⟨[], []⟩ 0
    let alone := shared.runSuite counting (fun _ => ⟨7⟩) ["short"] ⟨[], []⟩ 5
    counting.Answers emptyAnswer ∧ shared.writer.CanWrite ⟨[], []⟩ ∧
      (∃ case own, run.cases[3]? = some case ∧ alone.cases = [own] ∧ case.untimed = own.untimed) ∧
      run.files = alone.files := by
  intro names run alone
  have answers : counting.Answers emptyAnswer := by
    refine ⟨?_, fun _ _ _ => rfl⟩
    intro paths files memory script input output _ _ held
    simp only [counting, held]
    rfl
  have writable : shared.writer.CanWrite ⟨[], []⟩ :=
    ⟨shared.catalog.fixture ⟨"short", ["first"], "[]", "[]"⟩, _, (FixtureWriter.writes_of_ok rfl).2⟩
  obtain ⟨_, cases, _, files⟩ :=
    runSuite_independent answers writable (fun _ => ⟨0⟩) names 0
  exact ⟨answers, writable, cases ⟨3, by decide⟩ _ _, files _ _⟩

end Harness

end FixtureHarness
