import FixtureHarness.Proofs.Harness.Performing

/-! # What a suite does name by name

A suite over two lists of names is the suite over the first and then, on what that leaves, the suite
over the second. So what happens at a position is decided by the name there and by what the suite
over the names before leaves: its files and the memory of the runner.
-/

namespace FixtureHarness.Harness

variable {Memory : Type}

/-- The calls of the runner in a run over names, from a reading of the clock on. -/
def callsFrom (harness : Harness) (runner : Runner Memory) (clock : Clock) (reading : Nat)
    (names : List String) (files : FileTree) (memory : Memory) : List RunnerCall :=
  (harness.runCases runner.recorded clock reading names files (memory, [])).memory.2

/-- The calls of the runner in a suite, in order, as the runner itself sees them. -/
def calls (harness : Harness) (runner : Runner Memory) (clock : Clock) (names : List String)
    (files : FileTree) (memory : Memory) : List RunnerCall :=
  (harness.runSuite runner.recorded clock names files (memory, [])).memory.2

variable (harness : Harness) (runner : Runner Memory) (clock : Clock) (reading : Nat)
  (files : FileTree) (memory : Memory)

theorem runCases_append (first second : List String) :
    let before := harness.runCases runner clock reading first files memory
    let after := harness.runCases runner clock (reading + 2 * first.length) second before.files
      before.memory
    harness.runCases runner clock reading (first ++ second) files memory =
      ⟨before.cases ++ after.cases, after.files, after.memory, before.log ++ after.log⟩ := by
  induction first generalizing reading files memory with
  | nil => rfl
  | cons name rest ih =>
    have later : reading + 2 * (name :: rest).length = reading + 2 + 2 * rest.length := by
      simp only [List.length_cons]
      omega
    simp only [List.cons_append, runCases, ih, later, List.append_assoc]

theorem runCases_cases_length (names : List String) :
    (harness.runCases runner clock reading names files memory).cases.length = names.length := by
  induction names generalizing reading files memory with
  | nil => rfl
  | cons name rest ih => simp only [runCases, List.length_cons, ih]

/-- Keeping the calls changes nothing else in a whole run. -/
theorem runCases_recorded (names : List String) (calls : List RunnerCall) :
    let run := harness.runCases runner clock reading names files memory
    harness.runCases runner.recorded clock reading names files (memory, calls) =
      { cases := run.cases
        files := run.files
        memory := (run.memory, calls ++ harness.callsFrom runner clock reading names files memory)
        log := run.log } := by
  induction names generalizing reading files memory calls with
  | nil => simp only [callsFrom, runCases, List.append_nil]
  | cons name rest ih =>
    simp only [runCases, perform_recorded, callsFrom, List.nil_append]
    simp only [ih, List.append_assoc]

/-- Names that no test case has change nothing and call no runner. -/
theorem runCases_of_unknown {names : List String}
    (unknown : ∀ name ∈ names, harness.catalog.tests.find? name = none) :
    let run := harness.runCases runner clock reading names files memory
    run.files = files ∧ run.memory = memory := by
  induction names generalizing reading with
  | nil => exact ⟨rfl, rfl⟩
  | cons name rest ih =>
    rw [List.forall_mem_cons] at unknown
    simp only [runCases, perform_of_unknown unknown.1]
    exact ih (reading + 2) unknown.2

/-- The calls of a suite are those of the suite itself: making the runner keep them changes nothing
that the suite does. -/
theorem runSuite_recorded (names : List String) :
    let run := harness.runSuite runner clock names files memory
    harness.runSuite runner.recorded clock names files (memory, []) =
      { cases := run.cases
        files := run.files
        memory := (run.memory, harness.calls runner clock names files memory)
        log := run.log } := by
  intro run
  rw [runSuite, runCases_recorded, List.nil_append]
  rfl

theorem callsFrom_cons (name : String) (rest : List String) :
    let performed := harness.perform runner name files memory
    harness.callsFrom runner clock reading (name :: rest) files memory =
      harness.callsOf runner name files memory ++
        harness.callsFrom runner clock (reading + 2) rest performed.files performed.memory := by
  simp only [callsFrom, runCases, perform_recorded, List.nil_append]
  simp only [runCases_recorded]
  rfl

theorem callsFrom_append (first second : List String) :
    let before := harness.runCases runner clock reading first files memory
    harness.callsFrom runner clock reading (first ++ second) files memory =
      harness.callsFrom runner clock reading first files memory ++
        harness.callsFrom runner clock (reading + 2 * first.length) second before.files
          before.memory := by
  simp only [callsFrom, runCases_append]
  simp only [runCases_recorded, List.nil_append]

theorem caseReport_status_error_iff (name : String) (result : Except Failure Outcome)
    (milliseconds : Nat) :
    (caseReport name result milliseconds).status = .error ↔ ∃ cause, result = .error cause := by
  cases result with
  | error cause => simp [caseReport, CaseReport.ofFailure]
  | ok outcome => cases passed : outcome.passed <;> simp [caseReport, CaseReport.ofOutcome, passed]

/-- The runner is called once for every case that is not an error. -/
theorem callsFrom_length (names : List String) :
    (harness.callsFrom runner clock reading names files memory).length =
      (harness.runCases runner clock reading names files memory).cases.countP
        fun case => case.status ≠ .error := by
  induction names generalizing reading files memory with
  | nil => rfl
  | cons name rest ih =>
    have step := harness.perform_step runner name files memory
    simp only [callsFrom_cons, List.length_append, ih, runCases, List.countP_cons, ne_eq,
      decide_not, caseReport_status_error_iff]
    rw [Nat.add_comm]
    congr 1
    generalize (harness.perform runner name files memory).result = result at step ⊢
    generalize harness.callsOf runner name files memory = made at step ⊢
    cases step with
    | refused _ => simp [caseReport_status_error_iff]
    | ran _ _ => simp [caseReport_status_error_iff]

/-! ## Positions -/

/-- The case of a name behind others is made from what the suite over those leaves. -/
theorem runSuite_case (first rest : List String) (name : String) :
    let before := harness.runSuite runner clock first files memory
    let performed := harness.perform runner name before.files before.memory
    ∃ milliseconds, (harness.runSuite runner clock (first ++ name :: rest) files memory).cases[
      first.length]? = some (caseReport name performed.result milliseconds) := by
  intro before performed
  have counted : before.cases.length = first.length := runCases_cases_length ..
  have cases : (harness.runSuite runner clock (first ++ name :: rest) files memory).cases =
      before.cases ++ (harness.runCases runner clock (1 + 2 * first.length) (name :: rest)
        before.files before.memory).cases := by
    rw [runSuite, runCases_append]
    rfl
  rw [cases, List.getElem?_append_right (Nat.le_of_eq counted), counted, Nat.sub_self]
  exact ⟨_, rfl⟩

/-- One name more adds the calls of that name. -/
theorem calls_concat (first : List String) (name : String) :
    let before := harness.runSuite runner clock first files memory
    harness.calls runner clock (first ++ [name]) files memory =
      harness.calls runner clock first files memory ++
        harness.callsOf runner name before.files before.memory := by
  have made := harness.callsFrom_append runner clock 1 files memory first [name]
  simp only [callsFrom_cons] at made
  simp only [callsFrom, runCases, List.append_nil] at made
  exact made

theorem take_append_get_cons {names : List String} (position : Fin names.length) :
    names.take position ++ names.get position :: names.drop (position + 1) = names := by
  rw [List.get_eq_getElem, List.getElem_cons_drop, List.take_append_drop]

/-- What a suite reports at a position, and the calls that it makes there. -/
theorem runSuite_at {names : List String} (position : Fin names.length) :
    let before := harness.runSuite runner clock (names.take position) files memory
    let performed := harness.perform runner (names.get position) before.files before.memory
    (∃ milliseconds, (harness.runSuite runner clock names files memory).cases[position.val]? =
        some (caseReport (names.get position) performed.result milliseconds)) ∧
      harness.calls runner clock (names.take (position + 1)) files memory =
        harness.calls runner clock (names.take position) files memory ++
          harness.callsOf runner (names.get position) before.files before.memory := by
  have longer : names.take (position + 1) = names.take position ++ [names.get position] :=
    List.take_succ_eq_append_getElem position.isLt
  constructor
  · have there := harness.runSuite_case runner clock files memory (names.take position)
      (names.drop (position + 1)) (names.get position)
    rwa [take_append_get_cons, List.length_take_of_le (Nat.le_of_lt position.isLt)] at there
  · rw [longer]
    exact harness.calls_concat runner clock files memory (names.take position) (names.get position)

end FixtureHarness.Harness
