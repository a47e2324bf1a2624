import FixtureHarness.Proofs.Harness.Fates
import FixtureHarness.Proofs.Text.Occurrence

/-! # The log of a suite, block by block

A suite leaves one block of records for each name, in order. What the records of a block say, and at
which levels, is settled by what became of the name. So the last record of a block tells the status
of its case, and the record that announces a run stands in it exactly if the runner was called.
-/

namespace FixtureHarness.Harness

variable {Memory : Type} {harness : Harness} {runner : Runner Memory} {name : String}
  {files : FileTree} {memory : Memory}

/-! ## What a block says -/

/-- The level and the text of a record. -/
def said (told : Log.Record) : Log.Level × String :=
  (told.level, told.text)

/-- An exit code as the record of a failed test shows it. -/
def exitText : Option Int → String
  | some code => s!"Some({code})"
  | none => "None"

/-- What is said of a name first. -/
def resolvingSaid (name : String) : Log.Level × String :=
  (.info, s!"Parsing transformer test-data for '{name}'...")

/-- What is said of a name that could not be executed. -/
def failureSaid (name message : String) : Log.Level × String :=
  (.error, s!"Test '{name}' could not be executed: {message}")

/-- What is said when the runner is about to be called. -/
def performingSaid (name : String) : Log.Level × String :=
  (.info, s!"Performing test-execution for '{name}'...")

/-- What is said of a test that passed. -/
def passedSaid (name : String) : Log.Level × String :=
  (.info, s!"Test '{name}' passed")

/-- What is said of a test that failed. -/
def failedSaid (name : String) (exitCode : Option Int) : Log.Level × String :=
  (.info, s!"Test '{name}' failed (exit code: {exitText exitCode})")

/-- What is said at the end of a run. -/
def verdictSaid (name : String) (captured : Captured) : Log.Level × String :=
  if (Verdict.classify captured.text).isPassed then passedSaid name
  else failedSaid name captured.exitCode

/-- What is said of a known name up to the announcement of its files. -/
def preparationSaid (harness : Harness) (name : String) (record : TestCase) :
    List (Log.Level × String) :=
  let names := harness.writer.names
  resolvingSaid name ::
    (.debug, s!"Parsing query-string from {record.queries.length} fragments...") ::
      ((record.queries.filter fun query => (harness.catalog.queries.get? query).isNone).map
        fun query =>
          (.warn, s!"Test case '{name}' references unknown query '{query}'; it contributes nothing")) ++
      [(.info, s!"Updating test files ({names.statements}, {names.input}, {names.output})")]

/-- What is said of files whose writing is begun. -/
def writingSaid (paths : List Path) : List (Log.Level × String) :=
  paths.map fun path => (.debug, s!"Writing test data into file {path.text}")

/-- What is said of a name that something became of. -/
def blockSaid (harness : Harness) (name : String) : Fate → List (Log.Level × String)
  | .unknown => [resolvingSaid name, failureSaid name (Failure.unknownTestCase name).message]
  | .unwritten record begun cause =>
    harness.preparationSaid name record ++ writingSaid (begun.map (·.1)) ++
      [failureSaid name cause.message]
  | .ran record captured =>
    let names := harness.writer.names
    let paths := [names.statements, names.input, names.output].map fun file =>
      harness.writer.directory.join ⟨file⟩
    harness.preparationSaid name record ++ writingSaid paths ++
      [performingSaid name, (.debug, "Verifying test status..."), verdictSaid name captured]

theorem preparation_said (harness : Harness) (name : String) (record : TestCase) :
    (harness.preparation name record).map said = harness.preparationSaid name record := by
  simp only [preparation, preparationSaid, List.map_cons, List.map_append, List.map_map]
  rfl

theorem writingLog_said (pages : List (Path × String)) :
    (FixtureWriter.writingLog pages).map said = writingSaid (pages.map (·.1)) := by
  simp only [FixtureWriter.writingLog, writingSaid, List.map_map]
  rfl

theorem verdictRecord_said (name : String) (captured : Captured) :
    said (verdictRecord name captured) = verdictSaid name captured := by
  have exit : Log.Record.exitCodeText captured.exitCode = exitText captured.exitCode := by
    cases captured.exitCode <;> rfl
  rw [verdictRecord, verdictSaid]
  split
  · rfl
  · rw [failedSaid, ← exit]
    rfl

/-- The records of a block say what is to be said of what became of its name. -/
theorem block_said (harness : Harness) (name : String) (fate : Fate) :
    (harness.block name fate).map said = harness.blockSaid name fate := by
  cases fate with
  | unknown => rfl
  | unwritten record begun cause =>
    simp only [block, blockSaid, List.map_append, preparation_said, writingLog_said]
    rfl
  | ran record captured =>
    simp only [block, blockSaid, List.map_append, preparation_said, writingLog_said,
      ← verdictRecord_said]
    rfl

/-! ## Texts that differ -/

theorem passedSaid_ne_failedSaid (name : String) (exitCode : Option Int) :
    passedSaid name ≠ failedSaid name exitCode := by
  intro same
  have texts := congrArg Prod.snd same
  simp only [passedSaid, failedSaid, String.append_assoc, String.append_right_inj] at texts
  exact @Text.append_ne_append "' passed" "' failed (exit code: " (by decide) (by decide) "" _ texts

/-- What begins in another way does not announce a run. -/
theorem ne_performingSaid {head : String} (level : Log.Level) (name rest : String)
    (apart : ¬ head.toList <+: "Performing test-execution for '".toList)
    (apart' : ¬ "Performing test-execution for '".toList <+: head.toList) :
    (level, head ++ rest) ≠ performingSaid name := by
  intro same
  have texts := congrArg Prod.snd same
  simp only [performingSaid, String.append_assoc] at texts
  exact Text.append_ne_append apart apart' _ _ texts

/-! ## The ends of blocks, and the calls -/

/-- A block ends with what is said of its status. -/
structure EndsLike (block : List (Log.Level × String)) (name : String) (status : CaseStatus) :
    Prop where
  error : status = .error ↔ ∃ text, block.getLast? = some (.error, text)
  passed : status = .passed ↔ block.getLast? = some (passedSaid name)
  failed : status = .failed ↔ ∃ exitCode, block.getLast? = some (failedSaid name exitCode)

theorem block_endsLike (harness : Harness) (name : String) (fate : Fate) (milliseconds : Nat) :
    EndsLike (harness.blockSaid name fate) name
      (caseReport name (harness.resultOf name fate) milliseconds).status := by
  have failure (front : List (Log.Level × String)) (cause : Failure) :
      EndsLike (front ++ [failureSaid name cause.message]) name
        (caseReport name (.error cause) milliseconds).status := by
    constructor
    all_goals simp [caseReport, CaseReport.ofFailure, failureSaid, passedSaid, failedSaid]
  cases fate with
  | unknown => exact failure [_] (.unknownTestCase name)
  | unwritten record begun cause => exact failure _ cause
  | ran record captured =>
    have last : (harness.blockSaid name (.ran record captured)).getLast? =
        some (verdictSaid name captured) := by
      rw [blockSaid, List.getLast?_append]
      rfl
    have differ := passedSaid_ne_failedSaid name
    have info (text : String) : passedSaid name ≠ (.error, text) := by simp [passedSaid]
    have info' (exitCode : Option Int) (text : String) : failedSaid name exitCode ≠ (.error, text) := by
      simp [failedSaid]
    cases passed : (Verdict.classify captured.text).isPassed
    all_goals
      constructor
      all_goals
        rw [last]
        simp [verdictSaid, passed, differ, (differ _).symm, info, info', caseReport, resultOf, judge,
          CaseReport.ofOutcome]

theorem resolvingSaid_ne_performingSaid (name : String) :
    resolvingSaid name ≠ performingSaid name := by
  rw [resolvingSaid, String.append_assoc]
  exact ne_performingSaid _ _ _ (by decide) (by decide)

/-- What is said before a run does not announce it. -/
theorem performingSaid_not_mem_begun (harness : Harness) (name : String) (record : TestCase)
    (begun : List Path) :
    performingSaid name ∉ harness.preparationSaid name record ++ writingSaid begun := by
  intro member
  simp only [preparationSaid, writingSaid, List.mem_append, List.mem_cons, List.mem_map,
    List.not_mem_nil, or_false] at member
  rcases member with ((resolving | composing | unknown) | updating) | writing
  · exact resolvingSaid_ne_performingSaid name resolving.symm
  · simp [performingSaid] at composing
  · simp [performingSaid] at unknown
  · simp only [String.append_assoc] at updating
    exact ne_performingSaid _ _ _ (by decide) (by decide) updating.symm
  · simp [performingSaid] at writing

theorem verdictSaid_ne_performingSaid (name : String) (captured : Captured) :
    verdictSaid name captured ≠ performingSaid name := by
  rw [verdictSaid]
  split_ifs
  · rw [passedSaid, String.append_assoc]
    exact ne_performingSaid _ _ _ (by decide) (by decide)
  · simp only [failedSaid, String.append_assoc]
    exact ne_performingSaid _ _ _ (by decide) (by decide)

/-- A block announces a run once if there was one. -/
theorem count_performing (harness : Harness) (name : String) (fate : Fate) :
    (harness.blockSaid name fate).count (performingSaid name) =
      (harness.resultOf name fate).isOk.toNat := by
  have begun (record : TestCase) (paths : List Path) :
      (harness.preparationSaid name record ++ writingSaid paths).count (performingSaid name) = 0 :=
    List.count_eq_zero.mpr (harness.performingSaid_not_mem_begun name record paths)
  have failure (message : String) : failureSaid name message ≠ performingSaid name := by
    simp [failureSaid, performingSaid]
  have verifying : (Log.Level.debug, "Verifying test status...") ≠ performingSaid name := by
    simp [performingSaid]
  cases fate with
  | unknown =>
    rw [blockSaid, List.count_cons, List.count_singleton]
    simp [resolvingSaid_ne_performingSaid, failure, resultOf, Except.isOk, Except.toBool]
  | unwritten record paths cause =>
    rw [blockSaid, List.count_append, begun, List.count_singleton]
    simp [failure, resultOf, Except.isOk, Except.toBool]
  | ran record captured =>
    rw [blockSaid, List.count_append, begun, List.count_cons_self, List.count_cons,
      List.count_singleton]
    simp [verdictSaid_ne_performingSaid, verifying, resultOf, Except.isOk, Except.toBool]

theorem Step.calls_length {result : Except Failure Outcome} {made : List RunnerCall}
    (step : harness.Step runner name files memory result made) :
    made.length = result.isOk.toNat := by
  cases step with
  | refused _ => rfl
  | ran _ _ => rfl

/-! ## All blocks -/

/-- A name behind others adds its records to theirs. -/
theorem runSuite_log_concat (harness : Harness) (runner : Runner Memory) (clock : Clock)
    (first : List String) (name : String) (files : FileTree) (memory : Memory) :
    let before := harness.runSuite runner clock first files memory
    let performed := harness.perform runner name before.files before.memory
    (harness.runSuite runner clock (first ++ [name]) files memory).log =
      before.log ++ (performed.log ++ caseLog name performed.result) := by
  intro before performed
  rw [runSuite, runCases_append]
  simp only [runCases, List.append_nil]
  rfl

/-- The log of a suite consists of the blocks of what became of its names. -/
theorem exists_fates (harness : Harness) (silent : runner.Silent) (clock : Clock)
    (names : List String) (files : FileTree) (memory : Memory) :
    ∃ fates : List Fate, fates.length = names.length ∧
      (harness.runSuite runner clock names files memory).log =
        (List.zipWith harness.block names fates).flatten ∧
      ∀ position name, names[position]? = some name →
        let before := harness.runSuite runner clock (names.take position) files memory
        ∃ fate, fates[position]? = some fate ∧
          harness.Befalls runner name before.files before.memory fate := by
  -- From the end of the list: what becomes of a name is settled by all names before it.
  induction names using List.reverseRecOn with
  | nil => exact ⟨[], rfl, rfl, by simp⟩
  | append_singleton first last ih =>
    obtain ⟨fates, counted, log, each⟩ := ih
    obtain ⟨fate, befalls⟩ := harness.exists_fate runner last
      (harness.runSuite runner clock first files memory).files
      (harness.runSuite runner clock first files memory).memory
    refine ⟨fates ++ [fate], by simp [counted], ?_, ?_⟩
    · rw [runSuite_log_concat, befalls.perform_log silent, log, List.zipWith_append counted.symm,
        List.flatten_append]
      simp
    · intro position name named before
      rcases Nat.lt_or_ge position first.length with inside | outside
      · rw [List.getElem?_append_left inside] at named
        obtain ⟨own, there, befell⟩ := each position name named
        have same : (first ++ [last]).take position = first.take position :=
          List.take_append_of_le_length (Nat.le_of_lt inside)
        refine ⟨own, ?_, ?_⟩
        · rwa [List.getElem?_append_left (by omega)]
        · simpa only [before, same] using befell
      · rw [List.getElem?_append_right outside, List.getElem?_singleton] at named
        split_ifs at named with none
        obtain rfl := Option.some.inj named
        obtain rfl : position = first.length := by omega
        refine ⟨fate, ?_, ?_⟩
        · rw [List.getElem?_append_right (by omega), counted, Nat.sub_self]
          rfl
        · simpa only [before, List.take_left] using befalls

/-- The log of a suite whose runner is silent consists of one block for each name, in order. What
the block at a position is, and what it says at which levels, follows from what becomes of the name
there on what the names before leave. It ends in what is said of the status of the case at that
position, and it announces a run exactly as often as the runner is called for that name: once or not
at all. -/
theorem runSuite_log_blocks (silent : runner.Silent) (harness : Harness) (clock : Clock)
    (suite : String) (names : List String) (files : FileTree) (memory : Memory) :
    let run := harness.runSuite runner clock names files memory
    let report := Harness.report clock suite run
    let calls (count : Nat) := harness.calls runner clock (names.take count) files memory
    ∃ fates : List Fate, fates.length = names.length ∧
      run.log = (List.zipWith harness.block names fates).flatten ∧
      run.log.map said = (List.zipWith harness.blockSaid names fates).flatten ∧
      ∀ position : Fin names.length,
        let name := names.get position
        let before := harness.runSuite runner clock (names.take position) files memory
        ∃ fate case made, fates[position.val]? = some fate ∧
          harness.Befalls runner name before.files before.memory fate ∧
          report.cases[position.val]? = some case ∧
          EndsLike (harness.blockSaid name fate) name case.status ∧
          calls (position + 1) = calls position ++ made ∧
          (harness.blockSaid name fate).count (performingSaid name) = made.length := by
  intro run report calls
  obtain ⟨fates, counted, log, each⟩ := harness.exists_fates silent clock names files memory
  have texts : run.log.map said = (List.zipWith harness.blockSaid names fates).flatten := by
    rw [log, List.map_flatten, List.map_zipWith]
    simp only [block_said]
  refine ⟨fates, counted, log, texts, fun position => ?_⟩
  intro name before
  obtain ⟨fate, there, befalls⟩ := each position name (List.getElem?_eq_getElem position.isLt)
  obtain ⟨⟨milliseconds, held⟩, grown⟩ := harness.runSuite_at runner clock files memory position
  have step := harness.perform_step runner name before.files before.memory
  rw [befalls.perform_result] at step held
  refine ⟨fate, _, _, there, befalls, held, harness.block_endsLike name fate milliseconds, grown, ?_⟩
  rw [harness.count_performing name fate]
  exact step.calls_length.symm

/-- A harness with one test case that refers to a fragment that is not there. -/
def lacking : Harness where
  catalog := ⟨.ofEntries [("first", "SELECT 1;")], ⟨[⟨"short", ["first", "gone"], "[]", "[1]"⟩]⟩⟩
  writer := ⟨⟨"fixtures"⟩, ⟨"statements.sql", "input.json", "output.json"⟩⟩

/-- A runner that passes everything, and leaves a directory in the place of the output. -/
def ruining : Runner Unit where
  run paths files _ :=
    let ruined := match files.locate paths.output with
      | .ok location => files.put location .directory
      | .error _ => files
    ⟨⟨"Test passed!", some 0⟩, ruined, (), []⟩

/-- A name that passes, one that is not there, and the first again, whose output cannot be written
then. -/
theorem runSuite_lacking_blocks :
    let names := ["short", "ghost", "short"]
    let run := lacking.runSuite ruining (fun _ => ⟨0⟩) names ⟨[], []⟩ ()
    let begun : List (Log.Level × String) :=
      [(.info, "Parsing transformer test-data for 'short'..."),
        (.debug, "Parsing query-string from 2 fragments..."),
        (.warn, "Test case 'short' references unknown query 'gone'; it contributes nothing"),
        (.info, "Updating test files (statements.sql, input.json, output.json)"),
        (.debug, "Writing test data into file fixtures/statements.sql"),
        (.debug, "Writing test data into file fixtures/input.json"),
        (.debug, "Writing test data into file fixtures/output.json")]
    ruining.Silent ∧
      run.log.map said =
        begun ++ [(.info, "Performing test-execution for 'short'..."),
            (.debug, "Verifying test status..."), (.info, "Test 'short' passed")] ++
          [(.info, "Parsing transformer test-data for 'ghost'..."),
            failureSaid "ghost" (Failure.unknownTestCase "ghost").message] ++
          begun ++
          [failureSaid "short" (Failure.fileAccess ⟨"fixtures/output.json"⟩ .isADirectory).message] ∧
      ∃ fates : List Fate, fates.length = 3 ∧
        run.log = (List.zipWith lacking.block names fates).flatten ∧
        run.log.map said = (List.zipWith lacking.blockSaid names fates).flatten := by
  intro names run begun
  have silent : ruining.Silent := fun _ _ _ => rfl
  obtain ⟨fates, counted, log, texts, _⟩ :=
    runSuite_log_blocks silent lacking (fun _ => ⟨0⟩) "transformer" names ⟨[], []⟩ ()
  exact ⟨silent, by decide +kernel, fates, counted, log, texts⟩

end FixtureHarness.Harness
