import FixtureHarness.Proofs.CommandLine.Responses
import FixtureHarness.Proofs.CommandLine.Running
import FixtureHarness.Proofs.Harness.Cases

/-! # Resolving against running

Resolving with writing goes as far as running does until the runner is called: it is refused where a
run reports an error, and else leaves the files that the runner finds. On standard error it warns of
the queries that the report of the run calls missing and announces the files that the runner is given.
Resolving without writing puts out the same.
-/

namespace FixtureHarness.CommandLine

variable {Memory : Type}

/-- The line that warns about a query that contributed nothing. -/
def warning (query : String) : String :=
  s!"warning: unknown query '{query}' contributed nothing"

/-- The lines that announce the files of a fixture. -/
def announcements (paths : FixturePaths) : List String :=
  [paths.script, paths.input, paths.output].map fun path => s!"wrote {path.text}"

/-- What resolving a name with writing left and showed agrees with a case of that name in a report,
and with the calls of the runner that were made for it. Log records aside, standard error shows
warnings and the text of the error, or the warnings about what the case calls missing and the paths of
the call. -/
structure Agrees (environment : Environment) (verbose : Bool) (catalog : Catalog) (name : String)
    (resolving : Response Memory) (case : CaseReport) (calls : List RunnerCall) : Prop where
  through : resolving.exitCode = 0 ↔ case.status ≠ .error
  refused : ∃ (told : List Notice) (missing : List String),
    told.filterMap Notice.line? = missing.map warning ∧
    ∀ text, resolving.exitCode = 1 ∧
        resolving.complaints = shownText environment verbose (told ++ [.line s!"error: {text}"]) ↔
      case.status = .error ∧ case.error? = some text
  ready : resolving.exitCode = 0 → ∃ (record : TestCase) (call : RunnerCall) (told : List Notice),
    catalog.tests.find? name = some record ∧ calls = [call] ∧ call.files = resolving.files ∧
      resolving.output =
        String.join (record.queries.filterMap catalog.queries.get?) ++ "\n" ∧
      resolving.complaints = shownText environment verbose told ∧
      told.filterMap Notice.line? = case.missing.map warning ++ announcements call.paths

variable {environment : Environment} {arguments : List String} {overrides : Overrides}
  {verbose : Bool} {name : String} {files ready : FileTree}
  {configuration : Configuration} {catalog : Catalog} {record : TestCase} {cause : Failure}

/-! ## What resolving comes to -/

theorem filterMap_line?_missingNotices (fixture : Fixture) :
    (missingNotices fixture).filterMap Notice.line? = fixture.missing.map warning := by
  rw [missingNotices, List.filterMap_map]
  exact congrFun (List.filterMap_eq_map (f := warning)) fixture.missing

/-- Without writing, a known name is warned about and put out. -/
theorem performResolve_plain (known : catalog.tests.find? name = some record)
    (configuration : Configuration) (files : FileTree) (memory : Memory) :
    performResolve configuration catalog name false files memory =
      ⟨true, (catalog.fixture record).script ++ "\n",
        noticesOf (catalog.resolve name).log ++ missingNotices (catalog.fixture record), files,
        memory⟩ := by
  simp only [performResolve, Catalog.resolve_of_known known, Bool.false_eq_true, if_false]

/-- With writing, the same is put out and told first, and then the end of the attempt is told. -/
theorem performResolve_writing (known : catalog.tests.find? name = some record)
    (configuration : Configuration) (files : FileTree) (memory : Memory) :
    let fixture := catalog.fixture record
    let written := (FixtureWriter.ofConfiguration configuration).write fixture files
    performResolve configuration catalog name true files memory =
      { succeeded := written.result.isOk
        output := fixture.script ++ "\n"
        notices := noticesOf (catalog.resolve name).log ++ missingNotices fixture ++
          noticesOf written.log ++
          match written.result with
          | .ok paths => writtenNotices paths
          | .error cause => [.line s!"error: {cause.message}"]
        files := written.files
        memory := memory } := by
  simp only [performResolve, Catalog.resolve_of_known known, if_true]
  generalize (FixtureWriter.ofConfiguration configuration).write (catalog.fixture record) files =
    written
  obtain ⟨result, after, log⟩ := written
  cases result with
  | ok paths => rfl
  | error cause => rfl

/-- With writing, the same is put out as without, and what is told goes on where that ends. -/
theorem performResolve_extends (configuration : Configuration) (catalog : Catalog) (name : String)
    (files : FileTree) (memory : Memory) :
    let plain := performResolve configuration catalog name false files memory
    let writing := performResolve configuration catalog name true files memory
    writing.output = plain.output ∧ ∃ rest, writing.notices = plain.notices ++ rest := by
  cases known : catalog.tests.find? name with
  | none =>
    rw [performResolve_of_unknown known, performResolve_of_unknown known]
    exact ⟨rfl, [], (List.append_nil _).symm⟩
  | some record =>
    rw [performResolve_plain known, performResolve_writing known]
    exact ⟨rfl, _, List.append_assoc ..⟩

/-- Without writing, no file changes. -/
theorem performResolve_files (configuration : Configuration) (catalog : Catalog) (name : String)
    (files : FileTree) (memory : Memory) :
    (performResolve configuration catalog name false files memory).files = files := by
  cases known : catalog.tests.find? name with
  | none =>
    rw [performResolve_of_unknown known]
    rfl
  | some record => rw [performResolve_plain known]

/-- A name that a run refuses is refused for the same cause. -/
theorem performResolve_of_refused
    (refused : (Harness.ofConfiguration configuration catalog).Refuses name files cause)
    (memory : Memory) :
    let completion := performResolve configuration catalog name true files memory
    completion.succeeded = false ∧ ∃ (told : List Notice) (missing : List String),
      told.filterMap Notice.line? = missing.map warning ∧
        completion.notices = told ++ [.line s!"error: {cause.message}"] := by
  cases refused with
  | unknown unknown =>
    have absent : catalog.tests.find? name = none := unknown
    rw [performResolve_of_unknown absent]
    exact ⟨rfl, _, [], filterMap_line?_noticesOf _, rfl⟩
  | @unwritten record _ known failed =>
    have found : catalog.tests.find? name = some record := known
    have unwritten : ((FixtureWriter.ofConfiguration configuration).write (catalog.fixture record)
        files).result = .error cause := failed
    rw [performResolve_writing found]
    simp only [unwritten]
    refine ⟨rfl, _, (catalog.fixture record).missing, ?_, rfl⟩
    simp only [List.filterMap_append, filterMap_line?_noticesOf, filterMap_line?_missingNotices,
      List.nil_append, List.append_nil]

/-- A name that a run gets ready leaves what the runner finds. -/
theorem performResolve_of_readies
    (readies : (Harness.ofConfiguration configuration catalog).Readies name record files ready)
    (memory : Memory) :
    let completion := performResolve configuration catalog name true files memory
    completion.succeeded = true ∧ completion.files = ready ∧
      completion.output = (catalog.fixture record).script ++ "\n" ∧
      completion.notices.filterMap Notice.line? = (catalog.fixture record).missing.map warning ++
        announcements (FixtureWriter.ofConfiguration configuration).paths := by
  have found : catalog.tests.find? name = some record := readies.1
  have writes : (FixtureWriter.ofConfiguration configuration).Writes (catalog.fixture record) files
      ready := readies.2
  obtain ⟨done, left⟩ := writes.write_eq
  rw [performResolve_writing found]
  generalize (FixtureWriter.ofConfiguration configuration).write (catalog.fixture record) files =
    written at done left
  obtain ⟨result, after, log⟩ := written
  obtain rfl : result = .ok (FixtureWriter.ofConfiguration configuration).paths := done
  refine ⟨rfl, left, rfl, ?_⟩
  simp only [List.filterMap_append, filterMap_line?_noticesOf, filterMap_line?_missingNotices,
    List.nil_append, List.append_nil]
  rfl

/-! ## Agreement -/

/-- Behind the same notices, the lines of different errors are shown differently. -/
theorem shownText_error_inj {told : List Notice} {first second : String} :
    shownText environment verbose (told ++ [.line s!"error: {first}"]) =
        shownText environment verbose (told ++ [.line s!"error: {second}"]) ↔
      first = second := by
  rw [shownText_line, shownText_line, String.append_left_inj, String.append_right_inj]
  exact String.append_right_inj ..

theorem Agrees.of_errs {resolving : Response Memory} {told : List Notice} {missing : List String}
    {case : CaseReport} (exits : resolving.exitCode = 1)
    (warned : told.filterMap Notice.line? = missing.map warning)
    (shown : resolving.complaints =
      shownText environment verbose (told ++ [.line s!"error: {cause.message}"]))
    (errs : case.Errs cause) (calls : List RunnerCall) :
    Agrees environment verbose catalog name resolving case calls where
  through := by simp [exits, errs.status]
  refused := by
    refine ⟨told, missing, warned, fun text => ?_⟩
    rw [shown, shownText_error_inj, errs.error, Option.some.injEq]
    simp only [exits, errs.status, true_and]
  ready through := absurd (exits.symm.trans through) Nat.one_ne_zero

/-- Resolving with writing agrees with the case that a run makes of the name, and with the calls of
the runner in it. -/
theorem resolve_agrees
    (asked : read environment arguments = .ok (.perform overrides verbose (.resolve name true)))
    (configured : loadConfiguration overrides files = .ok configuration)
    (loaded : (Catalog.load configuration files).result = .ok catalog)
    (runnerOf : RunnerSettings → Runner Memory) (clock : Clock) (runner : Runner Memory)
    (memory : Memory) (milliseconds : Nat) :
    let harness := Harness.ofConfiguration configuration catalog
    let case := Harness.caseReport name (harness.perform runner name files memory).result milliseconds
    Agrees environment verbose catalog name
      (runWith runnerOf clock environment arguments files memory) case
      (harness.callsOf runner name files memory) := by
  intro harness case
  obtain ⟨status, output, left, shown⟩ :=
    runWith_of_loaded asked configured loaded runnerOf clock memory
  rw [performLoaded] at status output left shown
  have step := harness.perform_step runner name files memory
  obtain ⟨_, ⟨cause, refused, errs, _⟩ | ⟨record, ready, captured, readies, _, tells, calls⟩⟩ :=
    step.caseReport_cases milliseconds
  · obtain ⟨fails, told, missing, warned, noticed⟩ := performResolve_of_refused refused memory
    have exits : (runWith runnerOf clock environment arguments files memory).exitCode = 1 := by
      rw [status, fails]
      rfl
    rw [noticed, ← List.append_assoc] at shown
    exact .of_errs exits ((filterMap_line?_behind _ told).trans warned) shown errs _
  · obtain ⟨succeeds, found, puts, lines⟩ := performResolve_of_readies readies memory
    have exits : (runWith runnerOf clock environment arguments files memory).exitCode = 0 := by
      rw [status, succeeds]
      rfl
    have marked : case.status ≠ .error := by
      rw [ne_eq, step.error_iff milliseconds]
      rintro ⟨cause, refused⟩
      exact readies.not_refuses refused
    refine ⟨iff_of_true exits marked, ⟨[], [], rfl, fun text => ?_⟩, fun _ => ?_⟩
    · simp [exits, marked]
    · refine ⟨record, _, _, readies.1, calls, ?_, ?_, shown, ?_⟩
      · rw [left, found]
      · rw [output, puts, Catalog.fixture_eq]
      · rw [filterMap_line?_behind, lines, tells.missing, Catalog.fixture_eq]
        rfl

/-- Resolving a name with writing, and running that name alone with the same overrides on the same
files, agree whatever the runner is: the name is refused with a text on standard error exactly if the
case of the run is an error with this text. Else the runner is called once, on the files that
resolving leaves and with the paths that resolving announces; resolving puts out the joined fragments
with a line break behind them, and warns of the queries that the case calls missing. Resolving without
writing puts out the same, shows the same notices up to the attempt to write, with the warnings among
them, and changes no file. -/
theorem resolve_agrees_with_run
    (asked : read environment arguments = .ok (.perform overrides verbose (.resolve name true)))
    (configured : loadConfiguration overrides files = .ok configuration)
    (loaded : (Catalog.load configuration files).result = .ok catalog)
    (runnerOf : RunnerSettings → Runner Memory) (clock : Clock) (memory : Memory) :
    let resolving := runWith runnerOf clock environment arguments files memory
    (∀ runEnvironment runArguments runVerbose format suite,
        read runEnvironment runArguments =
            .ok (.perform overrides runVerbose (.run [name] format suite)) →
          let run := (Harness.ofConfiguration configuration catalog).runSuite
            (runnerOf configuration.runner) clock [name] files memory
          let report := Harness.report clock suite run
          ∃ case, report.cases = [case] ∧ case.name = name ∧
            (runWith runnerOf clock runEnvironment runArguments files memory).output =
              report.write format ∧
            Agrees environment verbose catalog name resolving case
              (runnerCalls runnerOf clock runEnvironment runArguments files memory)) ∧
      ∀ plainEnvironment plainArguments plainVerbose,
        read plainEnvironment plainArguments =
            .ok (.perform overrides plainVerbose (.resolve name false)) →
          let plain := runWith runnerOf clock plainEnvironment plainArguments files memory
          plain.output = resolving.output ∧ plain.files = files ∧ ∃ told rest : List Notice,
            plain.complaints = shownText plainEnvironment plainVerbose told ∧
            resolving.complaints = shownText environment verbose (told ++ rest) ∧
            ∀ record, catalog.tests.find? name = some record →
              told.filterMap Notice.line? =
                (record.queries.filter fun query =>
                  (catalog.queries.get? query).isNone).map warning := by
  intro resolving
  constructor
  · intro runEnvironment runArguments runVerbose format suite askedToo run report
    obtain ⟨_, output, _⟩ := runWith_of_asked runnerOf clock memory askedToo configured loaded
    have calls := runnerCalls_of_asked runnerOf clock memory askedToo configured loaded
    have named := (Harness.perform_step (.ofConfiguration configuration catalog)
      (runnerOf configuration.runner) name files memory).caseReport_cases
        ((clock 1).elapsed (clock 2))
    refine ⟨_, rfl, named.1, output, ?_⟩
    rw [calls]
    exact resolve_agrees asked configured loaded runnerOf clock _ memory _
  · intro plainEnvironment plainArguments plainVerbose askedToo plain
    obtain ⟨_, output, _, shown⟩ := runWith_of_loaded asked configured loaded runnerOf clock memory
    obtain ⟨_, plainOutput, plainLeft, plainShown⟩ :=
      runWith_of_loaded askedToo configured loaded runnerOf clock memory
    rw [performLoaded] at output shown plainOutput plainLeft plainShown
    obtain ⟨same, rest, notices⟩ := performResolve_extends configuration catalog name files memory
    rw [notices, ← List.append_assoc] at shown
    refine ⟨?_, ?_, _, rest, plainShown, shown, fun record known => ?_⟩
    · rw [plainOutput, ← same, ← output]
    · rw [plainLeft, performResolve_files]
    · rw [performResolve_plain known]
      simp only [filterMap_line?_behind, filterMap_line?_missingNotices, Catalog.fixture_eq]

/-- A test case that is resolved with writing, and run. -/
theorem resolve_stocked_agrees :
    let environment : Environment := ⟨none, none⟩
    let overrides : Overrides := ⟨none, none, none, none⟩
    let runnerOf (settings : RunnerSettings) := settings.runner approving
    let clock : Clock := fun _ => ⟨0⟩
    let resolving := runWith runnerOf clock environment ["resolve", "t1", "--write"] stocked ()
    read environment ["resolve", "t1", "--write"] =
        .ok (.perform overrides false (.resolve "t1" true)) ∧
      read environment ["run", "t1"] =
        .ok (.perform overrides false (.run ["t1"] .text "transformer")) ∧
      resolving.exitCode = 0 ∧
      (∃ call told, runnerCalls runnerOf clock environment ["run", "t1"] stocked () = [call] ∧
        call.files = resolving.files ∧ resolving.output = "SELECT 1;\n" ∧
        resolving.complaints = shownText environment false told ∧
        told.filterMap Notice.line? = announcements call.paths) ∧
      (runWith runnerOf clock environment ["resolve", "t1"] stocked ()).output =
        resolving.output := by
  intro environment overrides runnerOf clock resolving
  have asked : read environment ["resolve", "t1", "--write"] =
      .ok (.perform overrides false (.resolve "t1" true)) := rfl
  have configured : loadConfiguration overrides stocked = .ok {} := rfl
  have loaded : (Catalog.load {} stocked).result = .ok stockedCatalog := by decide +kernel
  have exits : resolving.exitCode = 0 := by decide +kernel
  obtain ⟨runs, plain⟩ :=
    resolve_agrees_with_run asked configured loaded runnerOf clock ()
  obtain ⟨case, cases, _, _, agrees⟩ :=
    runs environment ["run", "t1"] false .text "transformer" rfl
  obtain ⟨record, call, told, known, calls, left, output, shown, lines⟩ := agrees.ready exits
  obtain rfl : (⟨"t1", ["q1"], "[]", "[]"⟩ : TestCase) = record := Option.some.inj known
  have complete : case.missing = [] := by
    have missing := congrArg (List.map CaseReport.missing) cases
    exact (List.cons.inj missing).1.symm
  rw [complete, List.map_nil, List.nil_append] at lines
  exact ⟨asked, rfl, exits, ⟨call, told, calls, left, output, shown, lines⟩,
    (plain environment ["resolve", "t1"] false rfl).1⟩

end FixtureHarness.CommandLine
