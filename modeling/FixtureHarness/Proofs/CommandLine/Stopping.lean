import FixtureHarness.Proofs.CommandLine.Responses
import FixtureHarness.Proofs.CommandLine.Running

/-! # Command lines without effect

The configuration, the query catalog, the test-case catalog and the name to resolve are looked for
in this order, and what fails first ends the program: it says so, and has put nothing out, changed
no file and started no runner. Listing, checking and resolving without writing never change a file or
start a runner, and neither does a run of unknown names.
-/

namespace FixtureHarness.CommandLine

variable {Memory : Type}

/-- The first step of a command that fails, in the order of the steps: each but the first asks that
those before it succeed. -/
inductive Stops (overrides : Overrides) (command : Command) (files : FileTree) : Failure → Prop where
  | configurationUnread {path : Path} {cause : Failure} :
      overrides.config? = some path → files.readFile path = .error cause →
      Stops overrides command files cause
  | configurationUnparsed {path : Path} {text : String} {cause : Failure} :
      overrides.config? = some path → files.readFile path = .ok text →
      Configuration.ofText? text path.text = .error cause →
      Stops overrides command files cause
  | queriesUnread {configuration : Configuration} {cause : Failure} :
      loadConfiguration overrides files = .ok configuration →
      files.readFile configuration.queriesPath = .error cause →
      Stops overrides command files cause
  | queriesUnparsed {configuration : Configuration} {text : String} {cause : Failure} :
      loadConfiguration overrides files = .ok configuration →
      files.readFile configuration.queriesPath = .ok text →
      QueryCatalog.ofText? text configuration.queriesPath.text = .error cause →
      Stops overrides command files cause
  | casesUnread {configuration : Configuration} {text : String} {queries : QueryCatalog}
      {cause : Failure} :
      loadConfiguration overrides files = .ok configuration →
      files.readFile configuration.queriesPath = .ok text →
      QueryCatalog.ofText? text configuration.queriesPath.text = .ok queries →
      files.readFile configuration.casesPath = .error cause →
      Stops overrides command files cause
  | casesUnparsed {configuration : Configuration} {text casesText : String}
      {queries : QueryCatalog} {cause : Failure} :
      loadConfiguration overrides files = .ok configuration →
      files.readFile configuration.queriesPath = .ok text →
      QueryCatalog.ofText? text configuration.queriesPath.text = .ok queries →
      files.readFile configuration.casesPath = .ok casesText →
      TestCatalog.ofText? casesText configuration.casesPath.text = .error cause →
      Stops overrides command files cause
  | unknownName {configuration : Configuration} {catalog : Catalog} {name : String}
      {write : Bool} :
      loadConfiguration overrides files = .ok configuration →
      (Catalog.load configuration files).result = .ok catalog →
      command = .resolve name write → catalog.tests.find? name = none →
      Stops overrides command files (.unknownTestCase name)

/-- A command that is not stopped: everything is loaded, and the name to resolve is known. -/
structure Proceeds (overrides : Overrides) (command : Command) (files : FileTree)
    (configuration : Configuration) (catalog : Catalog) : Prop where
  configured : loadConfiguration overrides files = .ok configuration
  loaded : (Catalog.load configuration files).result = .ok catalog
  known : ∀ name write, command = .resolve name write → (catalog.tests.find? name).isSome

variable {environment : Environment} {arguments : List String} {overrides : Overrides}
  {verbose : Bool} {command : Command} {files : FileTree} {configuration : Configuration}
  {catalog : Catalog} {cause : Failure}

/-! ## The steps -/

theorem bind_eq_error_iff {Cause Result Final : Type} {first : Except Cause Result}
    {next : Result → Except Cause Final} {cause : Cause} :
    (first >>= next) = .error cause ↔
      first = .error cause ∨ ∃ result, first = .ok result ∧ next result = .error cause := by
  cases first with
  | error cause => simp [bind, Except.bind]
  | ok result => simp [bind, Except.bind]

theorem loadConfiguration_eq_error_iff :
    loadConfiguration overrides files = .error cause ↔
      ∃ path, overrides.config? = some path ∧
        (files.readFile path = .error cause ∨
          ∃ text, files.readFile path = .ok text ∧
            Configuration.ofText? text path.text = .error cause) := by
  cases given : overrides.config? with
  | none => simp [loadConfiguration, given]
  | some path =>
    have same : loadConfiguration overrides files = .error cause ↔
        Configuration.load files path = .error cause := by
      simp only [loadConfiguration, given]
      cases Configuration.load files path with
      | error other => simp [Except.map]
      | ok configuration => simp [Except.map]
    simp only [same, Configuration.load, bind_eq_error_iff, Option.some.injEq, reduceCtorEq,
      and_false, exists_false, or_false, exists_eq_left']

theorem load_eq_error_iff :
    (Catalog.load configuration files).result = .error cause ↔
      files.readFile configuration.queriesPath = .error cause ∨
        ∃ text, files.readFile configuration.queriesPath = .ok text ∧
          (QueryCatalog.ofText? text configuration.queriesPath.text = .error cause ∨
            ∃ queries, QueryCatalog.ofText? text configuration.queriesPath.text = .ok queries ∧
              (files.readFile configuration.casesPath = .error cause ∨
                ∃ casesText, files.readFile configuration.casesPath = .ok casesText ∧
                  TestCatalog.ofText? casesText configuration.casesPath.text =
                    .error cause)) := by
  have same : (Catalog.load configuration files).result = .error cause ↔
      Catalog.read configuration files = .error cause := by
    unfold Catalog.load
    cases Catalog.read configuration files with
    | error other => simp
    | ok catalog => simp
  simp only [same, Catalog.read, bind_eq_error_iff, reduceCtorEq, and_false, exists_false, or_false]

/-- What stops a command is a failure to load the configuration, else a failure to load the
catalogs, else a name to resolve that is not there. -/
theorem stops_iff :
    Stops overrides command files cause ↔
      loadConfiguration overrides files = .error cause ∨
        ∃ configuration, loadConfiguration overrides files = .ok configuration ∧
          ((Catalog.load configuration files).result = .error cause ∨
            ∃ catalog name write, (Catalog.load configuration files).result = .ok catalog ∧
              command = .resolve name write ∧ catalog.tests.find? name = none ∧
              cause = .unknownTestCase name) := by
  simp only [loadConfiguration_eq_error_iff, load_eq_error_iff]
  constructor
  · intro stops
    cases stops with
    | configurationUnread given unread => exact .inl ⟨_, given, .inl unread⟩
    | configurationUnparsed given held unparsed =>
      exact .inl ⟨_, given, .inr ⟨_, held, unparsed⟩⟩
    | queriesUnread configured unread => exact .inr ⟨_, configured, .inl (.inl unread)⟩
    | queriesUnparsed configured held unparsed =>
      exact .inr ⟨_, configured, .inl (.inr ⟨_, held, .inl unparsed⟩)⟩
    | casesUnread configured held parsed unread =>
      exact .inr ⟨_, configured, .inl (.inr ⟨_, held, .inr ⟨_, parsed, .inl unread⟩⟩)⟩
    | casesUnparsed configured held parsed casesHeld unparsed =>
      exact .inr ⟨_, configured,
        .inl (.inr ⟨_, held, .inr ⟨_, parsed, .inr ⟨_, casesHeld, unparsed⟩⟩⟩)⟩
    | unknownName configured loaded resolves unknown =>
      exact .inr ⟨_, configured, .inr ⟨_, _, _, loaded, resolves, unknown, rfl⟩⟩
  · rintro (⟨path, given, unread | ⟨text, held, unparsed⟩⟩ | ⟨configuration, configured, steps⟩)
    · exact .configurationUnread given unread
    · exact .configurationUnparsed given held unparsed
    · rcases steps with (unread | ⟨text, held, unparsed | ⟨queries, parsed, cases⟩⟩) |
        ⟨catalog, name, write, loaded, resolves, unknown, rfl⟩
      · exact .queriesUnread configured unread
      · exact .queriesUnparsed configured held unparsed
      · rcases cases with unread | ⟨casesText, casesHeld, unparsed⟩
        · exact .casesUnread configured held parsed unread
        · exact .casesUnparsed configured held parsed casesHeld unparsed
      · exact .unknownName configured loaded resolves unknown

/-- The steps are all there is before a command does anything else. -/
theorem stops_or_proceeds (overrides : Overrides) (command : Command) (files : FileTree) :
    (∃ cause, Stops overrides command files cause) ∨
      ∃ configuration catalog, Proceeds overrides command files configuration catalog := by
  cases configured : loadConfiguration overrides files with
  | error cause => exact .inl ⟨cause, stops_iff.mpr (.inl configured)⟩
  | ok configuration =>
    cases loaded : (Catalog.load configuration files).result with
    | error cause =>
      exact .inl ⟨cause, stops_iff.mpr (.inr ⟨configuration, configured, .inl loaded⟩)⟩
    | ok catalog =>
      by_cases known : ∀ name write, command = .resolve name write →
        (catalog.tests.find? name).isSome
      · exact .inr ⟨configuration, catalog, configured, loaded, known⟩
      · push Not at known
        obtain ⟨name, write, resolves, unknown⟩ := known
        exact .inl ⟨_, .unknownName configured loaded resolves (by simpa using unknown)⟩

/-- What stops a command leaves everything as it is, whatever the runner is. -/
theorem Stops.perform_eq (stops : Stops overrides command files cause) :
    ∃ log : List Log.Record, ∀ {State : Type} (runnerOf : RunnerSettings → Runner State)
      (clock : Clock) (memory : State),
        perform runnerOf clock overrides command files memory =
          .failed cause (noticesOf log) files memory := by
  rcases stops_iff.mp stops with unconfigured | ⟨configuration, configured, unloaded |
    ⟨catalog, name, write, loaded, rfl, unknown, rfl⟩⟩
  · exact ⟨[], fun runnerOf clock => perform_of_unconfigured unconfigured runnerOf clock command⟩
  · exact ⟨_, fun runnerOf clock => perform_of_unloaded configured unloaded runnerOf clock command⟩
  · refine ⟨(Catalog.load configuration files).log ++ (catalog.resolve name).log, ?_⟩
    intro State runnerOf clock memory
    rw [perform_of_loaded configured loaded]
    simp only [performLoaded, performResolve_of_unknown unknown, Completion.failed, noticesOf,
      List.map_append, List.append_assoc]

/-! ## Command lines -/

/-- A command line leaves all files as they are and starts no runner. -/
def IsIdle (runnerOf : RunnerSettings → Runner Memory) (clock : Clock) (environment : Environment)
    (arguments : List String) (files : FileTree) (memory : Memory) : Prop :=
  (runWith runnerOf clock environment arguments files memory).files = files ∧
    runnerCalls runnerOf clock environment arguments files memory = []

/-- A command that leaves the files, and the memory of every runner, makes its command line idle. -/
theorem isIdle_of_perform {clock : Clock}
    (asked : read environment arguments = .ok (.perform overrides verbose command))
    (idle : ∀ {State : Type} (runnerOf : RunnerSettings → Runner State) (memory : State),
      let completion := perform runnerOf clock overrides command files memory
      completion.files = files ∧ completion.memory = memory)
    (runnerOf : RunnerSettings → Runner Memory) (memory : Memory) :
    IsIdle runnerOf clock environment arguments files memory := by
  constructor
  · rw [runWith_of_command asked]
    exact (idle runnerOf memory).1
  -- The recorded runner starts with no calls, and its memory is left too.
  · rw [runnerCalls, runWith_of_command asked]
    exact congrArg Prod.snd (idle (fun settings => (runnerOf settings).recorded) (memory, [])).2

/-- The line that a command ends with stands at the end of standard error. -/
theorem complaints_of_line {runnerOf : RunnerSettings → Runner Memory} {clock : Clock}
    {memory : Memory} {told : List Notice} {text : String}
    (asked : read environment arguments = .ok (.perform overrides verbose command))
    (noticed : (perform runnerOf clock overrides command files memory).notices =
      told ++ [.line text]) :
    ∃ before, (runWith runnerOf clock environment arguments files memory).complaints =
      before ++ text ++ "\n" := by
  rw [runWith_of_command asked, noticed]
  exact ⟨_, shownText_line environment verbose told text⟩

/-- Listing, checking and resolving without writing leave everything as it is. -/
theorem perform_of_looking
    (looks : command = .list ∨ command = .check ∨ ∃ name, command = .resolve name false)
    (runnerOf : RunnerSettings → Runner Memory) (clock : Clock) (overrides : Overrides)
    (files : FileTree) (memory : Memory) :
    let completion := perform runnerOf clock overrides command files memory
    completion.files = files ∧ completion.memory = memory := by
  cases configured : loadConfiguration overrides files with
  | error cause =>
    rw [perform_of_unconfigured configured]
    exact ⟨rfl, rfl⟩
  | ok configuration =>
    cases loaded : (Catalog.load configuration files).result with
    | error cause =>
      rw [perform_of_unloaded configured loaded]
      exact ⟨rfl, rfl⟩
    | ok catalog =>
      rw [perform_of_loaded configured loaded]
      rcases looks with rfl | rfl | ⟨name, rfl⟩
      · exact ⟨rfl, rfl⟩
      · simp only [performLoaded, performCheck]
        split_ifs <;> exact ⟨rfl, rfl⟩
      · simp only [performLoaded, performResolve]
        split <;> exact ⟨rfl, rfl⟩

/-- A run of names that no test case has leaves everything as it is. -/
theorem perform_run_of_unknown {names : List String} {format : ReportFormat} {suite : String}
    (configured : loadConfiguration overrides files = .ok configuration)
    (loaded : (Catalog.load configuration files).result = .ok catalog)
    (unknown : ∀ name ∈ requestedNames catalog names, catalog.tests.find? name = none)
    (runnerOf : RunnerSettings → Runner Memory) (clock : Clock) (memory : Memory) :
    let completion := perform runnerOf clock overrides (.run names format suite) files memory
    completion.files = files ∧ completion.memory = memory := by
  have same := (Harness.ofConfiguration configuration catalog).runCases_of_unknown
    (runnerOf configuration.runner) clock 1 files memory unknown
  rw [perform_of_loaded configured loaded]
  cases names with
  | nil => exact same
  | cons name rest => exact same

/-- A command line whose command is stopped is idle, exits with one and has put nothing out. What
it says, log records aside, is what stopped it. -/
theorem Stops.runWith_eq (stops : Stops overrides command files cause)
    (runnerOf : RunnerSettings → Runner Memory) (clock : Clock) (memory : Memory)
    (asked : read environment arguments = .ok (.perform overrides verbose command)) :
    let response := runWith runnerOf clock environment arguments files memory
    IsIdle runnerOf clock environment arguments files memory ∧
      response.exitCode = 1 ∧ response.output = "" ∧
      (notices runnerOf clock environment arguments files memory).filterMap Notice.line? =
        [s!"error: {cause.message}"] ∧
      ∃ before, response.complaints = before ++ s!"error: {cause.message}" ++ "\n" := by
  obtain ⟨log, stopped⟩ := stops.perform_eq
  have idle : IsIdle runnerOf clock environment arguments files memory := by
    refine isIdle_of_perform asked (fun runnerOf memory => ?_) runnerOf memory
    rw [stopped]
    exact ⟨rfl, rfl⟩
  refine ⟨idle, ?_, ?_, ?_, complaints_of_line asked (by rw [stopped]; rfl)⟩
  · rw [runWith_of_command asked, stopped]
    rfl
  · rw [runWith_of_command asked, stopped]
    rfl
  · simp only [notices, asked, stopped, Completion.failed, List.filterMap_append,
      filterMap_line?_noticesOf]
    rfl

/-- Listing, checking and resolving without writing are idle. So is every command that stops at the
configuration, at a catalog or at the name to resolve: it exits with one, has put nothing out, and
what it says, log records aside, is what stopped it first. A command that does not stop there has
loaded everything and knows the name; if it then runs names that no test case has, it is idle too. -/
theorem runWith_idle (runnerOf : RunnerSettings → Runner Memory) (clock : Clock)
    (files : FileTree) (memory : Memory)
    (asked : read environment arguments = .ok (.perform overrides verbose command)) :
    let response := runWith runnerOf clock environment arguments files memory
    ((command = .list ∨ command = .check ∨ ∃ name, command = .resolve name false) →
        IsIdle runnerOf clock environment arguments files memory) ∧
      (∀ cause, Stops overrides command files cause →
        IsIdle runnerOf clock environment arguments files memory ∧
          response.exitCode = 1 ∧ response.output = "" ∧
          (notices runnerOf clock environment arguments files memory).filterMap Notice.line? =
            [s!"error: {cause.message}"] ∧
          ∃ before, response.complaints = before ++ s!"error: {cause.message}" ++ "\n") ∧
      ((∃ cause, Stops overrides command files cause) ∨
        ∃ configuration catalog, Proceeds overrides command files configuration catalog) ∧
      ∀ names format suite configuration catalog, command = .run names format suite →
        Proceeds overrides command files configuration catalog →
        (∀ name ∈ requestedNames catalog names, catalog.tests.find? name = none) →
          IsIdle runnerOf clock environment arguments files memory := by
  intro response
  refine ⟨fun looks => ?_, fun cause stops => ?_, stops_or_proceeds overrides command files, ?_⟩
  · exact isIdle_of_perform asked (fun runnerOf => perform_of_looking looks runnerOf clock _ _)
      runnerOf memory
  · exact stops.runWith_eq runnerOf clock memory asked
  · rintro names format suite configuration catalog rfl ⟨configured, loaded, _⟩ unknown
    exact isIdle_of_perform asked (fun runnerOf =>
      perform_run_of_unknown configured loaded unknown runnerOf clock) runnerOf memory

/-- A name that is not in the catalog, resolved and run, and one that is, resolved. -/
theorem runWith_stocked_idle :
    let environment : Environment := ⟨none, none⟩
    let overrides : Overrides := ⟨none, none, none, none⟩
    let runnerOf (settings : RunnerSettings) := settings.runner approving
    let clock : Clock := fun _ => ⟨0⟩
    read environment ["resolve", "t2", "--write"] =
        .ok (.perform overrides false (.resolve "t2" true)) ∧
      Stops overrides (.resolve "t2" true) stocked (.unknownTestCase "t2") ∧
      (runWith runnerOf clock environment ["resolve", "t2", "--write"] stocked ()).exitCode = 1 ∧
      IsIdle runnerOf clock environment ["resolve", "t2", "--write"] stocked () ∧
      IsIdle runnerOf clock environment ["resolve", "t1"] stocked () ∧
      IsIdle runnerOf clock environment ["run", "t2"] stocked () := by
  intro environment overrides runnerOf clock
  have asked : read environment ["resolve", "t2", "--write"] =
      .ok (.perform overrides false (.resolve "t2" true)) := rfl
  have configured : loadConfiguration overrides stocked = .ok {} := rfl
  have loaded : (Catalog.load {} stocked).result = .ok stockedCatalog := by decide +kernel
  have stops : Stops overrides (.resolve "t2" true) stocked (.unknownTestCase "t2") :=
    .unknownName configured loaded rfl rfl
  have resolved : read environment ["resolve", "t1"] =
      .ok (.perform overrides false (.resolve "t1" false)) := rfl
  have run : read environment ["run", "t2"] =
      .ok (.perform overrides false (.run ["t2"] .text "transformer")) := rfl
  obtain ⟨idle, exits, _⟩ := (runWith_idle runnerOf clock stocked () asked).2.1 _ stops
  refine ⟨asked, stops, exits, idle, ?_, ?_⟩
  · exact (runWith_idle runnerOf clock stocked () resolved).1
      (.inr (.inr ⟨"t1", rfl⟩))
  · refine (runWith_idle runnerOf clock stocked () run).2.2.2
      ["t2"] .text "transformer" {} stockedCatalog rfl ⟨configured, loaded, nofun⟩ ?_
    decide

end FixtureHarness.CommandLine
