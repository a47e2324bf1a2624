import FixtureHarness.Command.Runner
import FixtureHarness.CommandLine.Parser
import FixtureHarness.Configuration.Load
import FixtureHarness.Harness.Basic
import FixtureHarness.Log.Filter
import FixtureHarness.Report.Writer

/-! # Carrying out commands

A command loads the configuration and the catalogs and then does its work. Everything it tells
beside its output is a notice: a log record, which a filter may drop, or a line that is always
shown. Tests are run by the runner of the settings, whatever that is; the program takes the one that
launches commands on a system.
-/

namespace FixtureHarness.CommandLine

/-- Something told on standard error. -/
inductive Notice where
  | record (record : Log.Record)
  | line (text : String)
  deriving DecidableEq, Repr

/-- What a command leaves. -/
structure Completion (Memory : Type) where
  succeeded : Bool
  output : String
  notices : List Notice
  files : FileTree
  /-- What the runner remembers. -/
  memory : Memory

variable {Memory : Type}

namespace Completion

/-- A command that a failure ended before it had put anything out. -/
def failed (cause : Failure) (notices : List Notice) (files : FileTree) (memory : Memory) :
    Completion Memory :=
  ⟨false, "", notices ++ [.line s!"error: {cause.message}"], files, memory⟩

end Completion

/-- Log records as notices. -/
def noticesOf (log : List Log.Record) : List Notice :=
  log.map .record

/-- The configuration with what the command line changes. -/
def overridden (overrides : Overrides) (configuration : Configuration) : Configuration :=
  let rooted := (overrides.root?.map configuration.withRoot).getD configuration
  let placed := (overrides.fixtureDirectory?.map rooted.withFixtureDirectory).getD rooted
  (overrides.program?.map placed.withProgram).getD placed

/-- Loads the configuration. -/
def loadConfiguration (overrides : Overrides) (files : FileTree) :
    Except Failure Configuration :=
  match overrides.config? with
  | some path => (Configuration.load files path).map (overridden overrides)
  | none => .ok (overridden overrides {})

/-- Runs test cases, all if none is named, and writes the report. -/
def performRun (runnerOf : RunnerSettings → Runner Memory) (clock : Clock)
    (configuration : Configuration) (catalog : Catalog) (names : List String)
    (format : ReportFormat) (suite : String) (files : FileTree) (memory : Memory) :
    Completion Memory :=
  let harness := Harness.ofConfiguration configuration catalog
  let runner := runnerOf configuration.runner
  let run :=
    if names.isEmpty then harness.runAll runner clock files memory
    else harness.runSuite runner clock names files memory
  let report := Harness.report clock suite run
  ⟨report.allPassed, report.write format, noticesOf run.log, run.files, run.memory⟩

/-- The notices about the queries that contributed nothing. -/
def missingNotices (fixture : Fixture) : List Notice :=
  fixture.missing.map fun query => .line s!"warning: unknown query '{query}' contributed nothing"

/-- The notices about the files that were written. -/
def writtenNotices (paths : FixturePaths) : List Notice :=
  [paths.script, paths.input, paths.output].map fun path => .line s!"wrote {path.text}"

/-- Puts out the script of a test case, and writes its fixture if asked to. -/
def performResolve (configuration : Configuration) (catalog : Catalog) (name : String)
    (write : Bool) (files : FileTree) (memory : Memory) : Completion Memory :=
  let resolved := catalog.resolve name
  match resolved.result with
  | .error cause => .failed cause (noticesOf resolved.log) files memory
  | .ok fixture =>
    let notices := noticesOf resolved.log ++ missingNotices fixture
    let output := fixture.script ++ "\n"
    if write then
      let written := (FixtureWriter.ofConfiguration configuration).write fixture files
      let notices := notices ++ noticesOf written.log
      match written.result with
      | .ok paths => ⟨true, output, notices ++ writtenNotices paths, written.files, memory⟩
      | .error cause =>
        { Completion.failed cause notices written.files memory with output := output }
    else ⟨true, output, notices, files, memory⟩

/-- The line that lists a test case. -/
def listLine (case : TestCase) : String :=
  s!"{case.name}: " ++ ", ".intercalate case.queries

/-- Lists the test cases with their queries. -/
def performList (catalog : Catalog) (files : FileTree) (memory : Memory) : Completion Memory :=
  ⟨true, Text.unlines (catalog.tests.cases.map listLine), [], files, memory⟩

/-- Checks the catalogs. -/
def performCheck (catalog : Catalog) (files : FileTree) (memory : Memory) : Completion Memory :=
  if catalog.problems.isEmpty then
    let line := s!"catalog ok: {catalog.queries.size} queries, {catalog.tests.size} test cases"
    ⟨true, Text.unlines [line], [], files, memory⟩
  else ⟨false, Text.unlines catalog.problems, [], files, memory⟩

/-- Carries out a command on loaded catalogs. -/
def performLoaded (runnerOf : RunnerSettings → Runner Memory) (clock : Clock)
    (configuration : Configuration) (catalog : Catalog) (command : Command) (files : FileTree)
    (memory : Memory) : Completion Memory :=
  match command with
  | .run names format suite =>
    performRun runnerOf clock configuration catalog names format suite files memory
  | .resolve name write => performResolve configuration catalog name write files memory
  | .list => performList catalog files memory
  | .check => performCheck catalog files memory

/-- Carries out a command. -/
def perform (runnerOf : RunnerSettings → Runner Memory) (clock : Clock) (overrides : Overrides)
    (command : Command) (files : FileTree) (memory : Memory) : Completion Memory :=
  match loadConfiguration overrides files with
  | .error cause => .failed cause [] files memory
  | .ok configuration =>
    let loaded := Catalog.load configuration files
    match loaded.result with
    | .error cause => .failed cause (noticesOf loaded.log) files memory
    | .ok catalog =>
      let completion := performLoaded runnerOf clock configuration catalog command files memory
      { completion with notices := noticesOf loaded.log ++ completion.notices }

/-! ## The whole program -/

/-- What the program leaves. -/
structure Response (Memory : Type) where
  exitCode : Nat
  output : String
  complaints : String
  files : FileTree
  /-- What the runner remembers. -/
  memory : Memory

/-- The line of a notice unless the filter drops it. Records are shown without what would steer a
terminal. -/
def noticeLine? (filter : Log.Filter) : Notice → Option String
  | .record record =>
    if filter.admits record then some (Text.unsteered (record.line ++ "\n")) else none
  | .line text => some (text ++ "\n")

/-- The filter of a run, and what is wrong with its specification. -/
def filterOf (environment : Environment) (verbose : Bool) : Log.Filter × List String :=
  match environment.filter? with
  | some specification => Log.Filter.ofSpecification specification
  | none => (.ofLevel (Log.Filter.defaultLevel verbose), [])

/-- Runs the program with a runner for each of its settings. -/
def runWith (runnerOf : RunnerSettings → Runner Memory) (clock : Clock) (environment : Environment)
    (arguments : List String) (files : FileTree) (memory : Memory) : Response Memory :=
  match read environment arguments with
  | .error error => ⟨2, "", error.message, files, memory⟩
  | .ok .showHelp => ⟨0, helpText, "", files, memory⟩
  | .ok .showVersion => ⟨0, versionText, "", files, memory⟩
  | .ok (.perform overrides verbose command) =>
    let (filter, complaints) := filterOf environment verbose
    let completion := perform runnerOf clock overrides command files memory
    let lines := completion.notices.filterMap (noticeLine? filter)
    ⟨if completion.succeeded then 0 else 1, completion.output,
      Text.unlines complaints ++ String.join lines, completion.files, completion.memory⟩

/-- Runs the program with the runner that launches commands on a system. -/
def run (system : System) (clock : Clock) (environment : Environment) (arguments : List String)
    (files : FileTree) : Response Unit :=
  runWith (fun settings => settings.runner system) clock environment arguments files ()

end FixtureHarness.CommandLine
