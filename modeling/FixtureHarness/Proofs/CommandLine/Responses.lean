import FixtureHarness.CommandLine.Run
import FixtureHarness.Proofs.Catalog.Resolving

/-! # What a command line comes to

A command line that asks for a command leaves what the command leaves. On standard error stands what
the command tells, after the complaints about the filter: lines of its own, which are always shown,
among log records, which the filter may drop.
-/

namespace FixtureHarness.CommandLine

variable {Memory : Type}

/-- The text of a notice that is a line of its own. -/
def Notice.line? : Notice → Option String
  | .line text => some text
  | .record _ => none

/-- What is told on the way to carrying out a command line. -/
def notices (runnerOf : RunnerSettings → Runner Memory) (clock : Clock) (environment : Environment)
    (arguments : List String) (files : FileTree) (memory : Memory) : List Notice :=
  match read environment arguments with
  | .ok (.perform overrides _ command) =>
    (perform runnerOf clock overrides command files memory).notices
  | _ => []

theorem filterMap_line?_noticesOf (log : List Log.Record) :
    (noticesOf log).filterMap Notice.line? = [] := by
  rw [noticesOf, List.filterMap_map, List.filterMap_eq_nil_iff]
  intro record _
  rfl

/-- Log records add no line of their own to what is told behind them. -/
theorem filterMap_line?_behind (log : List Log.Record) (told : List Notice) :
    (noticesOf log ++ told).filterMap Notice.line? = told.filterMap Notice.line? := by
  rw [List.filterMap_append, filterMap_line?_noticesOf, List.nil_append]

/-! ## Standard error -/

/-- What is shown of a notice: a line of its own always, a record if the filter admits it. -/
def Notice.shown (filter : Log.Filter) : Notice → String
  | .record said => if filter.admits said then Text.unsteered (said.line ++ "\n") else ""
  | .line text => text ++ "\n"

/-- The text on standard error: the complaints about the filter, and then what is told. -/
def shownText (environment : Environment) (verbose : Bool) (told : List Notice) : String :=
  Text.unlines (filterOf environment verbose).2 ++
    String.join (told.map (Notice.shown (filterOf environment verbose).1))

theorem join_noticeLines (filter : Log.Filter) (told : List Notice) :
    String.join (told.filterMap (noticeLine? filter)) =
      String.join (told.map (Notice.shown filter)) := by
  induction told with
  | nil => rfl
  | cons notice rest ih =>
    rw [List.map_cons, String.join_cons, ← ih]
    cases notice with
    | line text => simp [noticeLine?, Notice.shown]
    | record said => cases admitted : filter.admits said <;> simp [noticeLine?, Notice.shown, admitted]

theorem shownText_append (environment : Environment) (verbose : Bool) (told more : List Notice) :
    shownText environment verbose (told ++ more) =
      shownText environment verbose told ++
        String.join (more.map (Notice.shown (filterOf environment verbose).1)) := by
  rw [shownText, List.map_append, String.join_append, ← String.append_assoc]
  rfl

theorem shownText_line (environment : Environment) (verbose : Bool) (told : List Notice)
    (text : String) :
    shownText environment verbose (told ++ [.line text]) =
      shownText environment verbose told ++ text ++ "\n" := by
  simp [shownText_append, Notice.shown, String.append_assoc]

variable {environment : Environment} {arguments : List String} {overrides : Overrides}
  {verbose : Bool} {command : Command} {files : FileTree} {configuration : Configuration}
  {catalog : Catalog} {cause : Failure}

/-- A command line that asks for a command leaves what the command leaves. -/
theorem runWith_of_command
    (asked : read environment arguments = .ok (.perform overrides verbose command))
    (runnerOf : RunnerSettings → Runner Memory) (clock : Clock) (files : FileTree)
    (memory : Memory) :
    let completion := perform runnerOf clock overrides command files memory
    runWith runnerOf clock environment arguments files memory =
      { exitCode := if completion.succeeded then 0 else 1
        output := completion.output
        complaints := shownText environment verbose completion.notices
        files := completion.files
        memory := completion.memory } := by
  simp only [runWith, asked, join_noticeLines, shownText]

/-! ## Loading -/

theorem perform_of_unconfigured (failed : loadConfiguration overrides files = .error cause)
    (runnerOf : RunnerSettings → Runner Memory) (clock : Clock) (command : Command)
    (memory : Memory) :
    perform runnerOf clock overrides command files memory = .failed cause [] files memory := by
  simp only [perform, failed]

theorem perform_of_unloaded (configured : loadConfiguration overrides files = .ok configuration)
    (failed : (Catalog.load configuration files).result = .error cause)
    (runnerOf : RunnerSettings → Runner Memory) (clock : Clock) (command : Command)
    (memory : Memory) :
    perform runnerOf clock overrides command files memory =
      .failed cause (noticesOf (Catalog.load configuration files).log) files memory := by
  simp only [perform, configured, failed]

theorem perform_of_loaded (configured : loadConfiguration overrides files = .ok configuration)
    (loaded : (Catalog.load configuration files).result = .ok catalog)
    (runnerOf : RunnerSettings → Runner Memory) (clock : Clock) (command : Command)
    (memory : Memory) :
    let completion := performLoaded runnerOf clock configuration catalog command files memory
    perform runnerOf clock overrides command files memory =
      { completion with
        notices := noticesOf (Catalog.load configuration files).log ++ completion.notices } := by
  simp only [perform, configured, loaded]

/-- Where everything is loaded, a command line leaves what its command does with that, and shows what
is told of loading and by the command. -/
theorem runWith_of_loaded
    (asked : read environment arguments = .ok (.perform overrides verbose command))
    (configured : loadConfiguration overrides files = .ok configuration)
    (loaded : (Catalog.load configuration files).result = .ok catalog)
    (runnerOf : RunnerSettings → Runner Memory) (clock : Clock) (memory : Memory) :
    let completion := performLoaded runnerOf clock configuration catalog command files memory
    let response := runWith runnerOf clock environment arguments files memory
    response.exitCode = (if completion.succeeded then 0 else 1) ∧
      response.output = completion.output ∧ response.files = completion.files ∧
      response.complaints = shownText environment verbose
        (noticesOf (Catalog.load configuration files).log ++ completion.notices) := by
  rw [runWith_of_command asked, perform_of_loaded configured loaded]
  exact ⟨rfl, rfl, rfl, rfl⟩

/-- A name that no test case has is refused, whether it is to be written or not. -/
theorem performResolve_of_unknown {name : String} (unknown : catalog.tests.find? name = none)
    (configuration : Configuration) (write : Bool) (files : FileTree) (memory : Memory) :
    performResolve configuration catalog name write files memory =
      .failed (.unknownTestCase name) (noticesOf (catalog.resolve name).log) files memory := by
  simp only [performResolve, Catalog.resolve_of_unknown unknown]

end FixtureHarness.CommandLine
