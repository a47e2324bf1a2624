import FixtureHarness.Path
import FixtureHarness.Report.Format
import FixtureHarness.Text.Steering

/-! # Options

What the command line understands: its options with their names and values, and the requests that it
can be read as.
-/

namespace FixtureHarness.CommandLine

/-- An option of the command line. -/
inductive Opt where
  | config
  | root
  | fixtureDirectory
  | runner
  | verbose
  | help
  | version
  | output
  | suite
  | write
  deriving DecidableEq, Repr

/-- What the value of an option has to be. -/
inductive ValueKind where
  | path
  | text
  | format
  deriving DecidableEq, Repr

namespace Opt

/-- The long name of an option, behind two hyphens. -/
def long : Opt → String
  | config => "config"
  | root => "root"
  | fixtureDirectory => "fixture-dir"
  | runner => "runner"
  | verbose => "verbose"
  | help => "help"
  | version => "version"
  | output => "output"
  | suite => "suite"
  | write => "write"

/-- The short name of an option, behind one hyphen. -/
def short? : Opt → Option Char
  | config => some 'c'
  | verbose => some 'v'
  | help => some 'h'
  | version => some 'V'
  | output => some 'o'
  | write => some 'w'
  | _ => none

/-- What an option takes as its value; a flag takes none. -/
def kind? : Opt → Option ValueKind
  | config | root | fixtureDirectory => some .path
  | runner | suite => some .text
  | output => some .format
  | verbose | help | version | write => none

/-- The option as messages show it, with the name of its value. -/
def display : Opt → String
  | config => "--config <CONFIG>"
  | root => "--root <ROOT>"
  | fixtureDirectory => "--fixture-dir <FIXTURE_DIR>"
  | runner => "--runner <RUNNER>"
  | output => "--output <OUTPUT>"
  | suite => "--suite <SUITE>"
  | flag => "--" ++ flag.long

end Opt

/-- The commands. -/
inductive CommandName where
  | run
  | resolve
  | list
  | check
  deriving DecidableEq, Repr

namespace CommandName

/-- The command of a name. -/
def ofText? : String → Option CommandName
  | "run" => some run
  | "resolve" => some resolve
  | "list" => some list
  | "check" => some check
  | _ => none

/-- How many names a command takes. -/
inductive Arity where
  | none
  | one
  | many
  deriving DecidableEq, Repr

/-- How many names each command takes. -/
def arity : CommandName → Arity
  | run => .many
  | resolve => .one
  | list | check => .none

end CommandName

/-- The options that are understood everywhere. -/
def globalOptions : List Opt := [.config, .root, .fixtureDirectory, .runner, .verbose, .help]

/-- The options that are understood before a command, or behind its name. -/
def optionsOf : Option CommandName → List Opt
  | none => globalOptions ++ [.version]
  | some .run => globalOptions ++ [.output, .suite]
  | some .resolve => globalOptions ++ [.write]
  | some .list | some .check => globalOptions

/-- A command with what it was given. -/
inductive Command where
  | run (names : List String) (format : ReportFormat) (suite : String)
  | resolve (name : String) (write : Bool)
  | list
  | check
  deriving DecidableEq, Repr

/-- What changes the configuration. -/
structure Overrides where
  config? : Option Path
  root? : Option Path
  fixtureDirectory? : Option Path
  program? : Option String
  deriving DecidableEq, Repr

/-- What a command line asks for. -/
inductive Request where
  | showHelp
  | showVersion
  | perform (overrides : Overrides) (verbose : Bool) (command : Command)
  deriving DecidableEq, Repr

/-- Why a command line is not understood. -/
inductive UsageError where
  | noArguments
  | missingCommand
  | unknownCommand (name : String)
  | unexpectedArgument (argument : String)
  | missingValue (option : Opt)
  | invalidValue (value : String) (option : Opt) (reason : String)
  | repeatedOption (option : Opt)
  | unneededValue (value : String) (option : Opt)
  | missingName
  deriving DecidableEq, Repr

/-- The name of the program. -/
def programName : String := "transformer_test"

/-- The name of the program with its version. -/
def versionText : String := s!"{programName} 0.1.0\n"

/-- What the program is for. -/
def about : String := "Fixture-assembly harness for SQL transformation tests"

/-- The summary that is shown on request and to whoever gives no arguments. -/
def helpText : String := about ++ "

Usage: transformer_test [OPTIONS] <COMMAND>

Commands:
  run      Run test cases (all of them when none are named)
  resolve  Print the composed script for a test case
  list     List test cases and their query references
  check    Check the catalogs for duplicate names and unknown query references
  help     Print this message or the help of the given subcommand(s)

Options:
  -c, --config <CONFIG>            Harness configuration file (YAML) [env: TRANSFORMER_HARNESS_CONFIG=]
      --root <ROOT>                Override the base directory for catalogs and fixtures
      --fixture-dir <FIXTURE_DIR>  Override the fixture directory
      --runner <RUNNER>            Override the external runner program
  -v, --verbose                    Enable debug logging
  -h, --help                       Print help
  -V, --version                    Print version
"

/-- What follows the reason of a usage error. A steering sequence that the reason leaves open takes
in what comes up to the next one. -/
def advice : String :=
  "\n\nFor more information, try '\x1b[1m--help\x1b[0m'.\n"

/-- The message of a usage error. What was given is shown without what would steer a terminal. -/
def UsageError.message : UsageError → String
  | noArguments => helpText
  | missingCommand =>
    s!"error: '{programName}' requires a subcommand but one was not provided\n"
  | unknownCommand name => s!"error: unrecognized subcommand '{Text.unsteered name}'\n"
  | unexpectedArgument argument =>
    s!"error: unexpected argument '{Text.unsteered argument}' found\n"
  | missingValue option =>
    s!"error: a value is required for '{option.display}' but none was supplied\n"
  | invalidValue value option reason =>
    let value := Text.unsteered value
    s!"error: invalid value '{value}' for '{option.display}': {Text.unsteered (reason ++ advice)}"
  | repeatedOption option =>
    s!"error: the argument '{option.display}' cannot be used multiple times\n"
  | unneededValue value option =>
    let value := Text.unsteered value
    s!"error: unexpected value '{value}' for '{option.display}' found; no more were expected\n"
  | missingName => "error: the following required arguments were not provided:\n  <NAME>\n"

end FixtureHarness.CommandLine
