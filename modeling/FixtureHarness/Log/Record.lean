import FixtureHarness.Text.Quoted

/-! # Log records

Every step of the harness leaves records. A record is kept as what happened; its level, the area it
comes from and its text follow from that.
-/

namespace FixtureHarness.Log

/-- How grave a record is, gravest first. -/
inductive Level where
  | error
  | warn
  | info
  | debug
  | trace
  deriving DecidableEq, Repr

/-- The name of a level. -/
def Level.name : Level → String
  | error => "ERROR"
  | warn => "WARN"
  | info => "INFO"
  | debug => "DEBUG"
  | trace => "TRACE"

/-- The rank of a level, from zero for errors. -/
def Level.rank : Level → Nat
  | error => 1
  | warn => 2
  | info => 3
  | debug => 4
  | trace => 5

/-- The part of the harness that a record comes from. -/
inductive Area where
  | catalog
  | resolution
  | fixture
  | runner
  | verdict
  | execution
  | logging
  deriving DecidableEq, Repr

/-- The name by which a filter selects an area. -/
def Area.target : Area → String
  | catalog => "transformer_harness::harness::catalog"
  | resolution => "transformer_harness::harness::resolver"
  | fixture => "transformer_harness::harness::fixture"
  | runner => "transformer_harness::harness::process"
  | verdict => "transformer_harness::harness::verdict"
  | execution => "transformer_harness::harness::executor"
  | logging => "transformer_harness::harness::logging"

/-- One event worth telling. -/
inductive Record where
  | loading
  | loaded (queries cases : Nat)
  | resolving (test : String)
  | composing (fragments : Nat)
  | unknownQuery (test query : String)
  | updating (script input output : String)
  | writing (path : String)
  | performing (test : String)
  | running (program : String) (arguments : List String)
  | launchFailed (program fault : String)
  | verifying
  | passed (test : String)
  | failed (test : String) (exitCode : Option Int)
  | notExecuted (test failure : String)
  | alreadyInitialised
  deriving DecidableEq, Repr

namespace Record

/-- The area that a record comes from. -/
def area : Record → Area
  | loading | loaded .. => .catalog
  | resolving _ | composing _ | unknownQuery .. => .resolution
  | updating .. | writing _ => .fixture
  | running .. | launchFailed .. => .runner
  | verifying => .verdict
  | performing _ | passed _ | failed .. | notExecuted .. => .execution
  | alreadyInitialised => .logging

/-- The level of a record. -/
def level : Record → Level
  | notExecuted .. => .error
  | unknownQuery .. | launchFailed .. => .warn
  | loading | resolving _ | updating .. | performing _ | passed _ | failed .. => .info
  | loaded .. | composing _ | writing _ | running .. | verifying | alreadyInitialised => .debug

/-- An exit code as records show it. -/
def exitCodeText : Option Int → String
  | some code => s!"Some({code})"
  | none => "None"

/-- The text of a record. -/
def text : Record → String
  | loading => "Loading query catalog and test-case catalog..."
  | loaded queries cases => s!"Loaded {queries} queries and {cases} test cases"
  | resolving test => s!"Parsing transformer test-data for '{test}'..."
  | composing fragments => s!"Parsing query-string from {fragments} fragments..."
  | unknownQuery test query =>
    s!"Test case '{test}' references unknown query '{query}'; it contributes nothing"
  | updating script input output => s!"Updating test files ({script}, {input}, {output})"
  | writing path => s!"Writing test data into file {path}"
  | performing test => s!"Performing test-execution for '{test}'..."
  | running program arguments => s!"Running {program} {Text.quotedList arguments}"
  | launchFailed program fault => s!"Failed to launch '{program}': {fault}"
  | verifying => "Verifying test status..."
  | passed test => s!"Test '{test}' passed"
  | failed test exitCode => s!"Test '{test}' failed (exit code: {exitCodeText exitCode})"
  | notExecuted test failure => s!"Test '{test}' could not be executed: {failure}"
  | alreadyInitialised =>
    "Logger already initialised: attempted to set a logger after the logging system was " ++
      "already initialized"

/-- A record as one line of a log. -/
def line (record : Record) : String :=
  s!"{record.level.name} - {record.text}"

end Record

end FixtureHarness.Log
