import FixtureHarness.Path

/-! # Configuration

Where the catalogs lie, where fixtures are written, and how the runner is called. Every field has a
default.
-/

namespace FixtureHarness

/-- The names of the three fixture files. -/
structure FixtureNames where
  statements : String := "statements.sql"
  input : String := "input.json"
  output : String := "output.json"
  deriving DecidableEq, Repr

/-- How the runner is called: the leading arguments, then each flag with its path. -/
structure RunnerSettings where
  program : String := "ksql-test-runner"
  arguments : List String := []
  scriptFlag : String := "-s"
  inputFlag : String := "-i"
  outputFlag : String := "-o"
  deriving DecidableEq, Repr

/-- The configuration of a harness. -/
structure Configuration where
  /-- The directory that relative paths start from. -/
  root : Path := ⟨"."⟩
  queriesFile : Path := ⟨"transformer_queries.json"⟩
  casesFile : Path := ⟨"test_files/transformer_test_data.json"⟩
  fixtureDirectory : Path := ⟨"test_files"⟩
  fixtures : FixtureNames := {}
  runner : RunnerSettings := {}
  deriving DecidableEq, Repr

namespace Configuration

/-- A path of the configuration from where the harness runs. -/
def resolve (configuration : Configuration) (path : Path) : Path :=
  configuration.root.join path

/-- The file of the query catalog. -/
def queriesPath (configuration : Configuration) : Path :=
  configuration.resolve configuration.queriesFile

/-- The file of the test-case catalog. -/
def casesPath (configuration : Configuration) : Path :=
  configuration.resolve configuration.casesFile

/-- The directory of the fixture files. -/
def fixturePath (configuration : Configuration) : Path :=
  configuration.resolve configuration.fixtureDirectory

/-- The configuration with another root. -/
def withRoot (configuration : Configuration) (root : Path) : Configuration :=
  { configuration with root := root }

/-- The configuration with another fixture directory. -/
def withFixtureDirectory (configuration : Configuration) (directory : Path) : Configuration :=
  { configuration with fixtureDirectory := directory }

/-- The configuration with another runner program. -/
def withProgram (configuration : Configuration) (program : String) : Configuration :=
  { configuration with runner := { configuration.runner with program := program } }

/-- The configuration as it counts for a file: a relative root starts from the directory of the
file. -/
def anchored (configuration : Configuration) (file : Path) : Configuration :=
  if configuration.root.isRelative then
    configuration.withRoot (file.directory.join configuration.root)
  else configuration

end Configuration

end FixtureHarness
