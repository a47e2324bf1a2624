import FixtureHarness.Catalog.Basic

/-! # Writing fixtures

The three files of a fixture are written into one directory, which is made when it is missing: first
the script, then the input, then the output. Each replaces what was there, and the first write that
fails ends the attempt.
-/

namespace FixtureHarness

/-- The paths of the three files of a fixture. -/
structure FixturePaths where
  script : Path
  input : Path
  output : Path
  deriving DecidableEq, Repr

/-- Where fixtures are written. -/
structure FixtureWriter where
  directory : Path
  names : FixtureNames
  deriving DecidableEq, Repr

/-- What became of an attempt to write a fixture. -/
structure Written where
  result : Except Failure FixturePaths
  files : FileTree
  log : List Log.Record

namespace FixtureWriter

/-- The writer that a configuration asks for. -/
def ofConfiguration (configuration : Configuration) : FixtureWriter :=
  ⟨configuration.fixturePath, configuration.fixtures⟩

/-- The paths that a writer writes to. -/
def paths (writer : FixtureWriter) : FixturePaths where
  script := writer.directory.join ⟨writer.names.statements⟩
  input := writer.directory.join ⟨writer.names.input⟩
  output := writer.directory.join ⟨writer.names.output⟩

/-- The files to write, in order, with their texts. -/
def pages (writer : FixtureWriter) (fixture : Fixture) : List (Path × String) :=
  [(writer.paths.script, fixture.script), (writer.paths.input, fixture.input),
    (writer.paths.output, fixture.output)]

/-- Writes files in order, up to the first that fails. -/
def writePages (paths : FixturePaths) : FileTree → List (Path × String) → Written
  | files, [] => ⟨.ok paths, files, []⟩
  | files, (path, text) :: rest =>
    match files.writeText path text with
    | .ok after =>
      let written := writePages paths after rest
      { written with log := .writing path.text :: written.log }
    | .error fault => ⟨.error (.fileAccess path fault), files, [.writing path.text]⟩

/-- Writes a fixture. -/
def write (writer : FixtureWriter) (fixture : Fixture) (files : FileTree) : Written :=
  let names := writer.names
  let start : Log.Record := .updating names.statements names.input names.output
  match files.ensureTree writer.directory with
  | (made, some fault) => ⟨.error (.fileAccess writer.directory fault), made, [start]⟩
  | (made, none) =>
    let written := writePages writer.paths made (writer.pages fixture)
    { written with log := start :: written.log }

end FixtureWriter

end FixtureHarness
