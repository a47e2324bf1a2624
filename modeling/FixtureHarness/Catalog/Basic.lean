import FixtureHarness.Catalog.Query
import FixtureHarness.Catalog.TestCase
import FixtureHarness.Configuration.Basic
import FixtureHarness.FileTree.Basic
import FixtureHarness.Log.Record

/-! # Catalogs and what they resolve to

Both catalogs together name everything a fixture consists of. Resolving a test case joins the
fragments of its script with nothing between them; a fragment that is not there contributes nothing
and is reported. Validation is a check of its own that resolving never asks for.
-/

namespace FixtureHarness

/-- A result and the records that were left on the way to it. -/
structure Logged (Result : Type) where
  result : Result
  log : List Log.Record
  deriving DecidableEq, Repr

/-- A script composed from fragments, and the names that have none. -/
structure Composition where
  script : String
  missing : List String
  deriving DecidableEq, Repr

/-- Adds the fragment of a name, or the name itself to what is missing if it has none. -/
def Composition.add (queries : QueryCatalog) (composition : Composition) (name : String) :
    Composition :=
  match queries.get? name with
  | some text => { composition with script := composition.script ++ text }
  | none => { composition with missing := composition.missing ++ [name] }

/-- Joins the fragments of names in order. -/
def QueryCatalog.compose (queries : QueryCatalog) (names : List String) : Composition :=
  names.foldl (Composition.add queries) ⟨"", []⟩

/-- Everything that the files of a test case are made from. -/
structure Fixture where
  test : String
  script : String
  input : String
  output : String
  missing : List String
  deriving DecidableEq, Repr

/-- A reference of a test case to a fragment that is not there. -/
structure Reference where
  test : String
  query : String
  deriving DecidableEq, Repr

/-- The query catalog and the test-case catalog. -/
structure Catalog where
  queries : QueryCatalog
  tests : TestCatalog
  deriving DecidableEq, Repr, Inhabited

namespace Catalog

/-! ## Resolving -/

/-- The fixture of a test case. -/
def fixture (catalog : Catalog) (case : TestCase) : Fixture :=
  let composition := catalog.queries.compose case.queries
  { test := case.name
    script := composition.script
    input := case.input
    output := case.output
    missing := composition.missing }

/-- The fixture of the first test case with a name. -/
def resolve? (catalog : Catalog) (name : String) : Except Failure Fixture :=
  match catalog.tests.find? name with
  | some case => .ok (catalog.fixture case)
  | none => .error (.unknownTestCase name)

/-- The records of composing a script. -/
def composeLog (names : List String) : List Log.Record :=
  [.composing names.length]

/-- The records of resolving a name. -/
def resolveLog (catalog : Catalog) (name : String) : List Log.Record :=
  .resolving name ::
    match catalog.tests.find? name with
    | some case =>
      composeLog case.queries ++
        (catalog.queries.compose case.queries).missing.map fun query => .unknownQuery name query
    | none => []

/-- Resolves a name with the records of it. -/
def resolve (catalog : Catalog) (name : String) : Logged (Except Failure Fixture) :=
  ⟨catalog.resolve? name, catalog.resolveLog name⟩

/-! ## Validating -/

/-- The references that no fragment satisfies, in the order of their declaration. -/
def unresolved (catalog : Catalog) : List Reference :=
  catalog.tests.cases.flatMap fun case =>
    (case.queries.filter fun query => !catalog.queries.contains query).map fun query =>
      ⟨case.name, query⟩

/-- The names that were seen, and those of them that were seen again. -/
structure Sightings where
  seen : List String
  repeated : List String
  deriving DecidableEq, Repr

/-- Takes note of a name. One that was seen before is repeated, and listed once as such. -/
def Sightings.note (sightings : Sightings) (name : String) : Sightings where
  seen := sightings.seen.insert name
  repeated :=
    if sightings.seen.contains name && !sightings.repeated.contains name then
      sightings.repeated ++ [name]
    else sightings.repeated

/-- What is noted of names, one after the other. -/
def sightings (names : List String) : Sightings :=
  names.foldl Sightings.note ⟨[], []⟩

/-- The names that stand more than once, in the order in which they are seen again. -/
def repeatedNames (names : List String) : List String :=
  (sightings names).repeated

/-- The names of more than one test case, in the order of their second declaration. -/
def duplicates (catalog : Catalog) : List String :=
  repeatedNames catalog.tests.names

/-- What is wrong with a catalog. -/
def problems (catalog : Catalog) : List String :=
  (catalog.duplicates.map fun name => s!"Duplicate test case name: {name}") ++
    catalog.unresolved.map fun reference =>
      s!"Test case '{reference.test}': references unknown query '{reference.query}'"

/-- Refuses a catalog with problems. -/
def validate (catalog : Catalog) : Except Failure Unit :=
  if catalog.problems.isEmpty then .ok () else .error (.invalidCatalog catalog.problems)

/-! ## Loading -/

/-- Reads both catalogs, the queries first. -/
def read (configuration : Configuration) (files : FileTree) : Except Failure Catalog := do
  let queriesPath := configuration.queriesPath
  let casesPath := configuration.casesPath
  let queries ← QueryCatalog.ofText? (← files.readFile queriesPath) queriesPath.text
  let tests ← TestCatalog.ofText? (← files.readFile casesPath) casesPath.text
  .ok ⟨queries, tests⟩

/-- Loads both catalogs with the records of it. -/
def load (configuration : Configuration) (files : FileTree) : Logged (Except Failure Catalog) :=
  match read configuration files with
  | .ok catalog =>
    ⟨.ok catalog, [.loading, .loaded catalog.queries.size catalog.tests.size]⟩
  | .error cause => ⟨.error cause, [.loading]⟩

end Catalog

end FixtureHarness
