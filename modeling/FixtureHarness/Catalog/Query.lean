import FixtureHarness.Failure
import FixtureHarness.Json.Reader
import FixtureHarness.Json.Sorted

/-! # The query catalog

The named query fragments that scripts are composed from, sorted by name, so that every name stands
once. Reading keeps the last text of a repeated name.
-/

namespace FixtureHarness

/-- Query fragments by name, sorted by the bytes of their names. -/
structure QueryCatalog where
  entries : List (String × String)
  sorted : IsSorted entries
  deriving DecidableEq, Repr

namespace QueryCatalog

instance : Inhabited QueryCatalog :=
  ⟨⟨[], .nil⟩⟩

/-- The catalog of some named fragments; of fragments with one name the last counts. -/
def ofEntries (entries : List (String × String)) : QueryCatalog :=
  ⟨sortEntries entries, isSorted_sortEntries entries⟩

/-- The fragment of a name. -/
def get? (catalog : QueryCatalog) (name : String) : Option String :=
  lookupKey name catalog.entries

/-- Whether a name has a fragment. -/
def contains (catalog : QueryCatalog) (name : String) : Bool :=
  catalog.entries.any fun entry => entry.1 = name

/-- The number of fragments. -/
def size (catalog : QueryCatalog) : Nat :=
  catalog.entries.length

/-- The names of the fragments, in order. -/
def names (catalog : QueryCatalog) : List String :=
  catalog.entries.map (·.1)

/-- Reads an object of strings. -/
def reader : Json.Reader QueryCatalog := fun cursor => do
  let (entries, cursor) ← Json.readMap Json.readText cursor
  .ok (ofEntries entries, cursor)

/-- Reads a catalog from the text of a file. -/
def ofText? (text file : String) : Except Failure QueryCatalog :=
  match Json.readAll reader text with
  | .ok catalog => .ok catalog
  | .error error => .error (.catalogText file (error.message text))

end QueryCatalog

end FixtureHarness
