import FixtureHarness.Catalog.Basic

/-! # What a name resolves to

A script is composed name by name: of a list it holds the fragments in order, and what is missing
are the names without a fragment, each as often as it is listed. Resolving fails for names without a
test case only.
-/

namespace FixtureHarness

namespace QueryCatalog

theorem contains_eq_isSome (queries : QueryCatalog) (name : String) :
    queries.contains name = (queries.get? name).isSome := by
  rw [contains, get?, lookupKey, Option.isSome_map, List.isSome_find?]

/-- Names add to a composition what they have: some a fragment, and the others themselves. -/
theorem foldl_add (queries : QueryCatalog) (composition : Composition) (names : List String) :
    names.foldl (Composition.add queries) composition =
      ⟨composition.script ++ String.join (names.filterMap queries.get?),
        composition.missing ++ names.filter fun name => (queries.get? name).isNone⟩ := by
  induction names generalizing composition with
  | nil => simp
  | cons name rest ih =>
    rw [List.foldl_cons, ih, Composition.add]
    cases found : queries.get? name with
    | some text => simp [found, String.append_assoc]
    | none => simp [found]

theorem compose_eq (queries : QueryCatalog) (names : List String) :
    queries.compose names =
      ⟨String.join (names.filterMap queries.get?),
        names.filter fun name => (queries.get? name).isNone⟩ := by
  rw [compose, foldl_add, String.empty_append, List.nil_append]

theorem compose_script (queries : QueryCatalog) (names : List String) :
    (queries.compose names).script = String.join (names.filterMap queries.get?) := by
  rw [compose_eq]

theorem compose_missing (queries : QueryCatalog) (names : List String) :
    (queries.compose names).missing = names.filter fun name => (queries.get? name).isNone := by
  rw [compose_eq]

end QueryCatalog

namespace Catalog

variable {catalog : Catalog} {name : String}

/-- A test case resolves to its own datasets, and to the fragments of its queries in order. -/
theorem fixture_eq (catalog : Catalog) (record : TestCase) :
    catalog.fixture record =
      { test := record.name
        script := String.join (record.queries.filterMap catalog.queries.get?)
        input := record.input
        output := record.output
        missing := record.queries.filter fun query => (catalog.queries.get? query).isNone } := by
  rw [fixture, QueryCatalog.compose_eq]

theorem resolve_of_unknown (unknown : catalog.tests.find? name = none) :
    (catalog.resolve name).result = .error (.unknownTestCase name) := by
  simp only [resolve, resolve?, unknown]

theorem resolve_of_known {case : TestCase} (known : catalog.tests.find? name = some case) :
    (catalog.resolve name).result = .ok (catalog.fixture case) := by
  simp only [resolve, resolve?, known]

/-- The case that a name finds has that name. -/
theorem name_of_find? {case : TestCase} (known : catalog.tests.find? name = some case) :
    case.name = name := by
  simpa using List.find?_some known

end Catalog

end FixtureHarness
