import FixtureHarness.Proofs.Catalog.Namesakes
import FixtureHarness.Proofs.Catalog.Resolving

/-! # What validation promises

A catalog is valid exactly if every name finds its own test case and resolves to a fixture without
missing queries. Validation looks at all test cases, resolving only at those that a name finds;
where both look, they miss the same queries.
-/

namespace FixtureHarness.Catalog

variable {catalog : Catalog} {name : String} {position : Nat} {record : TestCase}

/-- A catalog with other test cases. -/
def withCases (catalog : Catalog) (cases : List TestCase) : Catalog :=
  { catalog with tests := ⟨cases⟩ }

/-- Looking up which names are there finds the same missing queries as composing the script. -/
theorem unresolved_eq_flatMap (catalog : Catalog) :
    catalog.unresolved = catalog.tests.cases.flatMap fun record =>
      (catalog.fixture record).missing.map (Reference.mk record.name) := by
  rw [unresolved]
  refine List.flatMap_congr fun record _ => ?_
  rw [fixture_eq]
  simp only [QueryCatalog.contains_eq_isSome, Option.not_isSome]

theorem unresolved_withCases_append (catalog : Catalog) (front back : List TestCase) :
    (catalog.withCases (front ++ back)).unresolved =
      (catalog.withCases front).unresolved ++ (catalog.withCases back).unresolved :=
  List.flatMap_append

theorem unresolved_withCases_cons (catalog : Catalog) (record : TestCase) (back : List TestCase) :
    (catalog.withCases (record :: back)).unresolved =
      (catalog.fixture record).missing.map (Reference.mk record.name) ++
        (catalog.withCases back).unresolved := by
  rw [unresolved_eq_flatMap, unresolved_eq_flatMap]
  exact List.flatMap_cons

/-- The references of one test case stand between those of the others. -/
theorem unresolved_at (position : Fin catalog.tests.cases.length) :
    let cases := catalog.tests.cases
    let record := cases.get position
    catalog.unresolved =
      (catalog.withCases (cases.take position)).unresolved ++
        (catalog.fixture record).missing.map (Reference.mk record.name) ++
        (catalog.withCases (cases.drop (position + 1))).unresolved := by
  intro cases record
  have split : cases.take position ++ record :: cases.drop (position + 1) = cases := by
    simp [record]
  have whole : catalog.unresolved = (catalog.withCases cases).unresolved := rfl
  rw [whole, List.append_assoc, ← unresolved_withCases_cons, ← unresolved_withCases_append, split]

theorem unresolved_eq_nil_iff :
    catalog.unresolved = [] ↔
      ∀ record ∈ catalog.tests.cases, (catalog.fixture record).missing = [] := by
  simp only [unresolved_eq_flatMap, List.flatMap_eq_nil_iff, List.map_eq_nil_iff]

theorem validate_eq_ok_iff :
    catalog.validate = .ok () ↔ catalog.duplicates = [] ∧ catalog.unresolved = [] := by
  have none : catalog.problems = [] ↔ catalog.duplicates = [] ∧ catalog.unresolved = [] := by
    simp only [problems, List.append_eq_nil_iff, List.map_eq_nil_iff]
  rw [← none, validate]
  cases catalog.problems with
  | nil => simp
  | cons problem rest => simp

/-- A test case that its name finds is the one that the name resolves to. -/
theorem resolve_of_position? (found : catalog.tests.position? name = some position)
    (there : catalog.tests.cases[position]? = some record) :
    (catalog.resolve name).result = .ok (catalog.fixture record) := by
  apply resolve_of_known
  rw [TestCatalog.find?_eq_bind_position?, found, Option.bind_some, there]

/-- The names have no duplicates exactly if every test case is found by its name. -/
theorem duplicates_eq_nil_iff_position? :
    catalog.duplicates = [] ↔ ∀ position : Fin catalog.tests.cases.length,
      catalog.tests.position? (catalog.tests.cases.get position).name = some position.val := by
  rw [duplicates_eq_nil_iff, TestCatalog.nodup_names_iff]
  constructor
  · intro found position
    exact found position _ (TestCatalog.names_getElem? position)
  · intro found position name named
    obtain ⟨record, there, rfl⟩ := Option.map_eq_some_iff.mp (List.getElem?_map.symm.trans named)
    obtain ⟨inside, rfl⟩ := List.getElem?_eq_some_iff.mp there
    exact found ⟨position, inside⟩

/-- A catalog is valid exactly if the name of every test case finds this test case itself and
resolves to a fixture without missing queries. What a fixture misses are those queries of its test
case that have no fragment, and these are the references that validation lists for the test case,
between those of the test cases before and behind, in the same order and as often. -/
theorem validate_ok_iff_resolves (catalog : Catalog) :
    let cases := catalog.tests.cases
    (catalog.validate = .ok () ↔
      (∀ position : Fin cases.length,
        catalog.tests.position? (cases.get position).name = some position.val) ∧
      ∀ position : Fin cases.length, ∃ fixture,
        (catalog.resolve (cases.get position).name).result = .ok fixture ∧ fixture.missing = []) ∧
    ∀ position : Fin cases.length,
      let name := (cases.get position).name
      catalog.tests.position? name = some position.val →
        ∃ fixture, (catalog.resolve name).result = .ok fixture ∧
          fixture.missing = ((cases.get position).queries.filter fun query =>
            (catalog.queries.get? query).isNone) ∧
          catalog.unresolved =
            (catalog.withCases (cases.take position)).unresolved ++
              fixture.missing.map (Reference.mk name) ++
              (catalog.withCases (cases.drop (position + 1))).unresolved := by
  intro cases
  have resolved (position : Fin cases.length)
      (found : catalog.tests.position? (cases.get position).name = some position.val) :
      (catalog.resolve (cases.get position).name).result =
        .ok (catalog.fixture (cases.get position)) :=
    resolve_of_position? found (List.getElem?_eq_getElem position.isLt)
  refine ⟨?_, ?_⟩
  · rw [validate_eq_ok_iff, duplicates_eq_nil_iff_position?, unresolved_eq_nil_iff]
    refine and_congr_right fun found => ?_
    constructor
    · intro complete position
      exact ⟨_, resolved position (found position), complete _ (List.get_mem cases position)⟩
    · intro complete record member
      obtain ⟨position, rfl⟩ := List.get_of_mem member
      obtain ⟨fixture, isFixture, none⟩ := complete position
      obtain rfl := Except.ok.inj (isFixture.symm.trans (resolved position (found position)))
      exact none
  · intro position name found
    refine ⟨_, resolved position found, ?_, unresolved_at position⟩
    rw [fixture_eq]

/-- A catalog with a hidden test case, and a reference that is missed twice. -/
def shadowed : Catalog :=
  ⟨.ofEntries [("q1", "SELECT 1;")],
    ⟨[⟨"t1", ["q1"], "[]", "[]"⟩, ⟨"t2", ["ghost", "q1", "ghost"], "[]", "[]"⟩,
      ⟨"t1", ["lost"], "{}", "{}"⟩]⟩⟩

theorem shadowed_unresolved :
    shadowed.tests.position? "t2" = some 1 ∧ ∃ fixture,
      (shadowed.resolve "t2").result = .ok fixture ∧
        (fixture.missing = ["ghost", "q1", "ghost"].filter fun query =>
          (shadowed.queries.get? query).isNone) ∧
        shadowed.unresolved =
          (shadowed.withCases (shadowed.tests.cases.take 1)).unresolved ++
            fixture.missing.map (Reference.mk "t2") ++
            (shadowed.withCases (shadowed.tests.cases.drop 2)).unresolved :=
  ⟨rfl, (validate_ok_iff_resolves shadowed).2 ⟨1, by decide⟩ rfl⟩

end FixtureHarness.Catalog
