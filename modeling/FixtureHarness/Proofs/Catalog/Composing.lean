import FixtureHarness.Proofs.Catalog.Resolving
import Mathlib.Data.List.Basic

/-! # Scripts of larger catalogs and of longer lists

A script is what its names contribute, one position after the other, so the script of two lists in a
row is that of the first with that of the second behind it. A catalog with more fragments inserts
them where their names stand and changes nothing else; a test case resolves to the same under any two
catalogs that agree on the names it lists.
-/

namespace FixtureHarness

namespace QueryCatalog

variable {queries larger other : QueryCatalog} {names : List String}

/-- What a name contributes to a script: its fragment, or nothing if it has none. -/
def contribution (queries : QueryCatalog) (name : String) : String :=
  (queries.get? name).getD ""

/-- All fragments of a catalog are in the other one, with the same texts. -/
def IsPartOf (queries larger : QueryCatalog) : Prop :=
  ∀ name text, queries.get? name = some text → larger.get? name = some text

/-- Whether a name has a fragment in the larger catalog only. -/
def isNew (queries larger : QueryCatalog) (name : String) : Bool :=
  !queries.contains name && larger.contains name

/-- What is inserted for a name: its fragment if the name is new. -/
def insertion (queries larger : QueryCatalog) (name : String) : String :=
  if queries.isNew larger name then larger.contribution name else ""

/-- How the composition of a list changes from a catalog to a larger one. -/
structure GrowsTo (queries larger : QueryCatalog) (names : List String) : Prop where
  /-- At first every position contributes what its name has in the catalog. -/
  before : (queries.compose names).script = String.join (names.map queries.contribution)
  /-- Then the fragments of new names are inserted, each at the position of its name. -/
  after : (larger.compose names).script =
    String.join (names.map fun name => queries.contribution name ++ queries.insertion larger name)
  /-- The new names are no longer missing; all others still are, in their order. -/
  missing : (larger.compose names).missing =
    (queries.compose names).missing.filter fun name => !queries.isNew larger name

/-! ## Lists -/

theorem compose_append (queries : QueryCatalog) (front back : List String) :
    queries.compose (front ++ back) =
      ⟨(queries.compose front).script ++ (queries.compose back).script,
        (queries.compose front).missing ++ (queries.compose back).missing⟩ := by
  simp only [compose_eq, List.filterMap_append, String.join_append, List.filter_append]

/-- A script is what its names contribute, in order. -/
theorem script_eq_contributions (queries : QueryCatalog) (names : List String) :
    (queries.compose names).script = String.join (names.map queries.contribution) := by
  rw [compose_script]
  induction names with
  | nil => rfl
  | cons name names ih =>
    rw [List.map_cons, String.join_cons, contribution]
    cases found : queries.get? name with
    | none => rw [List.filterMap_cons_none found, ih, Option.getD_none, String.empty_append]
    | some text => rw [List.filterMap_cons_some found, String.join_cons, ih, Option.getD_some]

/-! ## Larger catalogs -/

/-- A name contributes to the larger catalog what it did before, with its insertion behind it. -/
theorem IsPartOf.contribution_eq (part : queries.IsPartOf larger) (name : String) :
    larger.contribution name = queries.contribution name ++ queries.insertion larger name := by
  rw [insertion, isNew, contains_eq_isSome, contains_eq_isSome, contribution, contribution]
  cases found : queries.get? name with
  | some text => simp [part name text found]
  | none =>
    cases larger.get? name <;> simp

theorem IsPartOf.contains (part : queries.IsPartOf larger) {name : String}
    (held : queries.contains name = true) : larger.contains name = true := by
  rw [contains_eq_isSome, Option.isSome_iff_exists] at held ⊢
  obtain ⟨text, found⟩ := held
  exact ⟨text, part name text found⟩

theorem IsPartOf.growsTo (part : queries.IsPartOf larger) (names : List String) :
    queries.GrowsTo larger names := by
  refine ⟨script_eq_contributions queries names, ?_, ?_⟩
  · rw [script_eq_contributions]
    exact congrArg String.join (List.map_congr_left fun name _ => part.contribution_eq name)
  · rw [compose_missing, compose_missing, List.filter_filter]
    refine List.filter_congr fun name _ => ?_
    have grows : queries.contains name = true → larger.contains name = true := part.contains
    rw [isNew, ← Option.not_isSome, ← Option.not_isSome, ← contains_eq_isSome, ← contains_eq_isSome]
    cases held : queries.contains name with
    | true => simp [grows held]
    | false => simp

/-! ## Definitions that matter -/

/-- A composition is settled by what the names of its list have. -/
theorem compose_congr (agree : ∀ name ∈ names, other.get? name = queries.get? name) :
    other.compose names = queries.compose names := by
  have fragments : names.filterMap other.get? = names.filterMap queries.get? :=
    List.filterMap_congr agree
  have missing : (names.filter fun name => (other.get? name).isNone) =
      names.filter fun name => (queries.get? name).isNone :=
    List.filter_congr fun name member => by rw [agree name member]
  rw [compose_eq, compose_eq, fragments, missing]

end QueryCatalog

namespace Catalog

theorem resolve_congr {queries other : QueryCatalog} {tests : TestCatalog} {name : String}
    (agree : ∀ case, tests.find? name = some case →
      ∀ query ∈ case.queries, other.get? query = queries.get? query) :
    (Catalog.mk other tests).resolve name = (Catalog.mk queries tests).resolve name := by
  cases known : tests.find? name with
  | none => simp only [resolve, resolve?, resolveLog, known]
  | some case =>
    have same := QueryCatalog.compose_congr (agree case known)
    simp only [resolve, resolve?, resolveLog, known, fixture, same]

end Catalog

/-- Composing two lists in a row puts one composition behind the other. With a larger catalog the
script gains the texts of the new names, each at the position of its name, and the list of missing
names loses these names. What a name resolves to, and what is logged on the way, depends on nothing
but the fragments of the names that its test case lists. -/
theorem QueryCatalog.compose_by_definitions (queries : QueryCatalog) :
    (∀ front back, queries.compose (front ++ back) =
      ⟨(queries.compose front).script ++ (queries.compose back).script,
        (queries.compose front).missing ++ (queries.compose back).missing⟩) ∧
    (∀ larger, queries.IsPartOf larger → ∀ names, queries.GrowsTo larger names) ∧
    ∀ (other : QueryCatalog) (tests : TestCatalog) (name : String),
      (∀ case, tests.find? name = some case →
        ∀ query ∈ case.queries, other.get? query = queries.get? query) →
      (Catalog.mk other tests).resolve name = (Catalog.mk queries tests).resolve name :=
  ⟨queries.compose_append, fun _ part => part.growsTo, fun _ _ _ => Catalog.resolve_congr⟩

/-- A list with a name twice that is new, one with an empty fragment and one that stays missing. -/
theorem QueryCatalog.compose_with_one_more :
    let queries : QueryCatalog := ⟨[("a", "A;"), ("e", "")], by decide⟩
    let larger : QueryCatalog := ⟨[("a", "A;"), ("b", "B;"), ("e", "")], by decide⟩
    let names := ["b", "a", "x", "b", "e"]
    let tests : TestCatalog := ⟨[⟨"t1", ["e", "x"], "[]", "[]"⟩]⟩
    queries.IsPartOf larger ∧ queries.GrowsTo larger names ∧
      queries.compose names = ⟨"A;", ["b", "x", "b"]⟩ ∧
      larger.compose names = ⟨"B;A;B;", ["x"]⟩ ∧
      (Catalog.mk larger tests).resolve "t1" = (Catalog.mk queries tests).resolve "t1" := by
  intro queries larger names tests
  have part : queries.IsPartOf larger := by
    intro name text found
    by_cases first : "a" = name
    · subst first
      exact found
    by_cases last : "e" = name
    · subst last
      exact found
    · simp [queries, get?, lookupKey, first, last] at found
  obtain ⟨_, grows, resolves⟩ := queries.compose_by_definitions
  refine ⟨part, grows larger part names, by decide, by decide, resolves larger tests "t1" ?_⟩
  intro case known query member
  obtain rfl : (⟨"t1", ["e", "x"], "[]", "[]"⟩ : TestCase) = case := Option.some.inj known
  rcases List.mem_pair.mp member with rfl | rfl
  · rfl
  · rfl

end FixtureHarness
