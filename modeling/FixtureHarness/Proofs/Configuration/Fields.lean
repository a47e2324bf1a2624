import FixtureHarness.Configuration.Basic
import FixtureHarness.Proofs.Yaml.Trees

/-! # The fields of a configuration

Which trees are configurations, and which configuration a tree gives: the default one, with the
fields that are there replaced. Keys are known and not repeated, texts are scalars, and the two
records inside follow the same rule with fields of their own, or are left out.
-/

namespace FixtureHarness

namespace Configuration

open Yaml (Tree)

/-- A rule for each field of a record: its name, and what its value has to be. -/
abbrev Rules := List (String × (Tree → Prop))

/-- A scalar, whatever its text is. -/
def IsScalar (tree : Tree) : Prop :=
  tree.text?.isSome

/-- A sequence of scalars, or nothing. -/
def IsTexts (tree : Tree) : Prop :=
  tree.texts?.isSome

/-- A mapping of known fields, none of them repeated and each with a value as its rule wants it, or
nothing. -/
def HasFields (rules : Rules) (tree : Tree) : Prop :=
  ∃ entries, tree.entries? = some entries ∧ (entries.map fun entry => entry.1.text?).Nodup ∧
    ∀ entry ∈ entries, ∃ rule ∈ rules, entry.1.text? = some rule.1 ∧ rule.2 entry.2

/-! ## The three records -/

/-- The rules of the fixture names. -/
def fixtureRules : Rules :=
  [("statements", IsScalar), ("input", IsScalar), ("output", IsScalar)]

/-- The rules of the runner settings. -/
def runnerRules : Rules :=
  [("program", IsScalar), ("args", IsTexts), ("script_flag", IsScalar), ("input_flag", IsScalar),
    ("output_flag", IsScalar)]

/-- The rules of a configuration. -/
def rules : Rules :=
  [("root_dir", IsScalar), ("queries_file", IsScalar), ("test_data_file", IsScalar),
    ("fixture_dir", IsScalar), ("fixtures", HasFields fixtureRules),
    ("runner", HasFields runnerRules)]

/-- The fixture names with the fields of a tree in place of what they are. -/
def fixturesFrom (names : FixtureNames) (tree : Tree) : FixtureNames where
  statements := tree.valueOr "statements" Tree.text names.statements
  input := tree.valueOr "input" Tree.text names.input
  output := tree.valueOr "output" Tree.text names.output

/-- The runner settings with the fields of a tree in place of what they are. -/
def runnerFrom (settings : RunnerSettings) (tree : Tree) : RunnerSettings where
  program := tree.valueOr "program" Tree.text settings.program
  arguments := tree.valueOr "args" (fun value => value.texts?.getD []) settings.arguments
  scriptFlag := tree.valueOr "script_flag" Tree.text settings.scriptFlag
  inputFlag := tree.valueOr "input_flag" Tree.text settings.inputFlag
  outputFlag := tree.valueOr "output_flag" Tree.text settings.outputFlag

/-- A configuration with the fields of a tree in place of what they are. The records inside start
from their defaults. -/
def configurationFrom (configuration : Configuration) (tree : Tree) : Configuration where
  root := tree.valueOr "root_dir" (fun value => ⟨value.text⟩) configuration.root
  queriesFile := tree.valueOr "queries_file" (fun value => ⟨value.text⟩) configuration.queriesFile
  casesFile := tree.valueOr "test_data_file" (fun value => ⟨value.text⟩) configuration.casesFile
  fixtureDirectory :=
    tree.valueOr "fixture_dir" (fun value => ⟨value.text⟩) configuration.fixtureDirectory
  fixtures := tree.valueOr "fixtures" (fixturesFrom {}) configuration.fixtures
  runner := tree.valueOr "runner" (runnerFrom {}) configuration.runner

/-! ## One entry more or less -/

section

variable {fields : Rules} {tree key value other otherKey : Tree}
  {front rest entries others : List (Tree × Tree)}

theorem hasFields_of_entries (given : tree.entries? = some entries) :
    HasFields fields tree ↔ HasFields fields (.mapping entries) := by
  rw [HasFields, HasFields, given]
  rfl

theorem hasFields_mapping :
    HasFields fields (.mapping entries) ↔ (entries.map fun entry => entry.1.text?).Nodup ∧
      ∀ entry ∈ entries, ∃ rule ∈ fields, entry.1.text? = some rule.1 ∧ rule.2 entry.2 := by
  constructor
  · rintro ⟨_, same, fits⟩
    obtain rfl := Option.some.inj same
    exact fits
  · intro fits
    exact ⟨entries, rfl, fits⟩

theorem HasFields.perm (fits : HasFields fields (.mapping entries))
    (permuted : entries.Perm others) : HasFields fields (.mapping others) := by
  rw [hasFields_mapping] at fits ⊢
  refine ⟨(permuted.map _).nodup_iff.mp fits.1, fun entry member => ?_⟩
  exact fits.2 entry (permuted.mem_iff.mpr member)

/-- A mapping with an entry fits if the mapping without it does, and the entry is one of a known
field that the others do not have. -/
theorem hasFields_cons :
    HasFields fields (.mapping ((key, value) :: rest)) ↔
      HasFields fields (.mapping rest) ∧
        (∃ rule ∈ fields, key.text? = some rule.1 ∧ rule.2 value) ∧
        ∀ entry ∈ rest, entry.1.text? ≠ key.text? := by
  have absent : key.text? ∉ rest.map (fun entry => entry.1.text?) ↔
      ∀ entry ∈ rest, entry.1.text? ≠ key.text? := by
    simp only [List.mem_map, not_exists, not_and]
  rw [hasFields_mapping, hasFields_mapping, List.map_cons, List.nodup_cons,
    List.forall_mem_cons, absent]
  tauto

/-- It does not matter where the entry stands. -/
theorem hasFields_insert :
    HasFields fields (.mapping (front ++ (key, value) :: rest)) ↔
      HasFields fields (.mapping (front ++ rest)) ∧
        (∃ rule ∈ fields, key.text? = some rule.1 ∧ rule.2 value) ∧
        ∀ entry ∈ front ++ rest, entry.1.text? ≠ key.text? := by
  have moved : (front ++ (key, value) :: rest).Perm ((key, value) :: (front ++ rest)) :=
    List.perm_middle
  rw [← hasFields_cons]
  exact ⟨fun fits => fits.perm moved, fun fits => fits.perm moved.symm⟩

/-- An entry may be given another value that its rule allows. -/
theorem HasFields.replace (fits : HasFields fields (.mapping (front ++ (key, value) :: rest)))
    (named : otherKey.text? = key.text?)
    (allowed : ∀ rule ∈ fields, key.text? = some rule.1 → rule.2 value → rule.2 other) :
    HasFields fields (.mapping (front ++ (otherKey, other) :: rest)) := by
  rw [hasFields_insert] at fits ⊢
  obtain ⟨others, ⟨rule, member, known, valid⟩, absent⟩ := fits
  exact ⟨others, ⟨rule, member, named.trans known, allowed rule member known valid⟩, named ▸ absent⟩

end

end Configuration

end FixtureHarness
