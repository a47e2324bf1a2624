import FixtureHarness.Proofs.Configuration.Fields

/-! # What the layout of a configuration does not change

A configuration is the same in whatever order its entries stand, and a field may be left out or
written with its default. One more entry, of a key that no rule knows or that is there already, is
never accepted, at whatever depth it stands.
-/

namespace FixtureHarness.Configuration

open Yaml (Tree)

variable {Record : Type} {fields : Rules} {tree other key value otherKey changed : Tree}
  {front rest entries others : List (Tree × Tree)}

/-- Where a tree gives a record, the other gives the same. -/
def GivesSame (fields : Rules) (update : Tree → Record) (tree other : Tree) : Prop :=
  HasFields fields tree → HasFields fields other ∧ update other = update tree

theorem GivesSame.refl (update : Tree → Record) (tree : Tree) : GivesSame fields update tree tree :=
  fun fits => ⟨fits, rfl⟩

theorem GivesSame.trans {update : Tree → Record} {last : Tree}
    (first : GivesSame fields update tree other) (second : GivesSame fields update other last) :
    GivesSame fields update tree last := by
  intro fits
  obtain ⟨fitsToo, same⟩ := first fits
  obtain ⟨fitsLast, sameLast⟩ := second fitsToo
  exact ⟨fitsLast, sameLast.trans same⟩

/-- The value under a key is what the rule of the key allows. -/
theorem HasFields.allowed (fits : HasFields fields (.mapping (front ++ (key, value) :: rest)))
    (distinct : (fields.map (·.1)).Nodup) {rule : String × (Tree → Prop)} (member : rule ∈ fields)
    (named : key.text? = some rule.1) : rule.2 value := by
  obtain ⟨_, ⟨other, otherMember, otherNamed, allowed⟩, _⟩ := hasFields_insert.mp fits
  have same : other = rule :=
    List.inj_on_of_nodup_map distinct otherMember member
      (Option.some.inj (otherNamed.symm.trans named))
  exact same ▸ allowed

theorem fixtures_mem_rules : ("fixtures", HasFields fixtureRules) ∈ rules := by
  simp [rules]

theorem runner_mem_rules : ("runner", HasFields runnerRules) ∈ rules := by
  simp [rules]

/-! ## Another order of entries -/

/-- The trees are read the same as whatever they are read. -/
structure Alike (tree other : Tree) : Prop where
  text : other.text? = tree.text?
  texts : other.texts? = tree.texts?
  fixtures : GivesSame fixtureRules (fixturesFrom {}) tree other
  runner : GivesSame runnerRules (runnerFrom {}) tree other
  configuration : GivesSame rules (configurationFrom {}) tree other

/-- The order of entries does not matter for what depends on the values under names. -/
theorem GivesSame.of_perm {update : Tree → Record} (permuted : entries.Perm others)
    (depends : ∀ {tree other : Tree}, (∀ name, other.field? name = tree.field? name) →
      update other = update tree) :
    GivesSame fields update (.mapping entries) (.mapping others) := by
  intro fits
  have distinct := (hasFields_mapping.mp fits).1
  exact ⟨fits.perm permuted, depends fun _ => Tree.field?_perm permuted distinct⟩

/-- An entry may be replaced by one that is read the same. -/
theorem GivesSame.of_replace {update : Tree → Record} (named : otherKey.text? = key.text?)
    (allowed : ∀ rule ∈ fields, key.text? = some rule.1 → rule.2 value → rule.2 changed)
    (same : HasFields fields (.mapping (front ++ (key, value) :: rest)) →
      (∀ entry ∈ front ++ rest, entry.1.text? ≠ key.text?) →
      update (.mapping (front ++ (otherKey, changed) :: rest)) =
        update (.mapping (front ++ (key, value) :: rest))) :
    GivesSame fields update (.mapping (front ++ (key, value) :: rest))
      (.mapping (front ++ (otherKey, changed) :: rest)) := by
  intro fits
  obtain ⟨_, _, absent⟩ := hasFields_insert.mp fits
  exact ⟨fits.replace named allowed, same fits absent⟩

/-- For a configuration, the value of a record has to be read the same as this record, and any other
value as a text. -/
theorem GivesSame.of_value (named : otherKey.text? = key.text?)
    (text : key.text? ≠ some "fixtures" → key.text? ≠ some "runner" → changed.text? = value.text?)
    (fixtures : key.text? = some "fixtures" →
      GivesSame fixtureRules (fixturesFrom {}) value changed)
    (runner : key.text? = some "runner" → GivesSame runnerRules (runnerFrom {}) value changed) :
    GivesSame rules (configurationFrom {}) (.mapping (front ++ (key, value) :: rest))
      (.mapping (front ++ (otherKey, changed) :: rest)) := by
  have scalar (name : String) (own : name ≠ "fixtures" ∧ name ≠ "runner")
      (held : key.text? = some name) : changed.text? = value.text? :=
    text (by simp [held, own.1]) (by simp [held, own.2])
  refine .of_replace named ?_ fun fits absent => ?_
  · have isScalar (name : String) (own : name ≠ "fixtures" ∧ name ≠ "runner")
        (held : key.text? = some name) (given : IsScalar value) : IsScalar changed := by
      rwa [IsScalar, scalar name own held]
    simp only [rules, List.forall_mem_cons]
    exact ⟨isScalar _ (by decide), isScalar _ (by decide), isScalar _ (by decide),
      isScalar _ (by decide), fun held given => (fixtures held given).1,
      fun held given => (runner held given).1, by simp⟩
  · have path (name : String) (own : name ≠ "fixtures" ∧ name ≠ "runner") (default : Path) :=
      Tree.valueOr_replace absent named name (fun value => Path.mk value.text) default
        fun held => congrArg (fun text? => Path.mk (text?.getD "")) (scalar name own held)
    have names := Tree.valueOr_replace absent named "fixtures" (fixturesFrom {}) {}
      fun held => (fixtures held (fits.allowed (by decide) fixtures_mem_rules held)).2
    have settings := Tree.valueOr_replace absent named "runner" (runnerFrom {}) {}
      fun held => (runner held (fits.allowed (by decide) runner_mem_rules held)).2
    rw [configurationFrom, configurationFrom, names, settings, path "root_dir" (by decide),
      path "queries_file" (by decide), path "test_data_file" (by decide),
      path "fixture_dir" (by decide)]

theorem GivesSame.of_fixtures (below : key.text? = some "fixtures")
    (same : GivesSame fixtureRules (fixturesFrom {}) value changed) :
    GivesSame rules (configurationFrom {}) (.mapping (front ++ (key, value) :: rest))
      (.mapping (front ++ (key, changed) :: rest)) :=
  .of_value rfl (fun other => absurd below other) (fun _ => same)
    fun other => absurd (below.symm.trans other) (by decide)

theorem GivesSame.of_runner (below : key.text? = some "runner")
    (same : GivesSame runnerRules (runnerFrom {}) value changed) :
    GivesSame rules (configurationFrom {}) (.mapping (front ++ (key, value) :: rest))
      (.mapping (front ++ (key, changed) :: rest)) :=
  .of_value rfl (fun _ other => absurd below other)
    (fun other => absurd (below.symm.trans other) (by decide)) fun _ => same

theorem Alike.refl (tree : Tree) : Alike tree tree :=
  ⟨rfl, rfl, .refl _ _, .refl _ _, .refl _ _⟩

theorem Alike.trans {last : Tree} (first : Alike tree other) (second : Alike other last) :
    Alike tree last :=
  ⟨second.text.trans first.text, second.texts.trans first.texts,
    first.fixtures.trans second.fixtures, first.runner.trans second.runner,
    first.configuration.trans second.configuration⟩

theorem Alike.of_perm (permuted : entries.Perm others) :
    Alike (.mapping entries) (.mapping others) where
  text := rfl
  texts := rfl
  fixtures := .of_perm permuted fun same => by simp only [fixturesFrom, Tree.valueOr, same]
  runner := .of_perm permuted fun same => by simp only [runnerFrom, Tree.valueOr, same]
  configuration := .of_perm permuted fun same => by
    simp only [configurationFrom, Tree.valueOr, same]

section

variable (keys : Alike key otherKey) (values : Alike value changed)
include values

theorem Alike.isScalar (scalar : IsScalar value) : IsScalar changed := by
  rwa [IsScalar, values.text]

theorem Alike.isTexts (texts : IsTexts value) : IsTexts changed := by
  rwa [IsTexts, values.texts]

include keys

/-- An entry may be replaced by an alike one. -/
theorem Alike.of_replace :
    Alike (.mapping (front ++ (key, value) :: rest))
      (.mapping (front ++ (otherKey, changed) :: rest)) := by
  have sameText : changed.text = value.text := by rw [Tree.text, Tree.text, values.text]
  have sameTexts : changed.texts?.getD [] = value.texts?.getD [] := by rw [values.texts]
  have fixtures : ∀ rule ∈ fixtureRules, rule.2 value → rule.2 changed := by
    simp only [fixtureRules, List.forall_mem_cons]
    exact ⟨values.isScalar, values.isScalar, values.isScalar, by simp⟩
  have runner : ∀ rule ∈ runnerRules, rule.2 value → rule.2 changed := by
    simp only [runnerRules, List.forall_mem_cons]
    exact ⟨values.isScalar, values.isTexts, values.isScalar, values.isScalar, values.isScalar,
      by simp⟩
  refine ⟨rfl, rfl,
    .of_replace keys.text (fun rule member _ => fixtures rule member) fun _ absent => ?_,
    .of_replace keys.text (fun rule member _ => runner rule member) fun _ absent => ?_,
    .of_value keys.text (fun _ _ => values.text) (fun _ => values.fixtures) fun _ => values.runner⟩
  · have texts (name default : String) :=
      Tree.valueOr_replace absent keys.text name Tree.text default fun _ => sameText
    simp only [fixturesFrom, texts]
  · have texts (name default : String) :=
      Tree.valueOr_replace absent keys.text name Tree.text default fun _ => sameText
    have arguments := Tree.valueOr_replace absent keys.text "args"
      (fun value => value.texts?.getD []) [] fun _ => sameTexts
    simp only [runnerFrom, texts, arguments]

end

theorem Alike.of_item {front rest : List Tree} {item otherItem : Tree}
    (items : Alike item otherItem) :
    Alike (.sequence (front ++ item :: rest)) (.sequence (front ++ otherItem :: rest)) where
  text := rfl
  texts := by simp only [Tree.texts?, List.mapM_append, List.mapM_cons, items.text]
  fixtures := fun ⟨_, given, _⟩ => nomatch given
  runner := fun ⟨_, given, _⟩ => nomatch given
  configuration := fun ⟨_, given, _⟩ => nomatch given

/-- Whatever the order of their entries is, trees are read the same. -/
theorem Alike.of_reorders (reorders : Tree.Reorders tree other) : Alike tree other := by
  -- A change below a field is read by the reading of this field, so all readings go along.
  induction reorders with
  | refl tree => exact .refl tree
  | perm permuted => exact .of_perm permuted
  | entry _ _ key value => exact .of_replace key value
  | item _ ih => exact .of_item ih
  | trans _ _ first second => exact first.trans second

/-! ## Fields with their defaults -/

/-- The places of the texts of a configuration, with the texts that stand there by default. -/
def defaultTexts : List (List String × String) := [
  (["root_dir"], "."),
  (["queries_file"], "transformer_queries.json"),
  (["test_data_file"], "test_files/transformer_test_data.json"),
  (["fixture_dir"], "test_files"),
  (["fixtures", "statements"], "statements.sql"),
  (["fixtures", "input"], "input.json"),
  (["fixtures", "output"], "output.json"),
  (["runner", "program"], "ksql-test-runner"),
  (["runner", "script_flag"], "-s"),
  (["runner", "input_flag"], "-i"),
  (["runner", "output_flag"], "-o")]

/-- A tree writes the default of the field at a place: the text of the place, no arguments, or a
record without fields. -/
def IsDefault (place : List String) (tree : Tree) : Prop :=
  (∃ text, (place, text) ∈ defaultTexts ∧ tree.text? = some text) ∨
    (place = ["runner", "args"] ∧ tree.texts? = some []) ∨
    (place = ["fixtures"] ∨ place = ["runner"]) ∧ tree.entries? = some []

/-- A record is the same with one entry more that a rule knows and that changes nothing. -/
theorem GivesSame.of_insert {update : Tree → Record} (given : tree.entries? = some (front ++ rest))
    (absent : ∀ entry ∈ front ++ rest, entry.1.text? ≠ key.text?)
    {rule : String × (Tree → Prop)} (known : rule ∈ fields) (named : key.text? = some rule.1)
    (allowed : rule.2 value)
    (same : update (.mapping (front ++ (key, value) :: rest)) = update tree) :
    GivesSame fields update tree (.mapping (front ++ (key, value) :: rest)) ∧
      GivesSame fields update (.mapping (front ++ (key, value) :: rest)) tree := by
  constructor
  · intro fits
    have before := (hasFields_of_entries given).mp fits
    exact ⟨hasFields_insert.mpr ⟨before, ⟨rule, known, named, allowed⟩, absent⟩, same⟩
  · intro fits
    exact ⟨(hasFields_of_entries given).mpr (hasFields_insert.mp fits).1, same.symm⟩

/-- The default of a text is a scalar with this text. -/
theorem IsDefault.text {place : List String} {text : String} (default : IsDefault place value)
    (member : (place, text) ∈ defaultTexts) : IsScalar value ∧ value.text = text := by
  rcases default with ⟨other, otherMember, held⟩ | ⟨rfl, _⟩ | ⟨rfl | rfl, _⟩
  · have distinct : (defaultTexts.map (·.1)).Nodup := by decide
    obtain ⟨_, rfl⟩ := Prod.mk.inj (List.inj_on_of_nodup_map distinct otherMember member rfl)
    exact ⟨by rw [IsScalar, held]; rfl, by rw [Tree.text, held]; rfl⟩
  all_goals simp [defaultTexts] at member

theorem fixturesFrom_of_nothing (given : value.entries? = some []) (names : FixtureNames) :
    fixturesFrom names value = names := by
  simp [fixturesFrom, Tree.valueOr, Tree.field?, given]

theorem runnerFrom_of_nothing (given : value.entries? = some []) (settings : RunnerSettings) :
    runnerFrom settings value = settings := by
  simp [runnerFrom, Tree.valueOr, Tree.field?, given]

/-- The default of a record is one without fields. -/
theorem IsDefault.record {name : String} (default : IsDefault [name] value)
    (record : name = "fixtures" ∨ name = "runner") : value.entries? = some [] := by
  rcases default with ⟨text, member, _⟩ | ⟨elsewhere, _⟩ | ⟨_, given⟩
  · rcases record with rfl | rfl <;> simp [defaultTexts] at member
  · simp at elsewhere
  · exact given

theorem IsDefault.arguments (default : IsDefault ["runner", "args"] value) :
    value.texts? = some [] := by
  rcases default with ⟨text, member, _⟩ | ⟨_, given⟩ | ⟨elsewhere | elsewhere, _⟩
  · simp [defaultTexts] at member
  · exact given
  · simp at elsewhere
  · simp at elsewhere

/-- What is written by default is what the rule of the field allows. -/
theorem IsDefault.rule {name : String} (default : IsDefault [name] value) :
    ∃ rule ∈ rules, name = rule.1 ∧ rule.2 value := by
  have nothing (fields : Rules) (given : value.entries? = some []) : HasFields fields value :=
    ⟨[], given, by simp, by simp⟩
  rcases id default with ⟨text, member, _⟩ | ⟨elsewhere, _⟩ | ⟨same | same, given⟩
  · have scalar := (default.text member).1
    simp only [defaultTexts, List.mem_cons, Prod.mk.injEq, List.cons.injEq, and_true] at member
    rcases member with ⟨rfl, _⟩ | ⟨rfl, _⟩ | ⟨rfl, _⟩ | ⟨rfl, _⟩ | member
    any_goals simp [rules, scalar]
    simp at member
  · simp at elsewhere
  · exact ⟨_, fixtures_mem_rules, (List.cons.inj same).1, nothing fixtureRules given⟩
  · exact ⟨_, runner_mem_rules, (List.cons.inj same).1, nothing runnerRules given⟩

theorem IsDefault.fixtureRule {name : String} (default : IsDefault ["fixtures", name] value) :
    ∃ rule ∈ fixtureRules, name = rule.1 ∧ rule.2 value := by
  rcases id default with ⟨text, member, _⟩ | ⟨elsewhere, _⟩ | ⟨elsewhere | elsewhere, _⟩
  · have scalar := (default.text member).1
    have names : name = "statements" ∨ name = "input" ∨ name = "output" := by
      simp [defaultTexts] at member
      tauto
    rcases names with rfl | rfl | rfl <;> simp [fixtureRules, scalar]
  all_goals simp at elsewhere

theorem IsDefault.runnerRule {name : String} (default : IsDefault ["runner", name] value) :
    ∃ rule ∈ runnerRules, name = rule.1 ∧ rule.2 value := by
  rcases id default with ⟨text, member, _⟩ | ⟨same, given⟩ | ⟨elsewhere | elsewhere, _⟩
  · have scalar := (default.text member).1
    have names : name = "program" ∨ name = "script_flag" ∨ name = "input_flag" ∨
        name = "output_flag" := by
      simp [defaultTexts] at member
      tauto
    rcases names with rfl | rfl | rfl | rfl <;> simp [runnerRules, scalar]
  · obtain rfl : name = "args" := by simpa using same
    have texts : IsTexts value := by simp [IsTexts, given]
    simp [runnerRules, texts]
  all_goals simp at elsewhere

section

variable {name : String} (given : tree.entries? = some (front ++ rest))
  (absent : ∀ entry ∈ front ++ rest, entry.1.text? ≠ key.text?) (named : key.text? = some name)
include given absent named

theorem fixtures_insert_default (default : IsDefault ["fixtures", name] value) :
    GivesSame fixtureRules (fixturesFrom {}) tree (.mapping (front ++ (key, value) :: rest)) ∧
      GivesSame fixtureRules (fixturesFrom {}) (.mapping (front ++ (key, value) :: rest)) tree := by
  obtain ⟨rule, known, same, allowed⟩ := default.fixtureRule
  have text (own text : String) (member : (["fixtures", own], text) ∈ defaultTexts) :=
    Tree.valueOr_insert_default given absent own Tree.text text fun held => by
      obtain rfl := Option.some.inj (named.symm.trans held)
      exact (default.text member).2
  refine GivesSame.of_insert given absent known (same ▸ named) allowed ?_
  simp only [fixturesFrom, text "statements" "statements.sql" (by decide),
    text "input" "input.json" (by decide), text "output" "output.json" (by decide)]

theorem runner_insert_default (default : IsDefault ["runner", name] value) :
    GivesSame runnerRules (runnerFrom {}) tree (.mapping (front ++ (key, value) :: rest)) ∧
      GivesSame runnerRules (runnerFrom {}) (.mapping (front ++ (key, value) :: rest)) tree := by
  obtain ⟨rule, known, same, allowed⟩ := default.runnerRule
  have text (own text : String) (member : (["runner", own], text) ∈ defaultTexts) :=
    Tree.valueOr_insert_default given absent own Tree.text text fun held => by
      obtain rfl := Option.some.inj (named.symm.trans held)
      exact (default.text member).2
  have noArguments (held : key.text? = some "args") : value.texts?.getD [] = [] := by
    obtain rfl := Option.some.inj (named.symm.trans held)
    rw [default.arguments, Option.getD_some]
  have arguments := Tree.valueOr_insert_default given absent "args"
    (fun value => value.texts?.getD []) [] noArguments
  refine GivesSame.of_insert given absent known (same ▸ named) allowed ?_
  simp only [runnerFrom, text "program" "ksql-test-runner" (by decide), arguments,
    text "script_flag" "-s" (by decide), text "input_flag" "-i" (by decide),
    text "output_flag" "-o" (by decide)]

theorem configuration_insert_default (default : IsDefault [name] value) :
    GivesSame rules (configurationFrom {}) tree (.mapping (front ++ (key, value) :: rest)) ∧
      GivesSame rules (configurationFrom {}) (.mapping (front ++ (key, value) :: rest)) tree := by
  obtain ⟨rule, known, same, allowed⟩ := default.rule
  have path (own text : String) (member : ([own], text) ∈ defaultTexts) :=
    Tree.valueOr_insert_default given absent own (fun value => Path.mk value.text) ⟨text⟩
      fun held => by
        obtain rfl := Option.some.inj (named.symm.trans held)
        rw [(default.text member).2]
  have noNames (held : key.text? = some "fixtures") : fixturesFrom {} value = {} := by
    obtain rfl := Option.some.inj (named.symm.trans held)
    exact fixturesFrom_of_nothing (default.record (.inl rfl)) {}
  have noSettings (held : key.text? = some "runner") : runnerFrom {} value = {} := by
    obtain rfl := Option.some.inj (named.symm.trans held)
    exact runnerFrom_of_nothing (default.record (.inr rfl)) {}
  have names := Tree.valueOr_insert_default given absent "fixtures" (fixturesFrom {}) {} noNames
  have settings := Tree.valueOr_insert_default given absent "runner" (runnerFrom {}) {} noSettings
  refine GivesSame.of_insert given absent known (same ▸ named) allowed ?_
  simp only [configurationFrom, names, settings, path "root_dir" "." (by decide),
    path "queries_file" "transformer_queries.json" (by decide),
    path "test_data_file" "test_files/transformer_test_data.json" (by decide),
    path "fixture_dir" "test_files" (by decide)]

end

/-- A default below another field stands in one of the two records. -/
theorem IsDefault.inside {first second : String} {more : List String}
    (default : IsDefault (first :: second :: more) value) :
    more = [] ∧ (first = "fixtures" ∨ first = "runner") := by
  rcases default with ⟨text, member, _⟩ | ⟨same, _⟩ | ⟨elsewhere | elsewhere, _⟩
  · simp [defaultTexts] at member
    tauto
  · simp at same
    tauto
  · simp at elsewhere
  · simp at elsewhere

variable {entry : Tree × Tree} {place : List String} {siblings : List (Tree × Tree)}

/-- To leave a field out and to write its default are the same. -/
theorem givesSame_of_default (adds : Tree.Adds entry place siblings tree other) {name : String}
    (named : entry.1.text? = some name)
    (absent : ∀ sibling ∈ siblings, sibling.1.text? ≠ some name)
    (default : IsDefault (place ++ [name]) entry.2) :
    GivesSame rules (configurationFrom {}) tree other ∧
      GivesSame rules (configurationFrom {}) other tree := by
  obtain ⟨key, value⟩ := entry
  have apart : ∀ sibling ∈ siblings, sibling.1.text? ≠ key.text? := named ▸ absent
  cases adds with
  | here given => exact configuration_insert_default given apart named default
  | inside below more =>
    cases more with
    | here given =>
      obtain ⟨_, rfl | rfl⟩ := default.inside
      · obtain ⟨forth, back⟩ := fixtures_insert_default given apart named default
        exact ⟨.of_fixtures below forth, .of_fixtures below back⟩
      · obtain ⟨forth, back⟩ := runner_insert_default given apart named default
        exact ⟨.of_runner below forth, .of_runner below back⟩
    | inside _ _ =>
      obtain ⟨none, _⟩ := default.inside
      simp at none

/-- The trees say the same: they differ in the order of entries, and in fields that one leaves out
and the other writes with their defaults. -/
inductive SaysSame : Tree → Tree → Prop
  | order {tree other : Tree} : Tree.Reorders tree other → SaysSame tree other
  | default {tree other : Tree} {entry : Tree × Tree} {place : List String}
      {siblings : List (Tree × Tree)} {name : String} :
      Tree.Adds entry place siblings tree other → entry.1.text? = some name →
      (∀ sibling ∈ siblings, sibling.1.text? ≠ some name) → IsDefault (place ++ [name]) entry.2 →
      SaysSame tree other
  | symm {tree other : Tree} : SaysSame tree other → SaysSame other tree
  | trans {tree other last : Tree} : SaysSame tree other → SaysSame other last →
      SaysSame tree last

theorem givesSame_of_saysSame (same : SaysSame tree other) :
    GivesSame rules (configurationFrom {}) tree other ∧
      GivesSame rules (configurationFrom {}) other tree := by
  induction same with
  | order reorders =>
    exact ⟨(Alike.of_reorders reorders).configuration,
      (Alike.of_reorders reorders.symm).configuration⟩
  | default adds named absent default => exact givesSame_of_default adds named absent default
  | symm _ ih => exact ih.symm
  | trans _ _ first second => exact ⟨first.1.trans second.1, second.2.trans first.2⟩

/-- Trees that say the same are both records, or neither is. -/
theorem SaysSame.isSome_entries? (same : SaysSame tree other) :
    tree.entries?.isSome = other.entries?.isSome := by
  induction same with
  | order reorders => exact reorders.isSome_entries?
  | default adds _ _ _ => rw [adds.isSome_entries?.1, adds.isSome_entries?.2]
  | symm _ ih => exact ih.symm
  | trans _ _ first second => exact first.trans second

/-! ## Keys that nothing allows -/

/-- The names of the fields at a place. -/
def fieldsAt : List String → List String
  | [] => rules.map (·.1)
  | ["fixtures"] => fixtureRules.map (·.1)
  | ["runner"] => runnerRules.map (·.1)
  | _ => []

/-- A key is no field of its place, or a field that another entry has already. -/
def IsUnwanted (place : List String) (siblings : List (Tree × Tree)) (key : Tree) : Prop :=
  ∀ name ∈ fieldsAt place, key.text? = some name →
    ∃ sibling ∈ siblings, sibling.1.text? = some name

theorem not_hasFields_insert (unwanted : ∀ name ∈ fields.map (·.1), key.text? = some name →
    ∃ sibling ∈ front ++ rest, sibling.1.text? = some name) :
    ¬ HasFields fields (.mapping (front ++ (key, value) :: rest)) := by
  intro fits
  obtain ⟨_, ⟨rule, known, named, _⟩, absent⟩ := hasFields_insert.mp fits
  obtain ⟨sibling, member, same⟩ := unwanted rule.1 (List.mem_map.mpr ⟨rule, known, rfl⟩) named
  exact absent sibling member (same.trans named.symm)

/-- In a record without records inside, an unwanted entry can only stand among its own. -/
theorem not_hasFields_of_flat (flat : ∀ rule ∈ fields, ∀ entries, ¬ rule.2 (.mapping entries))
    (adds : Tree.Adds entry place siblings tree other)
    (unwanted : place = [] → ∀ name ∈ fields.map (·.1), entry.1.text? = some name →
      ∃ sibling ∈ siblings, sibling.1.text? = some name) : ¬ HasFields fields other := by
  cases adds with
  | here _ => exact not_hasFields_insert (unwanted rfl)
  | inside _ more =>
    intro fits
    obtain ⟨_, ⟨rule, known, _, allowed⟩, _⟩ := hasFields_insert.mp fits
    cases more with
    | here _ => exact flat rule known _ allowed
    | inside _ _ => exact flat rule known _ allowed

theorem not_isScalar_mapping (entries : List (Tree × Tree)) : ¬ IsScalar (.mapping entries) := by
  simp [IsScalar, Tree.text?]

theorem fixtureRules_flat : ∀ rule ∈ fixtureRules, ∀ entries, ¬ rule.2 (.mapping entries) := by
  simp only [fixtureRules, List.forall_mem_cons]
  exact ⟨not_isScalar_mapping, not_isScalar_mapping, not_isScalar_mapping, by simp⟩

theorem runnerRules_flat : ∀ rule ∈ runnerRules, ∀ entries, ¬ rule.2 (.mapping entries) := by
  have noTexts (entries : List (Tree × Tree)) : ¬ IsTexts (.mapping entries) := by
    simp [IsTexts, Tree.texts?, Tree.isVoid]
  simp only [runnerRules, List.forall_mem_cons]
  exact ⟨not_isScalar_mapping, noTexts, not_isScalar_mapping, not_isScalar_mapping,
    not_isScalar_mapping, by simp⟩

/-- An entry more that nothing allows makes a tree no configuration, wherever it stands. -/
theorem not_hasFields_of_unwanted (adds : Tree.Adds entry place siblings tree other)
    (unwanted : IsUnwanted place siblings entry.1) : ¬ HasFields rules other := by
  cases adds with
  | here given => exact not_hasFields_insert unwanted
  | @inside name names _ front rest key value changed below more =>
    intro fits
    obtain ⟨_, ⟨rule, known, named, allowed⟩, _⟩ := hasFields_insert.mp fits
    obtain rfl : name = rule.1 := Option.some.inj (below.symm.trans named)
    have mapping : ∃ entries, changed = .mapping entries := by
      cases more with
      | here _ => exact ⟨_, rfl⟩
      | inside _ _ => exact ⟨_, rfl⟩
    obtain ⟨entries, rfl⟩ := mapping
    -- What holds one more entry is a mapping, which only the two records may be.
    simp only [rules, List.mem_cons, List.not_mem_nil, or_false] at known
    rcases known with rfl | rfl | rfl | rfl | rfl | rfl
    · exact not_isScalar_mapping _ allowed
    · exact not_isScalar_mapping _ allowed
    · exact not_isScalar_mapping _ allowed
    · exact not_isScalar_mapping _ allowed
    · refine not_hasFields_of_flat fixtureRules_flat more ?_ allowed
      rintro rfl
      exact unwanted
    · refine not_hasFields_of_flat runnerRules_flat more ?_ allowed
      rintro rfl
      exact unwanted

end FixtureHarness.Configuration
