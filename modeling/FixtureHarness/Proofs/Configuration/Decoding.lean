import FixtureHarness.Configuration.Decode
import FixtureHarness.Proofs.Configuration.Fields
import FixtureHarness.Proofs.Json.Reading

/-! # What a configuration is read from

Reading goes through the entries of a mapping in their order and stops at the first that does not
fit. So it succeeds exactly where the content of the document fits the rules of the record, and gives
the record with the fields of the content in place of its defaults.
-/

namespace FixtureHarness.Configuration

open Json (bind_eq_ok_iff)
open Yaml (Document Mark Node Tree)

variable {document : Document} {expected : String} {place : Place} {node : Node}

/-! ## Values -/

theorem map_eq_ok_iff {Value Result : Type} {first : Decoded Value} {change : Value → Result}
    {result : Result} :
    first.map change = .ok result ↔ ∃ value, first = .ok value ∧ result = change value := by
  cases first with
  | error cause => simp [Except.map]
  | ok value => simp [Except.map, eq_comm]

theorem mismatch_ne_ok {Result : Type} {result : Result} (target : Node) :
    mismatch document place target expected ≠ .ok result := by
  have broken : breakOff document ≠ (.ok result : Decoded Result) := by
    unfold breakOff
    split <;> exact nofun
  cases target with
  | scalar mark anchor? tag? text style => exact nofun
  | sequence mark anchor? items => exact nofun
  | mapping mark anchor? entries => exact nofun
  | aliasOf mark anchor => exact broken
  | cut => exact broken

theorem decodeScalar_eq_ok_iff {text : String} :
    (∃ mark, decodeScalar document expected place node = .ok (text, mark)) ↔
      ∃ tree, document.Shows tree node ∧ tree.text? = some text := by
  constructor
  · rintro ⟨mark, read⟩
    unfold decodeScalar at read
    split at read
    · next target =>
      obtain ⟨rfl, rfl⟩ := Prod.mk.inj (Except.ok.inj read)
      exact ⟨_, Document.shows_of_scalar target, rfl⟩
    · exact (mismatch_ne_ok _ read).elim
  · rintro ⟨tree, shown, named⟩
    cases tree with
    | scalar held style =>
      obtain rfl := Option.some.inj named
      obtain ⟨mark, _, _, target⟩ := shown
      refine ⟨mark, ?_⟩
      simp only [decodeScalar, target, String.ofList_toList]
    | sequence items => cases named
    | mapping entries => cases named

theorem decodeText_eq_ok_iff {text : String} :
    decodeText document expected place node = .ok text ↔
      ∃ tree, document.Shows tree node ∧ tree.text? = some text := by
  rw [← decodeScalar_eq_ok_iff, decodeText, map_eq_ok_iff]
  constructor
  · rintro ⟨⟨_, mark⟩, read, rfl⟩
    exact ⟨mark, read⟩
  · rintro ⟨mark, read⟩
    exact ⟨(text, mark), read, rfl⟩

theorem decodeItems_eq_ok_iff {number : Nat} {items : List Node} {texts : List String} :
    decodeItems document place number items = .ok texts ↔
      ∃ trees, document.ShowsItems trees items ∧ trees.mapM Tree.text? = some texts := by
  induction items generalizing number texts with
  | nil =>
    constructor
    · intro read
      obtain rfl := Except.ok.inj read
      exact ⟨[], rfl, rfl⟩
    · rintro ⟨trees, shown, held⟩
      cases trees with
      | nil =>
        obtain rfl := Option.some.inj held
        rfl
      | cons tree trees =>
        obtain ⟨_, _, some, _⟩ := shown
        cases some
  | cons item rest ih =>
    simp only [decodeItems, bind_eq_ok_iff, decodeText_eq_ok_iff, ih]
    constructor
    · rintro ⟨text, ⟨tree, shown, named⟩, later, ⟨trees, more, held⟩, same⟩
      obtain rfl := Except.ok.inj same
      refine ⟨tree :: trees, ⟨item, rest, rfl, shown, more⟩, ?_⟩
      simp [named, held]
    · rintro ⟨trees, shown, held⟩
      cases trees with
      | nil => cases shown
      | cons tree trees =>
        obtain ⟨_, _, same, first, more⟩ := shown
        obtain ⟨rfl, rfl⟩ := List.cons.inj same
        simp only [List.mapM_cons, Option.bind_eq_bind, Option.bind_eq_some_iff] at held
        obtain ⟨text, named, later, others, same⟩ := held
        obtain rfl := Option.some.inj same
        exact ⟨text, ⟨tree, first, named⟩, later, ⟨trees, more, others⟩, rfl⟩

theorem decodeTexts_eq_ok_iff {texts : List String} :
    decodeTexts document place node = .ok texts ↔
      ∃ tree, document.Shows tree node ∧ tree.texts? = some texts := by
  constructor
  · intro read
    unfold decodeTexts at read
    split at read
    · next target =>
      obtain ⟨trees, shown, held⟩ := decodeItems_eq_ok_iff.mp read
      exact ⟨.sequence trees, ⟨_, _, _, target, shown⟩, held⟩
    · split_ifs at read with void
      · obtain rfl := Except.ok.inj read
        exact ⟨_, Document.shows_void_iff.mpr void, rfl⟩
      · exact (mismatch_ne_ok _ read).elim
  · rintro ⟨tree, shown, held⟩
    rcases Tree.texts?_eq_some_iff.mp held with ⟨items, rfl, held⟩ | ⟨rfl, rfl⟩
    · obtain ⟨_, _, items, target, shown⟩ := shown
      simp only [decodeTexts, target]
      exact decodeItems_eq_ok_iff.mpr ⟨_, shown, held⟩
    · have void := Document.shows_void_iff.mp shown
      unfold decodeTexts
      split
      · next target =>
        rw [target] at void
        cases void
      · rw [if_pos void]

/-! ## Records -/

variable {Record : Type}

/-- A field is read as its rule says: the value is what the rule allows, and updates the record. -/
structure Follows (update : Record → Tree → Record) (field : Field Record)
    (rule : String × (Tree → Prop)) : Prop where
  name : field.name = rule.1
  decode : ∀ {document : Document} {place : Place} {node : Node} {record result : Record}
    {key : Tree}, key.text? = some rule.1 →
      (field.decode document place node record = .ok result ↔
        ∃ value, document.Shows value node ∧ rule.2 value ∧
          result = update record (.mapping [(key, value)]))

/-- Fields are read by their rules. What a mapping changes about a record is what its entries change
one after the other. -/
structure ReadBy (fields : List (Field Record)) (rules : Rules)
    (update : Record → Tree → Record) : Prop where
  follows : List.Forall₂ (Follows update) fields rules
  distinct : (rules.map (·.1)).Nodup
  void : ∀ record, update record (.scalar "" .plain) = record
  nil : ∀ record, update record (.mapping []) = record
  cons : ∀ record {key value : Tree} {rest : List (Tree × Tree)},
    (∀ entry ∈ rest, entry.1.text? ≠ key.text?) →
      update record (.mapping ((key, value) :: rest)) =
        update (update record (.mapping [(key, value)])) (.mapping rest)

namespace ReadBy

variable {fields : List (Field Record)} {rules : Rules} {update : Record → Tree → Record}
  {name : String} {mark : Mark} {seen : List String} {record result : Record}
  {entries : List (Node × Node)}

/-- A field is found where there is a rule of its name. -/
theorem find?_cases (follows : List.Forall₂ (Follows update) fields rules) (name : String) :
    (fields.find? (fun field => field.name = name) = none ∧ ∀ rule ∈ rules, rule.1 ≠ name) ∨
      ∃ field rule, fields.find? (fun field => field.name = name) = some field ∧ rule ∈ rules ∧
        rule.1 = name ∧ Follows update field rule := by
  induction follows with
  | nil => exact .inl ⟨rfl, by simp⟩
  | @cons field rule fields rules first _ ih =>
    by_cases named : rule.1 = name
    · have found : (field :: fields).find? (fun field => field.name = name) = some field := by
        rw [List.find?_cons_of_pos]
        simpa [first.name] using named
      exact .inr ⟨field, rule, found, List.mem_cons_self .., named, first⟩
    · have skipped : (field :: fields).find? (fun field => field.name = name) =
          fields.find? (fun field => field.name = name) := by
        rw [List.find?_cons_of_neg]
        simpa [first.name] using named
      rw [skipped]
      rcases ih with ⟨none, others⟩ | ⟨found, foundRule, same, member, sameName, follows⟩
      · exact .inl ⟨none, List.forall_mem_cons.mpr ⟨named, others⟩⟩
      · exact .inr ⟨found, foundRule, same, List.mem_cons_of_mem _ member, sameName, follows⟩

/-- There is one rule of a name. -/
theorem rule_unique (reads : ReadBy fields rules update) {rule other : String × (Tree → Prop)}
    (member : rule ∈ rules) (otherMember : other ∈ rules) (same : rule.1 = other.1) :
    rule = other :=
  List.inj_on_of_nodup_map reads.distinct member otherMember same

/-- Entries are read if they fit the rules and none of their keys was seen before. -/
theorem decodeEntries_eq_ok_iff (reads : ReadBy fields rules update) :
    decodeEntries fields document place mark seen record entries = .ok result ↔
      ∃ trees, document.ShowsEntries trees entries ∧ HasFields rules (.mapping trees) ∧
        (∀ entry ∈ trees, ∀ name ∈ seen, entry.1.text? ≠ some name) ∧
        result = update record (.mapping trees) := by
  induction entries generalizing seen record with
  | nil =>
    constructor
    · intro read
      obtain rfl := Except.ok.inj read
      exact ⟨[], rfl, hasFields_mapping.mpr (by simp), by simp, (reads.nil _).symm⟩
    · rintro ⟨trees, shown, _, _, rfl⟩
      cases trees with
      | nil => rw [decodeEntries, reads.nil]
      | cons tree trees =>
        obtain ⟨_, _, _, some, _⟩ := shown
        cases some
  | cons entry rest ih =>
    obtain ⟨keyNode, valueNode⟩ := entry
    rw [decodeEntries, bind_eq_ok_iff]
    constructor
    · rintro ⟨⟨name, keyMark⟩, scalar, read⟩
      obtain ⟨key, keyShown, named⟩ := decodeScalar_eq_ok_iff.mp ⟨keyMark, scalar⟩
      rcases find?_cases reads.follows name with ⟨none, _⟩ | ⟨field, rule, found, known, rfl, follows⟩
      · simp only [none] at read
        cases read
      simp only [found] at read
      split_ifs at read with repeated
      obtain ⟨changed, decoded, more⟩ := bind_eq_ok_iff.mp read
      obtain ⟨value, valueShown, allowed, rfl⟩ := (follows.decode named).mp decoded
      obtain ⟨trees, shown, fits, apart, rfl⟩ := ih.mp more
      have absent : ∀ entry ∈ trees, entry.1.text? ≠ key.text? := fun entry member =>
        named ▸ apart entry member rule.1 (List.mem_cons_self ..)
      -- What was seen before the rest includes this key, so none of the rest repeats it.
      refine ⟨(key, value) :: trees, ⟨_, _, _, rfl, keyShown, valueShown, shown⟩, ?_, ?_, ?_⟩
      · exact hasFields_cons.mpr ⟨fits, ⟨rule, known, named, allowed⟩, absent⟩
      · refine List.forall_mem_cons.mpr ⟨?_, fun entry member other earlier => ?_⟩
        · rintro other earlier same
          obtain rfl := Option.some.inj (named.symm.trans same)
          exact repeated (List.contains_iff_mem.mpr earlier)
        · exact apart entry member other (List.mem_cons_of_mem _ earlier)
      · rw [reads.cons _ absent]
    · rintro ⟨trees, shown, fits, apart, rfl⟩
      cases trees with
      | nil => cases shown
      | cons tree trees =>
        obtain ⟨key, value⟩ := tree
        obtain ⟨_, _, _, same, keyShown, valueShown, shown⟩ := shown
        obtain ⟨pair, rfl⟩ := List.cons.inj same
        obtain ⟨rfl, rfl⟩ := Prod.mk.inj pair
        obtain ⟨fits, ⟨rule, known, named, allowed⟩, absent⟩ := hasFields_cons.mp fits
        obtain ⟨mark, scalar⟩ := decodeScalar_eq_ok_iff.mpr ⟨key, keyShown, named⟩
        refine ⟨_, scalar, ?_⟩
        rcases find?_cases reads.follows rule.1 with ⟨_, others⟩ |
          ⟨field, other, found, member, same, follows⟩
        · exact (others rule known rfl).elim
        obtain rfl := reads.rule_unique member known same
        have fresh : ¬ seen.contains other.1 = true := by
          rw [List.contains_iff_mem]
          exact fun earlier => apart (key, value) (List.mem_cons_self ..) _ earlier named
        simp only [found, if_neg fresh, bind_eq_ok_iff]
        refine ⟨_, (follows.decode named).mpr ⟨value, valueShown, allowed, rfl⟩, ih.mpr ?_⟩
        refine ⟨trees, shown, fits, fun entry member name earlier => ?_, reads.cons _ absent⟩
        rcases List.mem_cons.mp earlier with rfl | earlier
        · exact named ▸ absent entry member
        · exact apart entry (List.mem_cons_of_mem _ member) name earlier

/-- A record is read if the content of the node fits its rules. -/
theorem decodeRecord_eq_ok_iff (reads : ReadBy fields rules update) {title : String} :
    decodeRecord title fields document place node record = .ok result ↔
      ∃ tree, document.Shows tree node ∧ HasFields rules tree ∧ result = update record tree := by
  constructor
  · intro read
    unfold decodeRecord at read
    split at read
    · next target =>
      obtain ⟨trees, shown, fits, _, rfl⟩ := reads.decodeEntries_eq_ok_iff.mp read
      exact ⟨.mapping trees, ⟨_, _, _, target, shown⟩, fits, rfl⟩
    · split_ifs at read with void
      · obtain rfl := Except.ok.inj read
        refine ⟨_, Document.shows_void_iff.mpr void, ?_, (reads.void _).symm⟩
        exact ⟨[], rfl, by simp, by simp⟩
      · exact (mismatch_ne_ok _ read).elim
  · rintro ⟨tree, shown, fits, rfl⟩
    obtain ⟨entries, given, _⟩ := id fits
    rcases Tree.entries?_eq_some_iff.mp given with rfl | ⟨rfl, _⟩
    · obtain ⟨_, _, _, target, shown⟩ := shown
      simp only [decodeRecord, target]
      exact reads.decodeEntries_eq_ok_iff.mpr ⟨entries, shown, fits, by simp, rfl⟩
    · have void := Document.shows_void_iff.mp shown
      unfold decodeRecord
      split
      · next target =>
        rw [target] at void
        cases void
      · rw [if_pos void, reads.void]

end ReadBy

/-! ## Fields -/

theorem isScalar_iff {tree : Tree} {text : String} :
    IsScalar tree ∧ text = tree.text ↔ tree.text? = some text := by
  cases tree <;> simp [IsScalar, Tree.text, Tree.text?, eq_comm]

theorem isTexts_iff {tree : Tree} {texts : List String} :
    IsTexts tree ∧ texts = tree.texts?.getD [] ↔ tree.texts? = some texts := by
  cases held : tree.texts? <;> simp [IsTexts, held, eq_comm]

/-- A field follows its rule if its value is read from what the rule allows. -/
theorem follows_of_reads {Value : Type} {update : Record → Tree → Record} {name : String}
    {allowed : Tree → Prop} {read : Document → Place → Node → Decoded Value} {given : Tree → Value}
    {set : Record → Value → Record}
    (reads : ∀ {document place node value}, read document place node = .ok value ↔
      ∃ tree, document.Shows tree node ∧ allowed tree ∧ value = given tree)
    (updates : ∀ {record key value}, key.text? = some name →
      update record (.mapping [(key, value)]) = set record (given value)) :
    Follows update ⟨name, fun document place node record =>
      (read document place node).map (set record)⟩ (name, allowed) where
  name := rfl
  decode := by
    intro document place node record result key named
    simp only [map_eq_ok_iff, reads, updates named]
    constructor
    · rintro ⟨_, ⟨tree, shown, fits, rfl⟩, rfl⟩
      exact ⟨tree, shown, fits, rfl⟩
    · rintro ⟨tree, shown, fits, rfl⟩
      exact ⟨_, ⟨tree, shown, fits, rfl⟩, rfl⟩

theorem follows_textField {update : Record → Tree → Record} {name : String}
    {set : Record → String → Record}
    (updates : ∀ {record key value}, key.text? = some name →
      update record (.mapping [(key, value)]) = set record value.text) :
    Follows update (textField name set) (name, IsScalar) :=
  follows_of_reads (by simp only [isScalar_iff, decodeText_eq_ok_iff, implies_true]) updates

theorem follows_pathField {name : String} {set : Configuration → Path → Configuration}
    (updates : ∀ {configuration key value}, key.text? = some name →
      configurationFrom configuration (.mapping [(key, value)]) = set configuration ⟨value.text⟩) :
    Follows configurationFrom (pathField name set) (name, IsScalar) := by
  refine follows_of_reads ?_ updates
  intro document place node path
  simp only [decodePath, map_eq_ok_iff, decodeText_eq_ok_iff, ← isScalar_iff]
  constructor
  · rintro ⟨_, ⟨tree, shown, scalar, rfl⟩, rfl⟩
    exact ⟨tree, shown, scalar, rfl⟩
  · rintro ⟨tree, shown, scalar, rfl⟩
    exact ⟨_, ⟨tree, shown, scalar, rfl⟩, rfl⟩

/-! ## The three records -/

theorem readBy_fixtureFields : ReadBy fixtureFields fixtureRules fixturesFrom where
  follows := by
    refine .cons (follows_textField fun named => ?_) (.cons (follows_textField fun named => ?_)
      (.cons (follows_textField fun named => ?_) .nil))
    all_goals simp [fixturesFrom, Tree.valueOr_single, named]
  distinct := by decide
  void _ := rfl
  nil _ := rfl
  cons := by
    intro names key value rest absent
    simp only [fixturesFrom, Tree.valueOr_cons absent]

theorem readBy_runnerFields : ReadBy runnerFields runnerRules runnerFrom where
  follows := by
    have reads {document : Document} {place : Place} {node : Node} {texts : List String} :
        decodeTexts document place node = .ok texts ↔
          ∃ tree, document.Shows tree node ∧ IsTexts tree ∧ texts = tree.texts?.getD [] := by
      simp only [isTexts_iff, decodeTexts_eq_ok_iff]
    have arguments : Follows runnerFrom argumentsField ("args", IsTexts) :=
      follows_of_reads reads (fun named => by simp [runnerFrom, Tree.valueOr_single, named])
    refine .cons (follows_textField fun named => ?_) (.cons arguments
      (.cons (follows_textField fun named => ?_) (.cons (follows_textField fun named => ?_)
        (.cons (follows_textField fun named => ?_) .nil))))
    all_goals simp [runnerFrom, Tree.valueOr_single, named]
  distinct := by decide
  void _ := rfl
  nil _ := rfl
  cons := by
    intro settings key value rest absent
    simp only [runnerFrom, Tree.valueOr_cons absent]

theorem readBy_fields : ReadBy fields rules configurationFrom where
  follows := by
    have fixtures : Follows configurationFrom fixturesField ("fixtures", HasFields fixtureRules) :=
      follows_of_reads readBy_fixtureFields.decodeRecord_eq_ok_iff
        (fun named => by simp [configurationFrom, Tree.valueOr_single, named])
    have runner : Follows configurationFrom runnerField ("runner", HasFields runnerRules) :=
      follows_of_reads readBy_runnerFields.decodeRecord_eq_ok_iff
        (fun named => by simp [configurationFrom, Tree.valueOr_single, named])
    refine .cons (follows_pathField fun named => ?_) (.cons (follows_pathField fun named => ?_)
      (.cons (follows_pathField fun named => ?_) (.cons (follows_pathField fun named => ?_)
        (.cons fixtures (.cons runner .nil)))))
    all_goals simp [configurationFrom, Tree.valueOr_single, named]
  distinct := by decide
  void _ := rfl
  nil _ := rfl
  cons := by
    intro configuration key value rest absent
    simp only [configurationFrom, Tree.valueOr_cons absent]

/-- A document is read if it is whole, the only one, and its content fits the rules. -/
theorem ofDocument?_eq_ok_iff {configuration : Configuration} :
    ofDocument? document = .ok configuration ↔
      document.error? = none ∧ document.hasMore = false ∧
        ∃ tree, document.Shows tree document.root ∧ HasFields rules tree ∧
          configuration = configurationFrom {} tree := by
  rw [ofDocument?, bind_eq_ok_iff, ofNode?]
  simp only [readBy_fields.decodeRecord_eq_ok_iff]
  constructor
  · rintro ⟨_, ⟨tree, shown, fits, rfl⟩, ended⟩
    split at ended
    · cases ended
    · next whole =>
      split_ifs at ended with more
      obtain rfl := Except.ok.inj ended
      exact ⟨whole, by simpa using more, tree, shown, fits, rfl⟩
  · rintro ⟨whole, single, tree, shown, fits, rfl⟩
    refine ⟨_, ⟨tree, shown, fits, rfl⟩, ?_⟩
    simp [whole, single]

end FixtureHarness.Configuration
