import FixtureHarness.Proofs.Catalog.Datasets
import FixtureHarness.Proofs.Json.Limits
import Mathlib.Logic.Relation

/-! # What a test case may look like

The documents that are test cases, told by their members or elements alone, and the case that each of
them describes. A catalog is read exactly if all its elements are such documents. The order of the
members, members under other keys, and the choice between an object and an array of fields make no
difference.
-/

namespace FixtureHarness

open Json

namespace TestCase

/-! ## Shapes -/

/-- The keys of the fields of a test case. -/
def fieldNames : List String := ["name", "sql_queries", "input", "output"]

/-- A document that is an array of strings. -/
def IsTextArray (source : Source) : Prop :=
  ∃ texts : List (List Piece), source = .array (texts.map .text)

/-- The documents that are test cases: objects with a name, an input and an output, each given once,
and with at most one array of names; or arrays of these four. Other members may be anything. -/
inductive IsCase : Source → Prop where
  | object {members : List (List Piece × Source)} {name : List Piece} {input output : Source} :
      valuesUnder "name" members = [.text name] →
      (valuesUnder "sql_queries" members = [] ∨
        ∃ queries, valuesUnder "sql_queries" members = [queries] ∧ IsTextArray queries) →
      valuesUnder "input" members = [input] → valuesUnder "output" members = [output] →
      IsCase (.object members)
  | array (name : List Piece) {queries : Source} (input output : Source) : IsTextArray queries →
      IsCase (.array [.text name, queries, input, output])

/-! ## Cases that documents describe -/

/-- A document that is a string. -/
def Spells (source : Source) (string : String) : Prop :=
  ∃ pieces, source = .text pieces ∧ decode pieces = some string.toList

/-- A document that is an array of some strings, in order. -/
def ListsNames (source : Source) (names : List String) : Prop :=
  ∃ items, source = .array items ∧ List.Forall₂ Spells items names

theorem ListsNames.isTextArray {source : Source} {names : List String}
    (listed : ListsNames source names) : IsTextArray source := by
  obtain ⟨items, rfl, spelled⟩ := listed
  induction spelled with
  | nil => exact ⟨[], rfl⟩
  | cons first _ ih =>
    obtain ⟨pieces, rfl, -⟩ := first
    obtain ⟨texts, same⟩ := ih
    cases same
    exact ⟨pieces :: texts, rfl⟩

/-- The names that an object lists under a key, none if it does not have the key. -/
inductive GivesNames : List Source → List String → Prop where
  | missing : GivesNames [] []
  | given {source : Source} {names : List String} : ListsNames source names →
      GivesNames [source] names

/-- The text that a dataset is stored as: a string as it is, any other document in its pretty form. -/
inductive IsStoredAs : Source → String → Prop where
  | verbatim {dataset : Source} {text : String} : Spells dataset text → IsStoredAs dataset text
  | printed {dataset : Source} {value : Json} : IsInline dataset →
      valueWithin? datasetNesting dataset = some value → IsStoredAs dataset value.pretty

/-- A document is a test case, and this is the case. -/
inductive Describes : Source → TestCase → Prop where
  | object {members : List (List Piece × Source)} {name input output : Source}
      {queries : List Source} {case : TestCase} : (∀ member ∈ members, (decode member.1).isSome) →
      valuesUnder "name" members = [name] → Spells name case.name →
      valuesUnder "sql_queries" members = queries → GivesNames queries case.queries →
      valuesUnder "input" members = [input] → IsStoredAs input case.input →
      valuesUnder "output" members = [output] → IsStoredAs output case.output →
      Describes (.object members) case
  | array {name queries input output : Source} {case : TestCase} : Spells name case.name →
      ListsNames queries case.queries → IsStoredAs input case.input →
      IsStoredAs output case.output → Describes (.array [name, queries, input, output]) case

theorem mapM_of_forall₂ {Item Result : Type} {step : Item → Option Result} {items : List Item}
    {results : List Result} (steps : List.Forall₂ (fun item result => step item = some result) items
      results) : items.mapM step = some results := by
  induction steps with
  | nil => rfl
  | cons first _ ih => simp [List.mapM_cons, first, ih]

theorem mapM_eq_some_iff {Item Result : Type} {step : Item → Option Result} {items : List Item}
    {results : List Result} : items.mapM step = some results ↔
      List.Forall₂ (fun item result => step item = some result) items results :=
  ⟨forall₂_of_mapM, mapM_of_forall₂⟩

theorem string_eq_some_iff {source : Source} {string : String} :
    source.string? = some string ↔ Spells source string := by
  cases source with
  | text pieces =>
    simp only [Source.string?, Option.map_eq_some_iff, Spells, Source.text.injEq, exists_eq_left']
    constructor
    · rintro ⟨chars, decoded, rfl⟩
      rw [decoded, String.toList_ofList]
    · intro decoded
      exact ⟨string.toList, decoded, String.ofList_toList⟩
  | _ => simp [Source.string?, Spells]

theorem queryNames_eq_some_iff {source : Source} {names : List String} :
    queryNames? source = some names ↔ ListsNames source names := by
  cases source with
  | array items =>
    simp only [queryNames?, Source.list?, mapM_eq_some_iff, string_eq_some_iff, ListsNames,
      Source.array.injEq, exists_eq_left']
  | _ => simp [queryNames?, Source.list?, ListsNames]

theorem only_eq_some_iff {Item : Type} {items : List Item} {item : Item} :
    only? items = some item ↔ items = [item] := by
  obtain _ | ⟨first, _ | ⟨next, rest⟩⟩ := items <;> simp [only?]

theorem optionalNames_eq_some_iff {values : List Source} {names : List String} :
    optionalNames? values = some names ↔ GivesNames values names := by
  obtain _ | ⟨value, _ | ⟨next, rest⟩⟩ := values
  · rw [optionalNames?, Option.some.injEq]
    constructor
    · rintro rfl
      exact .missing
    · rintro ⟨⟩
      rfl
  · have single : optionalNames? [value] = queryNames? value := rfl
    rw [single, queryNames_eq_some_iff]
    constructor
    · exact .given
    · rintro ⟨⟩
      assumption
  · constructor
    · intro read
      simp [optionalNames?, only?] at read
    · rintro ⟨⟩

theorem stored_eq_some_iff {dataset : Source} {text : String} :
    stored? dataset = some text ↔ IsStoredAs dataset text := by
  constructor
  · intro kept
    obtain ⟨value, within, rfl⟩ := Option.map_eq_some_iff.mp kept
    by_cases inline : IsInline dataset
    · have read := (Option.ite_none_right_eq_some.mp within).2
      rw [datasetText_of_not_text (inline.value_ne_text read)]
      exact .printed inline within
    · cases dataset with
      | text pieces =>
        obtain ⟨chars, decoded, rfl⟩ :=
          Option.map_eq_some_iff.mp (Option.ite_none_right_eq_some.mp within).2
        exact .verbatim ⟨pieces, rfl, by rw [decoded, datasetText, String.toList_ofList]⟩
      | _ => exact (inline trivial).elim
  · rintro (⟨pieces, rfl, decoded⟩ | ⟨inline, within⟩)
    · simp [stored?, valueWithin?, Source.depth, Source.value?, decoded, datasetText]
    · have read := (Option.ite_none_right_eq_some.mp within).2
      rw [stored?, within, Option.map_some, datasetText_of_not_text (inline.value_ne_text read)]

/-- What a document is read to is the case that it describes. -/
theorem ofSource_eq_some_iff {source : Source} {case : TestCase} :
    ofSource? source = some case ↔ Describes source case := by
  simp only [ofSource?, bind, Option.bind_eq_some_iff, Form.case_eq_some_iff]
  constructor
  · rintro ⟨form, isForm, isName, areQueries, input, output⟩
    rw [stored_eq_some_iff] at input output
    cases source with
    | object members =>
      obtain ⟨all, fields⟩ := Option.ite_none_right_eq_some.mp isForm
      simp only [bind, Option.bind_eq_some_iff, only_eq_some_iff, string_eq_some_iff,
        optionalNames_eq_some_iff] at fields
      obtain ⟨name, ⟨nameSource, onlyName, spelled⟩, queries, given, inputSource, onlyInput,
        outputSource, onlyOutput, same⟩ := fields
      cases same
      refine .object (List.all_eq_true.mp all) onlyName ?_ rfl ?_ onlyInput input onlyOutput output
      · rwa [isName]
      · rwa [areQueries]
    | array items =>
      obtain ⟨name, queries, rfl, isText, areNames⟩ := exists_of_form_array isForm
      rw [string_eq_some_iff] at isText
      rw [queryNames_eq_some_iff] at areNames
      exact .array (isName ▸ isText) (areQueries ▸ areNames) input output
    | _ => cases isForm
  · rintro (⟨all, onlyName, spelled, isQueries, given, onlyInput, input, onlyOutput, output⟩ |
      ⟨spelled, listed, input, output⟩)
    · refine ⟨⟨case.name, case.queries, _, _⟩, ?_, rfl, rfl, stored_eq_some_iff.mpr input,
        stored_eq_some_iff.mpr output⟩
      rw [← isQueries] at given
      rw [form?, formOfMembers?, if_pos (List.all_eq_true.mpr all), onlyName, onlyInput, onlyOutput,
        optionalNames_eq_some_iff.mpr given]
      simp [only?, string_eq_some_iff.mpr spelled]
    · refine ⟨⟨case.name, case.queries, _, _⟩, ?_, rfl, rfl, stored_eq_some_iff.mpr input,
        stored_eq_some_iff.mpr output⟩
      simp [form?, string_eq_some_iff.mpr spelled, queryNames_eq_some_iff.mpr listed]

/-! ## Within the limits of reading -/

theorem exists_mem_of_mem_valuesUnder {key : String} {members : List (List Piece × Source)}
    {value : Source} (held : value ∈ valuesUnder key members) : ∃ pieces, (pieces, value) ∈ members := by
  obtain ⟨⟨pieces, other⟩, member, kept⟩ := List.mem_filterMap.mp held
  obtain rfl := Option.some.inj (Option.ite_none_right_eq_some.mp kept).2
  exact ⟨pieces, member⟩

theorem exists_spells {limit : Nat} {pieces : List Piece}
    (within : (Source.text pieces).IsWithin limit) : ∃ string, Spells (.text pieces) string := by
  obtain ⟨chars, decoded⟩ :=
    Option.isSome_iff_exists.mp (within.strings pieces (List.mem_singleton_self _))
  exact ⟨String.ofList chars, pieces, rfl, by rw [decoded, String.toList_ofList]⟩

theorem exists_listsNames {limit : Nat} {source : Source} (within : source.IsWithin (limit + 1))
    (isTexts : IsTextArray source) : ∃ names, ListsNames source names := by
  obtain ⟨texts, rfl⟩ := isTexts
  have each : ∀ pieces ∈ texts, ∃ name, Spells (.text pieces) name := fun pieces member =>
    exists_spells (within.item (List.mem_map_of_mem member))
  clear within
  induction texts with
  | nil => exact ⟨[], [], rfl, .nil⟩
  | cons pieces rest ih =>
    rw [List.forall_mem_cons] at each
    obtain ⟨name, spelled⟩ := each.1
    obtain ⟨names, items, same, listed⟩ := ih each.2
    cases same
    exact ⟨name :: names, _, rfl, .cons spelled listed⟩

theorem exists_isStoredAs {dataset : Source} (within : dataset.IsWithin datasetNesting) :
    ∃ text, IsStoredAs dataset text := by
  obtain ⟨value, kept⟩ := within.exists_value
  exact ⟨datasetText value, stored_eq_some_iff.mp (by rw [stored?, kept, Option.map_some])⟩

theorem GivesNames.isTextArray {values : List Source} {names : List String}
    (given : GivesNames values names) :
    values = [] ∨ ∃ queries, values = [queries] ∧ IsTextArray queries := by
  cases given with
  | missing => exact .inl rfl
  | given listed => exact .inr ⟨_, rfl, listed.isTextArray⟩

theorem IsCase.exists_describes {element : Source} (isCase : IsCase element)
    (within : element.IsWithin (datasetNesting + 1)) : ∃ case, Describes element case := by
  cases isCase with
  | @object members name input output onlyName areQueries onlyInput onlyOutput =>
    have single {key : String} {value : Source} (only : valuesUnder key members = [value]) :
        value.IsWithin datasetNesting := by
      obtain ⟨pieces, member⟩ :=
        exists_mem_of_mem_valuesUnder (only ▸ List.mem_singleton_self value)
      exact within.member member
    have given : ∃ names, GivesNames (valuesUnder "sql_queries" members) names := by
      rcases areQueries with none | ⟨queries, only, isTexts⟩
      · exact ⟨[], none ▸ .missing⟩
      · obtain ⟨names, listed⟩ := exists_listsNames (single only) isTexts
        exact ⟨names, only ▸ .given listed⟩
    obtain ⟨nameText, spelled⟩ := exists_spells (single onlyName)
    obtain ⟨names, given⟩ := given
    obtain ⟨inputText, inputStored⟩ := exists_isStoredAs (single onlyInput)
    obtain ⟨outputText, outputStored⟩ := exists_isStoredAs (single onlyOutput)
    exact ⟨⟨nameText, names, inputText, outputText⟩, .object (fun _ held => within.key held)
      onlyName spelled rfl given onlyInput inputStored onlyOutput outputStored⟩
  | @array name queries input output isTexts =>
    have nameWithin : (Source.text name).IsWithin datasetNesting := within.item (by simp)
    have queriesWithin : queries.IsWithin datasetNesting := within.item (by simp)
    have inputWithin : input.IsWithin datasetNesting := within.item (by simp)
    have outputWithin : output.IsWithin datasetNesting := within.item (by simp)
    obtain ⟨nameText, spelled⟩ := exists_spells nameWithin
    obtain ⟨names, listed⟩ := exists_listsNames queriesWithin isTexts
    obtain ⟨inputText, inputStored⟩ := exists_isStoredAs inputWithin
    obtain ⟨outputText, outputStored⟩ := exists_isStoredAs outputWithin
    exact ⟨⟨nameText, names, inputText, outputText⟩,
      .array spelled listed inputStored outputStored⟩

theorem Describes.isCase {element : Source} {case : TestCase} (describes : Describes element case) :
    IsCase element := by
  cases describes with
  | object _ onlyName spelled isQueries given onlyInput _ onlyOutput _ =>
    obtain ⟨name, rfl, -⟩ := spelled
    subst isQueries
    exact .object onlyName given.isTextArray onlyInput onlyOutput
  | array spelled listed _ _ =>
    obtain ⟨name, rfl, -⟩ := spelled
    exact .array name _ _ listed.isTextArray

/-- Within the limits of reading, the documents of the right shape are those that describe a case. -/
theorem exists_describes_iff {element : Source} (within : element.IsWithin (datasetNesting + 1)) :
    (∃ case, Describes element case) ↔ IsCase element :=
  ⟨fun ⟨_, describes⟩ => describes.isCase, fun isCase => isCase.exists_describes within⟩

/-! ## Ways to write one case -/

/-- Two ways to write one case: members in another order, a member more under another key, and the
fields in an array instead of an object. -/
inductive Varies : Source → Source → Prop where
  | reordered {members others : List (List Piece × Source)} : members.Perm others →
      Varies (.object members) (.object others)
  | extended (front back : List (List Piece × Source)) {key : List Piece} {name : String}
      (value : Source) : decode key = some name.toList → name ∉ fieldNames →
      Varies (.object (front ++ back)) (.object (front ++ (key, value) :: back))
  | listed {nameKey queriesKey inputKey outputKey : List Piece} (name queries input output : Source) :
      decode nameKey = some "name".toList → decode queriesKey = some "sql_queries".toList →
      decode inputKey = some "input".toList → decode outputKey = some "output".toList →
      Varies (.object [(nameKey, name), (queriesKey, queries), (inputKey, input), (outputKey, output)])
        (.array [name, queries, input, output])
  | unlisted {nameKey inputKey outputKey : List Piece} (name input output : Source) :
      decode nameKey = some "name".toList → decode inputKey = some "input".toList →
      decode outputKey = some "output".toList →
      Varies (.object [(nameKey, name), (inputKey, input), (outputKey, output)])
        (.array [name, .array [], input, output])

theorem only_eq_of_perm {Item : Type} {items others : List Item} (perm : items.Perm others) :
    only? items = only? others := by
  refine Option.ext fun item => ?_
  rw [only_eq_some_iff, only_eq_some_iff]
  constructor
  · rintro rfl
    exact List.perm_singleton.mp perm.symm
  · rintro rfl
    exact List.perm_singleton.mp perm

theorem optionalNames_eq_of_perm {values others : List Source} (perm : values.Perm others) :
    optionalNames? values = optionalNames? others := by
  cases values with
  | nil => rw [perm.nil_eq]
  | cons value rest =>
    cases others with
    | nil => exact (List.cons_ne_nil value rest perm.eq_nil).elim
    | cons other more => exact congrArg (Option.bind · queryNames?) (only_eq_of_perm perm)

theorem formOfMembers_eq_of_perm {members others : List (List Piece × Source)}
    (perm : members.Perm others) : formOfMembers? members = formOfMembers? others := by
  have under (key : String) : (valuesUnder key members).Perm (valuesUnder key others) :=
    perm.filterMap _
  unfold formOfMembers?
  rw [perm.all_eq, only_eq_of_perm (under "name"), only_eq_of_perm (under "input"),
    only_eq_of_perm (under "output"), optionalNames_eq_of_perm (under "sql_queries")]

theorem valuesUnder_of_other {front back : List (List Piece × Source)} {key : List Piece}
    {name field : String} (value : Source) (decoded : decode key = some name.toList)
    (other : name ∉ fieldNames) (isField : field ∈ fieldNames) :
    valuesUnder field (front ++ (key, value) :: back) = valuesUnder field (front ++ back) := by
  have different : decode key ≠ some field.toList := by
    rw [decoded]
    intro same
    obtain rfl := String.toList_inj.mp (Option.some.inj same)
    exact other isField
  simp [valuesUnder, different]

theorem formOfMembers_of_other {front back : List (List Piece × Source)} {key : List Piece}
    {name : String} (value : Source) (decoded : decode key = some name.toList)
    (other : name ∉ fieldNames) :
    formOfMembers? (front ++ (key, value) :: back) = formOfMembers? (front ++ back) := by
  have under {field : String} (isField : field ∈ fieldNames) :
      valuesUnder field (front ++ (key, value) :: back) = valuesUnder field (front ++ back) :=
    valuesUnder_of_other value decoded other isField
  have all : ((front ++ (key, value) :: back).all fun member => (decode member.1).isSome) =
      (front ++ back).all fun member => (decode member.1).isSome := by
    rw [List.all_append, List.all_append, List.all_cons, decoded, Option.isSome_some, Bool.true_and]
  unfold formOfMembers?
  rw [all, under (by decide), under (by decide), under (by decide), under (by decide)]

section
variable {nameKey queriesKey inputKey outputKey : List Piece} (name queries input output : Source)
  (isName : decode nameKey = some "name".toList)
  (areQueries : decode queriesKey = some "sql_queries".toList)
  (isInput : decode inputKey = some "input".toList)
  (isOutput : decode outputKey = some "output".toList)
include isName isInput isOutput

theorem form_unlisted :
    form? (.object [(nameKey, name), (inputKey, input), (outputKey, output)]) =
      form? (.array [name, .array [], input, output]) := by
  have under (field : String) :
      valuesUnder field [(nameKey, name), (inputKey, input), (outputKey, output)] =
        (if "name" = field then [name] else []) ++ ((if "input" = field then [input] else []) ++
          ((if "output" = field then [output] else []) ++ [])) := by
    rw [valuesUnder_cons isName, valuesUnder_cons isInput, valuesUnder_cons isOutput]
    rfl
  simp [form?, formOfMembers?, under, only?, optionalNames?, queryNames?, Source.list?, isName,
    isInput, isOutput]

include areQueries

theorem form_listed :
    form? (.object [(nameKey, name), (queriesKey, queries), (inputKey, input), (outputKey, output)]) =
      form? (.array [name, queries, input, output]) := by
  have under (field : String) : valuesUnder field
      [(nameKey, name), (queriesKey, queries), (inputKey, input), (outputKey, output)] =
        (if "name" = field then [name] else []) ++
          ((if "sql_queries" = field then [queries] else []) ++
            ((if "input" = field then [input] else []) ++
              ((if "output" = field then [output] else []) ++ []))) := by
    rw [valuesUnder_cons isName, valuesUnder_cons areQueries, valuesUnder_cons isInput,
      valuesUnder_cons isOutput]
    rfl
  simp [form?, formOfMembers?, under, only?, optionalNames?, isName, areQueries, isInput, isOutput]

end

theorem Varies.form_eq {source other : Source} (varies : Varies source other) :
    form? source = form? other := by
  cases varies with
  | reordered perm => exact formOfMembers_eq_of_perm perm
  | extended front back value decoded isOther =>
    exact (formOfMembers_of_other value decoded isOther).symm
  | listed name queries input output isName areQueries isInput isOutput =>
    exact form_listed name queries input output isName areQueries isInput isOutput
  | unlisted name input output isName isInput isOutput =>
    exact form_unlisted name input output isName isInput isOutput

/-- One way after another to write a case leaves it the same. -/
theorem describes_iff_of_ways {source other : Source} (ways : Relation.EqvGen Varies source other)
    (case : TestCase) : Describes source case ↔ Describes other case := by
  rw [← ofSource_eq_some_iff, ← ofSource_eq_some_iff]
  induction ways with
  | rel _ _ varies => rw [ofSource?, varies.form_eq, ofSource?]
  | refl => rfl
  | symm _ _ _ ih => exact ih.symm
  | trans _ _ _ _ _ first second => exact first.trans second

end TestCase

namespace TestCatalog

/-- The text of an array is a catalog of the cases that its elements describe, one for each. -/
theorem ofText_ok_iff_describes {string file : String} {elements : List Source}
    (written : (Source.array elements).WrittenIn string.toList) {catalog : TestCatalog} :
    ofText? string file = .ok catalog ↔
      List.Forall₂ TestCase.Describes elements catalog.cases := by
  simp only [ofText_eq_ok_iff, TestCase.mapM_eq_some_iff, TestCase.ofSource_eq_some_iff]
  constructor
  · rintro ⟨others, writtenAlso, described⟩
    cases written.unique writtenAlso
    exact described
  · intro described
    exact ⟨elements, written, described⟩

theorem exists_cases_iff {elements : List Source}
    (within : ∀ element ∈ elements, element.IsWithin (TestCase.datasetNesting + 1)) :
    (∃ cases, List.Forall₂ TestCase.Describes elements cases) ↔
      ∀ element ∈ elements, TestCase.IsCase element := by
  induction elements with
  | nil => simp
  | cons element rest ih =>
    rw [List.forall_mem_cons] at within
    rw [List.forall_mem_cons, ← TestCase.exists_describes_iff within.1, ← ih within.2]
    constructor
    · rintro ⟨_, _ | ⟨first, others⟩⟩
      exact ⟨⟨_, first⟩, _, others⟩
    · rintro ⟨⟨case, first⟩, cases, others⟩
      exact ⟨case :: cases, .cons first others⟩

theorem describe_iff_of_ways {elements others : List Source}
    (ways : List.Forall₂ (Relation.EqvGen TestCase.Varies) elements others) {cases : List TestCase} :
    List.Forall₂ TestCase.Describes elements cases ↔
      List.Forall₂ TestCase.Describes others cases := by
  induction ways generalizing cases with
  | nil => rfl
  | cons first _ ih =>
    cases cases with
    | nil => simp
    | cons case rest =>
      rw [List.forall₂_cons, List.forall₂_cons, TestCase.describes_iff_of_ways first, ih]

/-- The text of an array is read as a catalog exactly if each element is a test case by its shape,
as far as reading admits the text at all. The catalog has the cases that the elements describe, in
order; another way to write these cases gives the same catalog. -/
theorem ofText_reads_cases {string file : String} {elements : List Source}
    (written : (Source.array elements).WrittenIn string.toList) :
    ((Source.array elements).IsWithin nestingLimit →
      ((∃ catalog, ofText? string file = .ok catalog) ↔
        ∀ element ∈ elements, TestCase.IsCase element)) ∧
    (∀ catalog, ofText? string file = .ok catalog ↔
      List.Forall₂ TestCase.Describes elements catalog.cases) ∧
    ∀ {other otherFile : String} {others : List Source},
      (Source.array others).WrittenIn other.toList →
      List.Forall₂ (Relation.EqvGen TestCase.Varies) elements others →
      ∀ catalog, ofText? other otherFile = .ok catalog ↔ ofText? string file = .ok catalog := by
  refine ⟨fun within => ?_, fun catalog => ofText_ok_iff_describes written, ?_⟩
  · have inside : ∀ element ∈ elements, element.IsWithin (TestCase.datasetNesting + 1) :=
      fun element member => within.item member
    rw [← exists_cases_iff inside]
    constructor
    · rintro ⟨catalog, read⟩
      exact ⟨catalog.cases, (ofText_ok_iff_describes written).mp read⟩
    · rintro ⟨cases, described⟩
      exact ⟨⟨cases⟩, (ofText_ok_iff_describes written).mpr described⟩
  · intro other otherFile others writtenOther ways catalog
    rw [ofText_ok_iff_describes written, ofText_ok_iff_describes writtenOther]
    exact (describe_iff_of_ways ways).symm

/-- A test case as an object with its fields out of order, one of them missing, and with one member
more. -/
def looseCase : Json :=
  .object [("output", .array []), ("note", .null), ("input", .text "[]"), ("name", .text "t1")]

/-- The same test case as an array of its fields. -/
def strictCase : Json :=
  .array [.text "t1", .array [], .text "[]", .array []]

theorem looseCase_read :
    (∀ element ∈ [looseCase.source], TestCase.IsCase element) ∧
    ofText? (Json.array [looseCase]).pretty "cases.json" = .ok ⟨[⟨"t1", [], "[]", "[]"⟩]⟩ ∧
    ofText? (Json.array [strictCase]).pretty "rows.json" = .ok ⟨[⟨"t1", [], "[]", "[]"⟩]⟩ := by
  have written : (Source.array [looseCase.source]).WrittenIn (Json.array [looseCase]).pretty.toList :=
    (Json.array [looseCase]).pretty_writtenIn
  have writtenStrict : (Source.array [strictCase.source]).WrittenIn
      (Json.array [strictCase]).pretty.toList := (Json.array [strictCase]).pretty_writtenIn
  have within : (Source.array [looseCase.source]).IsWithin nestingLimit := by
    refine ⟨by decide, by decide, ?_⟩
    simp [looseCase, source, memberSources, itemSources, Source.strings, itemStrings, memberStrings,
      decode_piecesOf]
  have described : TestCase.Describes looseCase.source ⟨"t1", [], "[]", "[]"⟩ :=
    TestCase.ofSource_eq_some_iff.mp (by decide +kernel)
  have way : Relation.EqvGen TestCase.Varies looseCase.source strictCase.source := by
    have extended : TestCase.Varies
        (.object [(piecesOf "output", .array []), (piecesOf "input", .text (piecesOf "[]")),
          (piecesOf "name", .text (piecesOf "t1"))]) looseCase.source :=
      .extended [(piecesOf "output", .array [])] _ .null (decode_piecesOf "note") (by decide)
    have reordered : TestCase.Varies
        (.object [(piecesOf "output", .array []), (piecesOf "input", .text (piecesOf "[]")),
          (piecesOf "name", .text (piecesOf "t1"))])
        (.object [(piecesOf "name", .text (piecesOf "t1")), (piecesOf "input", .text (piecesOf "[]")),
          (piecesOf "output", .array [])]) := .reordered (List.reverse_perm _).symm
    have unlisted := TestCase.Varies.unlisted (.text (piecesOf "t1")) (.text (piecesOf "[]"))
      (.array []) (decode_piecesOf "name") (decode_piecesOf "input") (decode_piecesOf "output")
    exact .trans _ _ _ (.symm _ _ (.rel _ _ extended))
      (.trans _ _ _ (.rel _ _ reordered) (.rel _ _ unlisted))
  obtain ⟨accepts, loads, same⟩ := @ofText_reads_cases _ "cases.json" _ written
  have loaded := (loads _).mpr (.cons described .nil)
  exact ⟨(accepts within).mp ⟨_, loaded⟩, loaded,
    (same writtenStrict (.cons way .nil) _).mpr loaded⟩

end TestCatalog

end FixtureHarness
