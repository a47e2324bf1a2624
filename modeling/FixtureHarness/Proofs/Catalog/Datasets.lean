import FixtureHarness.Proofs.Catalog.Reading
import FixtureHarness.Proofs.Json.Unambiguous
import Mathlib.Data.List.Forall2

/-! # Stored datasets

What the text of a dataset denotes that was given as a document, and what happens to this text when it
is read again. The numbers of a document are those that their literals are kept with; everything else
is as it was written. A text that was stored once is stored unchanged.
-/

namespace FixtureHarness

open Json

namespace TestCase

/-! ## Datasets given as documents -/

/-- Whether a dataset is given as a document rather than as a string. -/
def IsInline : Source → Prop
  | .text _ => False
  | _ => True

theorem datasetText_of_not_text {value : Json} (notText : ∀ string, value ≠ .text string) :
    datasetText value = value.pretty := by
  cases value with
  | text string => exact (notText string rfl).elim
  | _ => rfl

theorem IsInline.value_ne_text {dataset : Source} (inline : IsInline dataset) {value : Json}
    (read : dataset.value? = some value) (string : String) : value ≠ .text string := by
  rintro rfl
  cases dataset with
  | text pieces => exact inline
  | number literal => simp [Source.value?] at read
  | array items => simp [Source.value?] at read
  | object members => simp [Source.value?] at read
  | null => cases read
  | boolean truth => cases read

/-- A text tells what a dataset was: it denotes one document only, that of the dataset with the
numbers that its literals are kept with. This is the dataset itself if all literals keep their
values. -/
def Tells (stored : String) (dataset : Source) : Prop :=
  ∃ meant kept, dataset.document? Literal.value = some meant ∧
    dataset.document? Literal.kept = some kept ∧
    (∀ document, Denotes stored document ↔ document = kept) ∧
    ((∀ literal ∈ dataset.literals, literal.kept = literal.value) → kept = meant)

theorem tells_of_stored {dataset : Source} {stored : String} (inline : IsInline dataset)
    (kept : stored? dataset = some stored) : Tells stored dataset := by
  obtain ⟨value, within, rfl⟩ := Option.map_eq_some_iff.mp kept
  obtain ⟨-, read⟩ := Option.ite_none_right_eq_some.mp within
  rw [datasetText_of_not_text (inline.value_ne_text read)]
  have document := Source.document_of_value read
  have exists_meant : ∃ meant, dataset.document? Literal.value = some meant :=
    Source.exists_document document
  obtain ⟨meant, means⟩ := exists_meant
  refine ⟨meant, value.document, means, document, fun _ => denotes_pretty_iff, fun same => ?_⟩
  rw [Source.document_congr same, means] at document
  exact (Option.some.inj document).symm

/-- The datasets of a case tell what they were, as far as they were given as documents. -/
def TellsDatasets (element : Source) (case : TestCase) : Prop :=
  ∃ form, form? element = some form ∧ (IsInline form.input → Tells case.input form.input) ∧
    (IsInline form.output → Tells case.output form.output)

/-- A case holds what some written fields give it. -/
structure Form.Gives (form : Form) (case : TestCase) : Prop where
  name : case.name = form.name
  queries : case.queries = form.queries
  input : stored? form.input = some case.input
  output : stored? form.output = some case.output

theorem Form.case_eq_some_iff {form : Form} {case : TestCase} :
    form.case? = some case ↔ form.Gives case := by
  obtain ⟨name, queries, input, output⟩ := case
  simp only [case?, bind, Option.bind_eq_some_iff]
  constructor
  · rintro ⟨_, inputStored, _, outputStored, same⟩
    cases same
    exact ⟨rfl, rfl, inputStored, outputStored⟩
  · rintro ⟨rfl, rfl, inputStored, outputStored⟩
    exact ⟨_, inputStored, _, outputStored, rfl⟩

end TestCase

theorem forall₂_of_mapM {Item Result : Type} {step : Item → Option Result} :
    ∀ {items : List Item} {results : List Result}, items.mapM step = some results →
      List.Forall₂ (fun item result => step item = some result) items results := by
  intro items
  induction items with
  | nil =>
    intro results steps
    cases steps
    exact .nil
  | cons item rest ih =>
    intro results steps
    simp only [List.mapM_cons, bind, Option.bind_eq_some_iff] at steps
    obtain ⟨result, first, others, steps, same⟩ := steps
    cases same
    exact .cons first (ih steps)

/-- In a catalog that is read, every dataset that was given as a document is stored as a text that
tells this document. -/
theorem TestCatalog.inline_datasets_tell {string file : String} {catalog : TestCatalog}
    (loaded : TestCatalog.ofText? string file = .ok catalog) :
    ∃ elements, (Source.array elements).WrittenIn string.toList ∧
      List.Forall₂ TestCase.TellsDatasets elements catalog.cases := by
  obtain ⟨elements, written, cases⟩ := TestCatalog.ofText_eq_ok_iff.mp loaded
  refine ⟨elements, written, (forall₂_of_mapM cases).imp fun element case read => ?_⟩
  obtain ⟨form, isForm, gives⟩ := Option.bind_eq_some_iff.mp read
  rw [TestCase.Form.case_eq_some_iff] at gives
  exact ⟨form, isForm, fun inline => TestCase.tells_of_stored inline gives.input,
    fun inline => TestCase.tells_of_stored inline gives.output⟩

/-- A dataset whose only number is `2 ^ 64 + 1`. -/
def largeBalance : Json :=
  .object [("balance", .number (.integer 18446744073709551617))]

/-- The value that this dataset is kept as. -/
def keptBalance : Json :=
  .object [("balance", .number (.double ⟨false, ⟨4503599627370496, 12⟩⟩))]

/-- A test case with this dataset as its input. -/
def balanceCase : Json :=
  .object [("input", largeBalance), ("name", .text "t1"), ("output", .array []),
    ("sql_queries", .array [])]

theorem balanceCase_read :
    TestCase.ofSource? balanceCase.source = some ⟨"t1", [], keptBalance.pretty, "[]"⟩ := by
  decide +kernel

theorem balanceCase_loaded : TestCatalog.ofText? (Json.array [balanceCase]).pretty "cases.json" =
    .ok ⟨[⟨"t1", [], keptBalance.pretty, "[]"⟩]⟩ :=
  TestCatalog.ofText_eq_ok_iff.mpr ⟨[balanceCase.source], (Json.array [balanceCase]).pretty_writtenIn,
    by simp [List.mapM_cons, balanceCase_read]⟩

theorem balanceCase_tells : ∃ elements,
    (Source.array elements).WrittenIn (Json.array [balanceCase]).pretty.toList ∧
    List.Forall₂ TestCase.TellsDatasets elements [⟨"t1", [], keptBalance.pretty, "[]"⟩] :=
  TestCatalog.inline_datasets_tell balanceCase_loaded

/-- The text that is stored for this dataset does not denote it. -/
theorem largeBalance_not_kept : ∃ catalog element form meant,
    TestCatalog.ofText? (Json.array [balanceCase]).pretty "cases.json" = .ok catalog ∧
    (Source.array [element]).WrittenIn (Json.array [balanceCase]).pretty.toList ∧
    TestCase.form? element = some form ∧ TestCase.IsInline form.input ∧
    form.input.document? Literal.value = some meant ∧
    ∀ case ∈ catalog.cases, ¬ Denotes case.input meant := by
  have isForm : TestCase.form? balanceCase.source =
      some ⟨"t1", [], largeBalance.source, Json.source (.array [])⟩ := rfl
  refine ⟨_, balanceCase.source, _, largeBalance.document, balanceCase_loaded,
    (Json.array [balanceCase]).pretty_writtenIn, isForm, trivial, largeBalance.source_document, ?_⟩
  intro case member denotes
  obtain rfl := List.mem_singleton.mp member
  have same := congrFun (Document.object.inj (denotes_pretty_iff.mp denotes)) "balance"
  have numbers : Number.value (.integer 18446744073709551617) =
      Number.value (.double ⟨false, ⟨4503599627370496, 12⟩⟩) := by
    simpa [lastValue?, lookupKey, memberDocuments, document] using same
  have shortest : Magnitude.shortest .toEven ⟨4503599627370496, 12⟩ = ⟨18446744073709552, 3⟩ := by
    decide +kernel
  simp only [Number.value, signFactor, shortest, Decimal.value] at numbers
  norm_num at numbers

/-! ## Storing again -/

namespace TestCase

/-- A text lists a test case with some written fields between others. -/
def Lists (string : String) (before : List TestCase) (form : Form) (after : List TestCase) : Prop :=
  ∃ front element back, (Source.array (front ++ element :: back)).WrittenIn string.toList ∧
    front.mapM ofSource? = some before ∧ form? element = some form ∧
    back.mapM ofSource? = some after

theorem Lists.ofText {string : String} {before after : List TestCase} {form : Form}
    (lists : Lists string before form after) (file : String) {case : TestCase}
    (gives : form.Gives case) :
    TestCatalog.ofText? string file = .ok ⟨before ++ case :: after⟩ := by
  obtain ⟨front, element, back, written, readFront, isForm, readBack⟩ := lists
  have read : ofSource? element = some case := by
    rw [ofSource?, isForm]
    exact Form.case_eq_some_iff.mpr gives
  refine TestCatalog.ofText_eq_ok_iff.mpr ⟨_, written, ?_⟩
  simp [List.mapM_append, List.mapM_cons, readFront, read, readBack]

/-- The text of a canonical value with integers of 64 bits is stored unchanged when it is given as a
dataset. -/
theorem stored_of_writtenAs {value : Json} (notText : ∀ string, value ≠ .text string)
    (integers : value.HasIntegers) (sorted : value.IsCanonical)
    (shallow : value.nesting ≤ datasetNesting) {dataset : Source}
    (written : dataset.WrittenAs (datasetText value).toList) :
    stored? dataset = some (datasetText value) := by
  have spelled : value.source.WrittenAs (datasetText value).toList := by
    rw [datasetText_of_not_text notText, pretty, String.toList_ofList]
    exact prettyAt_writtenAs 0 value
  have atEnd : Delimited [] := delimited_of_isBlank isBlank_nil
  obtain ⟨rfl, -⟩ := written.unique spelled atEnd atEnd rfl
  rw [stored?, valueWithin?, if_pos (value.source_depth.trans_le shallow), integers.source_value,
    sorted.canonical_eq, Option.map_some]

/-- The text that a value with integers of 64 bits is stored as is read to the same document, and to
the value itself if it is canonical. Given as a dataset of a test case, it is stored unchanged then. -/
theorem datasetText_stable {value : Json} (notText : ∀ string, value ≠ .text string)
    (integers : value.HasIntegers) (shallow : value.nesting ≤ datasetNesting) :
    (∃ again, Json.ofText? (datasetText value) = .ok again ∧ again.document = value.document ∧
      (value.IsCanonical → again = value)) ∧
    (value.IsCanonical → ∀ {string : String} {before after : List TestCase} {form : Form},
      Lists string before form after → ∀ file other : String,
        (form.input.WrittenAs (datasetText value).toList → stored? form.output = some other →
          TestCatalog.ofText? string file =
            .ok ⟨before ++ ⟨form.name, form.queries, datasetText value, other⟩ :: after⟩) ∧
        (form.output.WrittenAs (datasetText value).toList → stored? form.input = some other →
          TestCatalog.ofText? string file =
            .ok ⟨before ++ ⟨form.name, form.queries, other, datasetText value⟩ :: after⟩)) := by
  refine ⟨⟨value.canonical, ?_, value.canonical_document, IsCanonical.canonical_eq⟩, ?_⟩
  · have within : value.nesting ≤ nestingLimit := shallow.trans (by decide)
    rw [datasetText_of_not_text notText, ofText_pretty integers within]
  · intro sorted string before after form lists file other
    have stored {dataset : Source} (written : dataset.WrittenAs (datasetText value).toList) :
        stored? dataset = some (datasetText value) :=
      stored_of_writtenAs notText integers sorted shallow written
    exact ⟨fun written output => lists.ofText file ⟨rfl, rfl, stored written, output⟩,
      fun written input => lists.ofText file ⟨rfl, rfl, input, stored written⟩⟩

/-- A value with the least and the greatest integer, escapes, and an empty container. -/
def ledger : Json :=
  .object [("\t\"", .array [.number (.integer (-9223372036854775808)),
    .number (.integer 18446744073709551615), .null]), ("\u00e9", .object [])]

/-- A text with one test case in an array, of a name, no fragments and two datasets. -/
def rowText (name input output : List Char) : List Char :=
  '[' :: '[' :: (name ++ ',' :: '[' :: ']' :: ',' :: (input ++ ',' :: (output ++ [']', ']'])))

theorem rowText_lists {name output : String} {input : Source} {body : List Char}
    (written : input.WrittenAs body) :
    Lists (String.ofList (rowText (escape name) body (escape output))) []
      ⟨name, [], input, .text (piecesOf output)⟩ [] := by
  have string (string : String) : (Source.text (piecesOf string)).WrittenAs (escape string) :=
    ⟨allValid_piecesOf string, (quotedText_piecesOf string).symm⟩
  have comma : Gap false [','] := .comma isBlank_nil isBlank_nil
  have row : ItemsWrittenAs true
      [.text (piecesOf name), .array [], input, .text (piecesOf output)] _ :=
    ⟨[], escape name, _, .opening isBlank_nil, string name,
      ⟨[','], ['[', ']'], _, comma, ⟨_, ⟨[], isBlank_nil, rfl⟩, rfl⟩,
        ⟨[','], body, _, comma, written,
          ⟨[','], escape output, _, comma, string output, ⟨[], isBlank_nil, rfl⟩, rfl⟩, rfl⟩, rfl⟩,
      rfl⟩
  refine ⟨[], .array [.text (piecesOf name), .array [], input, .text (piecesOf output)], [],
    ⟨[], _, [], isBlank_nil, ⟨_, ⟨[], _, _, .opening isBlank_nil, ⟨_, row, rfl⟩,
      ⟨[], isBlank_nil, rfl⟩, rfl⟩, rfl⟩, isBlank_nil, ?_⟩, rfl, ?_, rfl⟩
  · simp [rowText]
  · simp [form?, Source.string?, decode_piecesOf, queryNames?, Source.list?]

theorem ledger_stable :
    (∃ again, Json.ofText? (datasetText ledger) = .ok again ∧
      again.document = ledger.document ∧ again = ledger) ∧
    TestCatalog.ofText?
      (String.ofList (rowText (escape "t1") (datasetText ledger).toList (escape "[]"))) "cases.json" =
        .ok ⟨[⟨"t1", [], datasetText ledger, "[]"⟩]⟩ := by
  have notText (string : String) : ledger ≠ .text string := by
    intro same
    cases same
  have integers : ledger.HasIntegers :=
    ⟨trivial, ⟨trivial, ⟨_, rfl, by decide, by decide⟩, ⟨_, rfl, by decide, by decide⟩, trivial,
      trivial⟩, ⟨trivial, trivial⟩, trivial⟩
  have sorted : ledger.IsCanonical :=
    ⟨isSorted_cons.mpr ⟨by decide, List.pairwise_singleton ..⟩,
      ⟨trivial, trivial, trivial, trivial, trivial⟩, ⟨List.Pairwise.nil, trivial⟩, trivial⟩
  have spelled : ledger.source.WrittenAs (datasetText ledger).toList := by
    rw [datasetText_of_not_text notText, pretty, String.toList_ofList]
    exact prettyAt_writtenAs 0 ledger
  obtain ⟨⟨again, read, document, same⟩, stored⟩ :=
    datasetText_stable notText integers (by decide)
  refine ⟨⟨again, read, document, same sorted⟩, ?_⟩
  refine (stored sorted (rowText_lists spelled) "cases.json" "[]").1 spelled ?_
  simp [stored?, valueWithin?, Source.depth, Source.value?, decode_piecesOf, datasetText]

end TestCase

end FixtureHarness
