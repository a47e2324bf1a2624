import FixtureHarness.Failure
import FixtureHarness.Json.Printer
import FixtureHarness.Json.Reader

/-! # The test-case catalog

The test cases in the order of their declaration. A case is read from an object with named fields,
in any order and among fields that are skipped, or from an array with the fields in order. A dataset
given as a string is kept as it is; any other document is written again in its pretty form.
-/

namespace FixtureHarness

/-- A named test case: the fragments of its script and its two datasets. -/
structure TestCase where
  name : String
  queries : List String
  input : String
  output : String
  deriving DecidableEq, Repr, Inhabited

/-- The text that a dataset is stored as. -/
def datasetText : Json → String
  | .text text => text
  | value => value.pretty

namespace TestCase

/-- The fields of a case that have been read. -/
structure Draft where
  name? : Option String
  queries? : Option (List String)
  input? : Option String
  output? : Option String

/-- Nothing read yet. -/
def Draft.empty : Draft := ⟨none, none, none, none⟩

/-- What the fields of a case are called together. -/
def title : String := "struct TestCase"

/-- The complaint about an array with too few fields. -/
def tooShort (length : Nat) : Json.Fault :=
  .mismatch (.wrongLength length s!"{title} with 4 elements")

/-- The containers that may stand inside each other in a dataset. -/
def datasetNesting : Nat := Json.nestingLimit - 2

/-- Reads a dataset. -/
def readDataset : Json.Reader String := fun cursor => do
  let (value, cursor) ← Json.readNested datasetNesting cursor
  .ok (datasetText value, cursor)

/-- Where a cursor stands after the attempt to close an object. -/
def closingOffset (cursor : Json.Cursor) : Nat :=
  let cursor := cursor.skipSpace
  if cursor.rest.head? = some '\x7d' then cursor.offset + 1 else cursor.offset

/-- The case of a complete draft, or the first field that is missing. -/
def Draft.complete? (draft : Draft) : Except Mismatch TestCase :=
  match draft.name?, draft.input?, draft.output? with
  | none, _, _ => .error (.missingField "name")
  | _, none, _ => .error (.missingField "input")
  | _, _, none => .error (.missingField "output")
  | some name, some input, some output => .ok ⟨name, draft.queries?.getD [], input, output⟩

/-- Reads the value of a field into a draft. A field that is there already is a fault, one of
another name is skipped. -/
def readField (key : String) (draft : Draft) : Json.Reader Draft := fun cursor =>
  let repeated : Except Json.ReadError (Draft × Json.Cursor) :=
    .error ⟨.mismatch (.duplicateField key), closingOffset cursor⟩
  match key with
  | "name" =>
    if draft.name?.isSome then repeated else do
      let ((), cursor) ← Json.readColon cursor
      let (name, cursor) ← Json.readText cursor
      .ok ({ draft with name? := some name }, cursor)
  | "sql_queries" =>
    if draft.queries?.isSome then repeated else do
      let ((), cursor) ← Json.readColon cursor
      let (queries, cursor) ← Json.readList Json.readText cursor
      .ok ({ draft with queries? := some queries }, cursor)
  | "input" =>
    if draft.input?.isSome then repeated else do
      let ((), cursor) ← Json.readColon cursor
      let (input, cursor) ← readDataset cursor
      .ok ({ draft with input? := some input }, cursor)
  | "output" =>
    if draft.output?.isSome then repeated else do
      let ((), cursor) ← Json.readColon cursor
      let (output, cursor) ← readDataset cursor
      .ok ({ draft with output? := some output }, cursor)
  | _ => do
    let ((), cursor) ← Json.readColon cursor
    let ((), cursor) ← Json.skipValue cursor
    .ok (draft, cursor)

/-- Reads the fields of a case behind the opening brace; the fuel bounds their number. -/
def readFields : Nat → Bool → Draft → Json.Reader TestCase
  | 0, _, _, cursor => cursor.fail (.endInside .object)
  | fuel + 1, first, draft, cursor => do
    let (key, cursor) ← Json.readKey? first cursor
    match key with
    | none =>
      match draft.complete? with
      | .ok case => .ok (case, cursor.skip 1)
      | .error cause => (cursor.skip 1).fail (.mismatch cause)
    | some key =>
      let (draft, cursor) ← readField key draft cursor
      readFields fuel false draft cursor

/-- Reads the next field of an array, or nothing before the closing bracket, where the cursor
stays. -/
def readElement? {Item : Type} (read : Json.Reader Item) (first : Bool) :
    Json.Reader (Option Item) := fun cursor =>
  let cursor := cursor.skipSpace
  let next (cursor : Json.Cursor) : Except Json.ReadError (Option Item × Json.Cursor) := do
    let (item, cursor) ← read cursor
    .ok (some item, cursor)
  match cursor.rest with
  | [] => cursor.fail (.endInside .list)
  | ']' :: _ => .ok (none, cursor)
  | char :: _ =>
    if first then next cursor
    else if char = ',' then
      let cursor := (cursor.skip 1).skipSpace
      match cursor.rest with
      | [] => cursor.fail (.endInside .value)
      | ']' :: _ => cursor.failNext .trailingComma
      | _ => next cursor
    else cursor.failNext .expectedListEnd

/-- Reads the closing bracket of an array that may have no more fields. -/
def readArrayEnd : Json.Reader Unit := fun cursor =>
  let cursor := cursor.skipSpace
  match cursor.rest with
  | [] => cursor.fail (.endInside .list)
  | ']' :: _ => .ok ((), cursor.skip 1)
  | ',' :: _ =>
    let cursor := (cursor.skip 1).skipSpace
    cursor.failNext
      (if cursor.rest.head? = some ']' then .trailingComma else .trailingCharacters)
  | _ => cursor.failNext .trailingCharacters

/-- Reads a case from an array behind the opening bracket. -/
def readArray : Json.Reader TestCase := fun cursor => do
  let (name, cursor) ← readElement? Json.readText true cursor
  match name with
  | none => (cursor.skip 1).fail (tooShort 0)
  | some name =>
    let (queries, cursor) ← readElement? (Json.readList Json.readText) false cursor
    let (input, cursor) ← readElement? readDataset false cursor
    match input with
    | none => (cursor.skip 1).fail (tooShort 2)
    | some input =>
      let (output, cursor) ← readElement? readDataset false cursor
      match output with
      | none => (cursor.skip 1).fail (tooShort 3)
      | some output =>
        let ((), cursor) ← readArrayEnd cursor
        .ok (⟨name, queries.getD [], input, output⟩, cursor)

/-- Reads a case. -/
def reader : Json.Reader TestCase := fun cursor =>
  let cursor := cursor.skipSpace
  match cursor.rest with
  | [] => cursor.fail (.endInside .value)
  | '[' :: _ => readArray (cursor.skip 1)
  | '\x7b' :: _ => readFields (cursor.rest.length + 1) true .empty (cursor.skip 1)
  | _ => Json.wrongType title cursor

/-- A case as a document. -/
def toJson (case : TestCase) : Json :=
  .object [("name", .text case.name), ("sql_queries", .array (case.queries.map .text)),
    ("input", .text case.input), ("output", .text case.output)]

end TestCase

/-- Test cases in the order of their declaration. -/
structure TestCatalog where
  cases : List TestCase
  deriving DecidableEq, Repr, Inhabited

namespace TestCatalog

/-- The first case of a name, the only one that can be reached. -/
def find? (catalog : TestCatalog) (name : String) : Option TestCase :=
  catalog.cases.find? fun case => case.name = name

/-- The names of the cases, in order. -/
def names (catalog : TestCatalog) : List String :=
  catalog.cases.map (·.name)

/-- The number of cases. -/
def size (catalog : TestCatalog) : Nat :=
  catalog.cases.length

/-- Reads an array of cases. -/
def reader : Json.Reader TestCatalog := fun cursor => do
  let (cases, cursor) ← Json.readList TestCase.reader cursor
  .ok (⟨cases⟩, cursor)

/-- Reads a catalog from the text of a file. -/
def ofText? (text file : String) : Except Failure TestCatalog :=
  match Json.readAll reader text with
  | .ok catalog => .ok catalog
  | .error error => .error (.catalogText file (error.message text))

/-- A catalog as a document. -/
def toJson (catalog : TestCatalog) : Json :=
  .array (catalog.cases.map TestCase.toJson)

end TestCatalog

end FixtureHarness
