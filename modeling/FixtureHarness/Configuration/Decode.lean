import FixtureHarness.Configuration.Basic
import FixtureHarness.Failure
import FixtureHarness.Text.Blank
import FixtureHarness.Yaml.Node
import FixtureHarness.Yaml.Scalar.Reading

/-! # Reading configurations

A configuration is a mapping whose entries replace the defaults. A key that is unknown or repeated
is an error; an entry without content leaves a record or list as it is by default; a text is any
scalar, taken as it is written. The first error in the order of the text counts, be it one of the
data or the place where the document breaks off.
-/

namespace FixtureHarness.Configuration

open Yaml (Document DocumentError Mark Node)

/-- A step from a value to one inside it. -/
inductive Turn where
  | key (name : String)
  | index (number : Nat)
  /-- To the value of a key that is an alias. -/
  | unnamed
  deriving DecidableEq, Repr

/-- Where a value stands, outermost step first. -/
abbrev Place := List Turn

/-- The text of a place, starting from that of the place around it. -/
def placeFrom : String → Place → String
  | outer, [] => outer
  | outer, .index number :: rest => placeFrom s!"{outer}[{number}]" rest
  | outer, .key name :: rest =>
    placeFrom (if outer.isEmpty then name else s!"{outer}.{name}") rest
  | outer, .unnamed :: rest =>
    placeFrom (if outer.isEmpty then "?" else s!"{outer}.?") rest

/-- Why a document is not a configuration. -/
inductive DecodeError where
  | data (what : String) (place : Place) (mark : Mark)
  | document (error : DocumentError)
  | severalDocuments
  deriving Repr

namespace DecodeError

/-- The message of an error. -/
def message : DecodeError → String
  | data what place mark =>
    let leading := if place.isEmpty then "" else placeFrom "" place ++ ": "
    s!"{leading}{what}{mark.place}"
  | document (.badText error) => error.message
  | document (.unknownAnchor mark) => s!"unknown anchor{mark.place}"
  | severalDocuments =>
    "deserializing from YAML containing more than one document is not supported"

end DecodeError

/-- The result of reading a part of a configuration. -/
abbrev Decoded (Result : Type) := Except DecodeError Result

/-- Fails where the document breaks off. -/
def breakOff {Result : Type} (document : Document) : Decoded Result :=
  match document.error? with
  | some error => .error (.document error)
  | none => .error .severalDocuments

/-- The complaint about a collection that is not what was expected. -/
def collectionMismatch (found expected : String) : String :=
  s!"invalid type: {found}, expected {expected}"

/-- Fails at a node that is not what was expected. -/
def mismatch {Result : Type} (document : Document) (place : Place) (node : Node)
    (expected : String) : Decoded Result :=
  match node with
  | .scalar mark _ tag text style =>
    .error (.data (Yaml.scalarMismatch tag text style expected) place mark)
  | .sequence mark _ _ => .error (.data (collectionMismatch "sequence" expected) place mark)
  | .mapping mark _ _ => .error (.data (collectionMismatch "map" expected) place mark)
  | .aliasOf _ _ => breakOff document
  | .cut => breakOff document

/-- Reads a text with the mark of its scalar. -/
def decodeScalar (document : Document) (expected : String) (place : Place) (node : Node) :
    Decoded (String × Mark) :=
  match document.target node with
  | .scalar mark _ _ text _ => .ok (String.ofList text, mark)
  | target => mismatch document place target expected

/-- Reads a text. -/
def decodeText (document : Document) (expected : String) (place : Place) (node : Node) :
    Decoded String :=
  (decodeScalar document expected place node).map (·.1)

/-- Reads a path. -/
def decodePath (document : Document) (place : Place) (node : Node) : Decoded Path :=
  (decodeText document "path string" place node).map Path.mk

/-- Reads texts from a number on. -/
def decodeItems (document : Document) (place : Place) : Nat → List Node → Decoded (List String)
  | _, [] => .ok []
  | number, item :: rest => do
    let text ← decodeText document "a string" (place ++ [.index number]) item
    let texts ← decodeItems document place (number + 1) rest
    .ok (text :: texts)

/-- Reads a list of texts. -/
def decodeTexts (document : Document) (place : Place) (node : Node) : Decoded (List String) :=
  match document.target node with
  | .sequence _ _ items => decodeItems document place 0 items
  | target => if target.isVoid then .ok [] else mismatch document place target "a sequence"

/-- A field of a record: its name, and how its value is read into the record. -/
structure Field (Record : Type) where
  name : String
  decode : Document → Place → Node → Record → Decoded Record

/-- The complaint about an unknown field. -/
def unknownField (name : String) (known : List String) : String :=
  s!"unknown field `{name}`, expected one of " ++
    ", ".intercalate (known.map fun field => s!"`{field}`")

/-- The step to the value of a key. -/
def turnOf (name : String) : Node → Turn
  | .scalar .. => .key name
  | _ => .unnamed

/-- Reads entries into a record. `seen` are the names of the fields read before, `mark` is that of
the mapping. -/
def decodeEntries {Record : Type} (fields : List (Field Record)) (document : Document)
    (place : Place) (mark : Mark) :
    List String → Record → List (Node × Node) → Decoded Record
  | _, record, [] => .ok record
  | seen, record, (key, value) :: rest => do
    let (name, keyMark) ← decodeScalar document "field identifier" place key
    match fields.find? fun field => field.name = name with
    | none =>
      .error (.data (unknownField name (fields.map (·.name))) place keyMark)
    | some field =>
      if seen.contains name then .error (.data s!"duplicate field `{name}`" place mark)
      else
        let record ← field.decode document (place ++ [turnOf name key]) value record
        decodeEntries fields document place mark (name :: seen) record rest

/-- Reads a record, starting from its default. -/
def decodeRecord {Record : Type} (title : String) (fields : List (Field Record))
    (document : Document) (place : Place) (node : Node) (default : Record) : Decoded Record :=
  match document.target node with
  | .mapping mark _ entries => decodeEntries fields document place mark [] default entries
  | target => if target.isVoid then .ok default else mismatch document place target title

/-- A field that holds a text. -/
def textField {Record : Type} (name : String) (set : Record → String → Record) : Field Record where
  name := name
  decode document place node record :=
    (decodeText document "a string" place node).map (set record)

/-- A field that holds a path. -/
def pathField {Record : Type} (name : String) (set : Record → Path → Record) : Field Record where
  name := name
  decode document place node record := (decodePath document place node).map (set record)

/-- The fields of the fixture names. -/
def fixtureFields : List (Field FixtureNames) := [
  textField "statements" fun names text => { names with statements := text },
  textField "input" fun names text => { names with input := text },
  textField "output" fun names text => { names with output := text }]

/-- The field of the leading arguments. -/
def argumentsField : Field RunnerSettings where
  name := "args"
  decode document place node settings :=
    (decodeTexts document place node).map fun texts => { settings with arguments := texts }

/-- The fields of the runner settings. -/
def runnerFields : List (Field RunnerSettings) := [
  textField "program" fun settings text => { settings with program := text },
  argumentsField,
  textField "script_flag" fun settings text => { settings with scriptFlag := text },
  textField "input_flag" fun settings text => { settings with inputFlag := text },
  textField "output_flag" fun settings text => { settings with outputFlag := text }]

/-- The field of the fixture names. -/
def fixturesField : Field Configuration where
  name := "fixtures"
  decode document place node configuration :=
    (decodeRecord "struct FixtureNames" fixtureFields document place node {}).map fun names =>
      { configuration with fixtures := names }

/-- The field of the runner settings. -/
def runnerField : Field Configuration where
  name := "runner"
  decode document place node configuration :=
    (decodeRecord "struct RunnerConfig" runnerFields document place node {}).map fun settings =>
      { configuration with runner := settings }

/-- The fields of a configuration. -/
def fields : List (Field Configuration) := [
  pathField "root_dir" fun configuration path => { configuration with root := path },
  pathField "queries_file" fun configuration path => { configuration with queriesFile := path },
  pathField "test_data_file" fun configuration path => { configuration with casesFile := path },
  pathField "fixture_dir" fun configuration path => { configuration with fixtureDirectory := path },
  fixturesField,
  runnerField]

/-- Reads a configuration from a node. -/
def ofNode? (document : Document) (node : Node) : Decoded Configuration :=
  decodeRecord "struct HarnessConfig" fields document [] node {}

/-- Reads a configuration from a document, which has to be whole and the only one. -/
def ofDocument? (document : Document) : Decoded Configuration := do
  let configuration ← ofNode? document document.root
  match document.error? with
  | some error => .error (.document error)
  | none => if document.hasMore then .error .severalDocuments else .ok configuration

/-- Reads a configuration from the text of a file. A text of white space gives the defaults. -/
def ofText? (text file : String) : Except Failure Configuration :=
  if (Text.trim text.toList).isEmpty then .ok {}
  else
    match ofDocument? (.ofText text) with
    | .ok configuration => .ok configuration
    | .error error => .error (.configText file error.message)

end FixtureHarness.Configuration
