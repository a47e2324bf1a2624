import FixtureHarness.Json.Mismatch

/-! # Typed data from JSON values

Decoders take typed data out of a document that has been read. A record is given as an object of
named fields, or as an array of all its fields in order.
-/

namespace FixtureHarness.Json

/-- Takes data of one type out of a value. -/
abbrev Decoder (Result : Type) := Json → Except Mismatch Result

/-- A value that is not what was expected. -/
def unexpected {Result : Type} (value : Json) (expected : String) : Except Mismatch Result :=
  .error (.wrongType (.ofJson value) expected)

/-- Decodes a string. -/
def decodeText : Decoder String
  | text held => .ok held
  | value => value.unexpected "a string"

/-- Decodes an integer that is not negative; the name of its range is for the complaint. -/
def decodeCount (range : String) : Decoder Nat
  | number (.integer value) =>
    if 0 ≤ value then .ok value.toNat else .error (.wrongValue (.integer value) range)
  | value => value.unexpected range

/-- Decodes a list of items. -/
def decodeList {Item : Type} (decode : Decoder Item) : Decoder (List Item)
  | array items => items.mapM decode
  | value => value.unexpected "a sequence"

/-- Decodes a value that may be null. -/
def decodeOptional {Item : Type} (decode : Decoder Item) : Decoder (Option Item)
  | null => .ok none
  | value => (decode value).map some

/-- Decodes the member of an object under a key, if there is one. -/
def decodeMember? {Item : Type} (members : List (String × Json)) (key : String)
    (decode : Decoder Item) : Except Mismatch (Option Item) :=
  match lookupKey key members with
  | some value => (decode value).map some
  | none => .ok none

/-- Asks for a field that may not be missing. -/
def needField {Item : Type} (key : String) : Option Item → Except Mismatch Item
  | some item => .ok item
  | none => .error (.missingField key)

/-- What the fields of a record are called together, and how many they are. -/
structure Shape where
  title : String
  size : Nat

/-- Decodes the element of an array that stands for a field of a record. -/
def Shape.decodeElement {Item : Type} (shape : Shape) (items : List Json) (index : Nat)
    (decode : Decoder Item) : Except Mismatch Item :=
  match items[index]? with
  | some value => decode value
  | none => .error (.wrongLength index s!"{shape.title} with {shape.size} elements")

/-- Complains about an array with more elements than a record has fields. -/
def Shape.checkLength (shape : Shape) (items : List Json) : Except Mismatch Unit :=
  if shape.size < items.length then
    .error (.wrongLength items.length "fewer elements in array")
  else .ok ()

end FixtureHarness.Json
