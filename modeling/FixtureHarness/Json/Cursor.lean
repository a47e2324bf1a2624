import FixtureHarness.Json.Mismatch

/-! # Reading positions and faults

A cursor is the rest of a text with the number of bytes read so far. A fault of reading keeps the
byte offset it was noticed at; the line and the column that messages show are counted from the whole
text.
-/

namespace FixtureHarness.Json

/-- The construct that the end of a text interrupts. -/
inductive Construct where
  | list
  | object
  | string
  | value
  deriving DecidableEq, Repr

/-- Why a text is not the JSON document that was expected. -/
inductive Fault where
  | endInside (construct : Construct)
  | expectedColon
  | expectedListEnd
  | expectedObjectEnd
  | expectedIdent
  | expectedValue
  | invalidEscape
  | invalidNumber
  | numberOutOfRange
  | loneSurrogate
  | cutSurrogatePair
  | controlCharacter
  | keyNotString
  | trailingComma
  | trailingCharacters
  | tooDeep
  | mismatch (cause : Mismatch)
  deriving DecidableEq, Repr

namespace Fault

/-- The text of a fault. -/
def message : Fault → String
  | endInside .list => "EOF while parsing a list"
  | endInside .object => "EOF while parsing an object"
  | endInside .string => "EOF while parsing a string"
  | endInside .value => "EOF while parsing a value"
  | expectedColon => "expected `:`"
  | expectedListEnd => "expected `,` or `]`"
  | expectedObjectEnd => "expected `,` or `\x7d`"
  | expectedIdent => "expected ident"
  | expectedValue => "expected value"
  | invalidEscape => "invalid escape"
  | invalidNumber => "invalid number"
  | numberOutOfRange => "number out of range"
  | loneSurrogate => "lone leading surrogate in hex escape"
  | cutSurrogatePair => "unexpected end of hex escape"
  | controlCharacter =>
    "control character (\\u0000-\\u001F) found while parsing a string"
  | keyNotString => "key must be a string"
  | trailingComma => "trailing comma"
  | trailingCharacters => "trailing characters"
  | tooDeep => "recursion limit exceeded"
  | mismatch cause => cause.message

end Fault

/-- A fault and the number of bytes before the place where it was noticed. -/
structure ReadError where
  fault : Fault
  offset : Nat
  deriving DecidableEq, Repr

/-- The rest of a text, and how many bytes of the whole lie before it. -/
structure Cursor where
  rest : List Char
  offset : Nat
  deriving DecidableEq, Repr

/-- A step of reading: a result and the cursor behind it, or an error. -/
abbrev Reader (Result : Type) := Cursor → Except ReadError (Result × Cursor)

namespace Cursor

/-- The beginning of a text. -/
def start (text : List Char) : Cursor := ⟨text, 0⟩

/-- The cursor behind one character. -/
def past (char : Char) (rest : List Char) (cursor : Cursor) : Cursor :=
  ⟨rest, cursor.offset + char.utf8Size⟩

/-- A fault at the cursor. -/
def fail {Result : Type} (cursor : Cursor) (fault : Fault) : Except ReadError Result :=
  .error ⟨fault, cursor.offset⟩

/-- A fault at the next byte, which counts unless the text is at its end. -/
def failNext {Result : Type} (cursor : Cursor) (fault : Fault) : Except ReadError Result :=
  .error ⟨fault, if cursor.rest.isEmpty then cursor.offset else cursor.offset + 1⟩

/-- Skips a number of ASCII characters. -/
def skip (count : Nat) (cursor : Cursor) : Cursor :=
  ⟨cursor.rest.drop count, cursor.offset + count⟩

/-- Whether a character is white space between the tokens of a document. -/
def isSpace (char : Char) : Bool :=
  char = ' ' || char = '\n' || char = '\t' || char = '\r'

/-- Skips white space. -/
def skipSpace (cursor : Cursor) : Cursor :=
  cursor.skip (cursor.rest.takeWhile isSpace).length

end Cursor

namespace ReadError

/-- The bytes of a text up to an offset, counted by lines: the line that an offset lies in, from
one, and the number of bytes of that line before it. -/
def position (text : String) (offset : Nat) : Nat × Nat :=
  let before := (Utf8.bytesOf text).take offset
  let line := before.reverse.takeWhile (· ≠ 10)
  (before.count 10 + 1, line.length)

/-- The message of an error that was met in a text. -/
def message (error : ReadError) (text : String) : String :=
  let place := position text error.offset
  s!"{error.fault.message} at line {place.1} column {place.2}"

end ReadError

end FixtureHarness.Json
