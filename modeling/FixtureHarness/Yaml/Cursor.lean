import FixtureHarness.Text.Lines
import FixtureHarness.Yaml.Mark

/-! # Reading positions

A cursor is the rest of a text with the mark of its beginning. The classes of characters that the
syntax knows are predicates on the next character, which is absent at the end of the text.
-/

namespace FixtureHarness.Yaml

/-! ## Classes of characters -/

/-- Whether a character ends a line. -/
def isBreak (char : Char) : Bool :=
  char = '\n' || char = '\r' || char = '\u0085' || char = '\u2028' || char = '\u2029'

/-- Whether a character is a blank inside a line. -/
def isBlank (char : Char) : Bool :=
  char = ' ' || char = '\t'

/-- Whether a character is a blank or ends a line. -/
def isSpace (char : Char) : Bool :=
  isBlank char || isBreak char

/-- Whether a character is a letter, a digit, a hyphen or a low line. -/
def isWordChar (char : Char) : Bool :=
  ('0' ≤ char && char ≤ '9') || ('a' ≤ char && char ≤ 'z') || ('A' ≤ char && char ≤ 'Z') ||
    char = '_' || char = '-'

/-- The value of a digit in base sixteen. -/
def hexValue? (char : Char) : Option Nat :=
  if '0' ≤ char ∧ char ≤ '9' then some (char.toNat - 0x30)
  else if 'a' ≤ char ∧ char ≤ 'f' then some (char.toNat - 0x61 + 10)
  else if 'A' ≤ char ∧ char ≤ 'F' then some (char.toNat - 0x41 + 10)
  else none

/-- Whether the next character is one of a class. -/
def next (isMember : Char → Bool) : Option Char → Bool
  | some char => isMember char
  | none => false

/-- Whether the next character is one of a class, or the text ends. -/
def nextOrEnd (isMember : Char → Bool) : Option Char → Bool
  | some char => isMember char
  | none => true

/-! ## Cursors -/

/-- The rest of a text and the mark of its beginning. -/
structure Cursor where
  rest : List Char
  mark : Mark
  deriving Repr

/-- A step of reading: a result and the cursor behind it, or an error. -/
abbrev Scanner (Result : Type) := Cursor → Except SyntaxError (Result × Cursor)

namespace Cursor

/-- The next character. -/
def head? (cursor : Cursor) : Option Char :=
  cursor.rest.head?

/-- The character a number of places ahead. -/
def ahead? (count : Nat) (cursor : Cursor) : Option Char :=
  cursor.rest[count]?

/-- Whether a text comes next. -/
def sees (text : String) (cursor : Cursor) : Bool :=
  text.toList.isPrefixOf cursor.rest

/-- The number of bytes of so many characters from the cursor on. -/
def width (count : Nat) (cursor : Cursor) : Nat :=
  Text.byteCount (cursor.rest.take count)

/-- Skips characters that end no line. -/
def skip (count : Nat) (cursor : Cursor) : Cursor :=
  ⟨cursor.rest.drop count,
    { cursor.mark with
      index := cursor.mark.index + cursor.width count
      column := cursor.mark.column + count }⟩

/-- The longest run of characters of a class that ends no line, and the cursor behind it. -/
def span (isMember : Char → Bool) (cursor : Cursor) : List Char × Cursor :=
  let run := cursor.rest.takeWhile isMember
  (run, cursor.skip run.length)

/-- Skips the characters of a class that ends no line. -/
def skipWhile (isMember : Char → Bool) (cursor : Cursor) : Cursor :=
  (cursor.span isMember).2

/-- Skips a line ending. -/
def skipBreak (cursor : Cursor) : Cursor :=
  let count := if cursor.sees "\r\n" then 2 else 1
  ⟨cursor.rest.drop count,
    { index := cursor.mark.index + cursor.width count
      line := cursor.mark.line + 1
      column := 0 }⟩

/-- The line ending that comes next as it counts in a text: the two separators of Unicode stand for
themselves, all others for a line feed. -/
def breakText (cursor : Cursor) : List Char :=
  match cursor.head? with
  | some char => if char = '\u2028' || char = '\u2029' then [char] else ['\n']
  | none => []

/-- Skips a comment and the blanks before it. -/
def skipComment (cursor : Cursor) : Cursor :=
  let cursor := cursor.skipWhile isBlank
  if cursor.head? = some '#' then cursor.skipWhile fun char => !isBreak char else cursor

/-- Whether a line begins here with a mark that separates documents. -/
def atDocumentMark (cursor : Cursor) : Bool :=
  cursor.mark.column = 0 && (cursor.sees "---" || cursor.sees "...") &&
    nextOrEnd isSpace (cursor.ahead? 3)

/-- A problem at the cursor without a context. -/
def fail {Result : Type} (cursor : Cursor) (problem : String) : Except SyntaxError Result :=
  .error ⟨problem, cursor.mark, none, 0⟩

/-- A problem at the cursor inside something that began before. -/
def failIn {Result : Type} (cursor : Cursor) (activity : String) (start : Mark)
    (problem : String) : Except SyntaxError Result :=
  .error ⟨problem, cursor.mark, some ⟨activity, start⟩, 0⟩

end Cursor

end FixtureHarness.Yaml
