import FixtureHarness.Log.Pattern.Fault
import FixtureHarness.Text.Blank

/-! # Reading places of patterns

A cursor is the rest of a pattern with the place where it begins, and says whether white space and
comments count.
-/

namespace FixtureHarness.Log.Pattern

/-- The rest of a pattern. -/
structure Cursor where
  rest : List Char
  place : Place
  /-- Whether white space and comments are skipped. -/
  skipsSpace : Bool
  deriving Repr

namespace Cursor

/-- The next character. -/
def head? (cursor : Cursor) : Option Char :=
  cursor.rest.head?

/-- Whether the pattern ends here. -/
def atEnd (cursor : Cursor) : Bool :=
  cursor.rest.isEmpty

/-- Whether a character comes next. -/
def sees (char : Char) (cursor : Cursor) : Bool :=
  cursor.head? = some char

/-- Moves behind the next character. -/
def advance (cursor : Cursor) : Cursor :=
  match cursor.rest with
  | [] => cursor
  | char :: rest => { cursor with rest := rest, place := cursor.place.after char }

/-- Moves behind so many characters. -/
def advanceBy : Nat → Cursor → Cursor
  | 0, cursor => cursor
  | count + 1, cursor => advanceBy count cursor.advance

/-- Moves behind a text if it comes next. -/
def take? (text : String) (cursor : Cursor) : Option Cursor :=
  if text.toList.isPrefixOf cursor.rest then some (cursor.advanceBy text.length) else none

/-- Skips white space and comments; the fuel bounds their length. -/
def skipSpaceFrom : Nat → Bool → Cursor → Cursor
  | 0, _, cursor => cursor
  | fuel + 1, inComment, cursor =>
    match cursor.head? with
    | none => cursor
    | some char =>
      if inComment then skipSpaceFrom fuel (char ≠ '\n') cursor.advance
      else if Text.isBlank char then skipSpaceFrom fuel false cursor.advance
      else if char = '#' then skipSpaceFrom fuel true cursor.advance
      else cursor

/-- Skips white space and comments where they do not count. -/
def skipSpace (cursor : Cursor) : Cursor :=
  if cursor.skipsSpace then skipSpaceFrom cursor.rest.length false cursor else cursor

/-- Moves behind the next character and what does not count behind it. -/
def next (cursor : Cursor) : Cursor :=
  cursor.advance.skipSpace

/-- The character behind the next one. -/
def second? (cursor : Cursor) : Option Char :=
  cursor.rest[1]?

/-- The first character of a text behind white space and the sign of a comment. -/
def firstCounted? : Bool → List Char → Option Char
  | _, [] => none
  | inComment, char :: rest =>
    if Text.isBlank char then firstCounted? inComment rest
    else if !inComment && char = '#' then firstCounted? true rest
    else some char

/-- The character behind the next one and what does not count between them. -/
def secondCounted? (cursor : Cursor) : Option Char :=
  if cursor.skipsSpace then firstCounted? false (cursor.rest.drop 1) else cursor.second?

/-- The empty part at the cursor. -/
def here (cursor : Cursor) : Span :=
  ⟨cursor.place, cursor.place⟩

/-- The part of the next character. -/
def charSpan (cursor : Cursor) : Span :=
  ⟨cursor.place, cursor.advance.place⟩

/-- The part from a place to the cursor. -/
def spanFrom (start : Place) (cursor : Cursor) : Span :=
  ⟨start, cursor.place⟩

end Cursor

/-- A fault in a part of a pattern. -/
def fail {Result : Type} (cause : Cause) (span : Span) : Except Fault Result :=
  .error ⟨cause, span, none⟩

end FixtureHarness.Log.Pattern
