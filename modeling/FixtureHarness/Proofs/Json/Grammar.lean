import FixtureHarness.Json.Reader

/-! # The grammar of JSON documents

A document as it is written: a syntax tree that keeps every escape and every digit, and the texts
that spell such a tree. White space may stand around tokens. Nothing is said here about what a
document means, so an escape may be half of a surrogate pair and a number may have any size.
-/

namespace FixtureHarness.Json

/-- White space between tokens, which may be missing. -/
def IsBlank (text : List Char) : Prop :=
  ∀ char ∈ text, Cursor.isSpace char = true

/-! ## Strings -/

/-- One character or escape of a string. -/
inductive Piece where
  | plain (char : Char)
  | short (letter : Char)
  | numeric (first second third fourth : Char)
  deriving DecidableEq, Repr

/-- The number that four digits of base sixteen stand for. -/
def hexUnit? (first second third fourth : Char) : Option Nat := do
  let first ← hexValue? first
  let second ← hexValue? second
  let third ← hexValue? third
  let fourth ← hexValue? fourth
  some (((first * 16 + second) * 16 + third) * 16 + fourth)

namespace Piece

/-- How a piece is written. -/
def text : Piece → List Char
  | plain char => [char]
  | short letter => ['\\', letter]
  | numeric first second third fourth => ['\\', 'u', first, second, third, fourth]

/-- Whether a piece may stand in a string. -/
def Valid : Piece → Prop
  | plain char => char ≠ '"' ∧ char ≠ '\\' ∧ 0x20 ≤ char.toNat
  | short letter => (shortEscape? letter).isSome
  | numeric first second third fourth => (hexUnit? first second third fourth).isSome

end Piece

/-- Pieces that may all stand in a string. -/
def AllValid (pieces : List Piece) : Prop :=
  ∀ piece ∈ pieces, piece.Valid

/-- A string literal of some pieces. -/
def quotedText (pieces : List Piece) : List Char :=
  '"' :: (pieces.flatMap Piece.text ++ ['"'])

/-! ## Numbers -/

/-- Whether a character is a decimal digit. -/
def isDigit (char : Char) : Bool :=
  (digitValue? char).isSome

/-- Digits, and nothing else. -/
def AllDigits (digits : List Char) : Prop :=
  ∀ char ∈ digits, isDigit char = true

/-- At least one digit, and nothing else. -/
def IsDigits (digits : List Char) : Prop :=
  digits ≠ [] ∧ AllDigits digits

/-- The exponent of a number. -/
structure Exponent where
  letter : Char
  sign? : Option Char
  digits : List Char
  deriving DecidableEq, Repr

namespace Exponent

/-- How an exponent is written. -/
def text (exponent : Exponent) : List Char :=
  exponent.letter :: (exponent.sign?.toList ++ exponent.digits)

/-- Whether an exponent is well-formed. -/
structure Valid (exponent : Exponent) : Prop where
  letter : exponent.letter = 'e' ∨ exponent.letter = 'E'
  sign : ∀ sign ∈ exponent.sign?, sign = '+' ∨ sign = '-'
  digits : IsDigits exponent.digits

/-- Whether an exponent is below zero. -/
def isDown (exponent : Exponent) : Bool :=
  exponent.sign? = some '-'

end Exponent

/-- A number as it is written. -/
structure Literal where
  negative : Bool
  /-- The digits before the point. -/
  whole : List Char
  /-- The digits behind the point, if there is one. -/
  fraction? : Option (List Char)
  exponent? : Option Exponent
  deriving DecidableEq, Repr

namespace Literal

/-- The sign of a number. -/
def signText (literal : Literal) : List Char :=
  if literal.negative then ['-'] else []

/-- The point of a number and the digits behind it. -/
def fractionText (fraction? : Option (List Char)) : List Char :=
  fraction?.elim [] ('.' :: ·)

/-- The exponent of a number, if it has one. -/
def exponentText (exponent? : Option Exponent) : List Char :=
  exponent?.elim [] Exponent.text

/-- How a number is written. -/
def text (literal : Literal) : List Char :=
  literal.signText ++
    (literal.whole ++ (fractionText literal.fraction? ++ exponentText literal.exponent?))

/-- Whether a number is well-formed: there are digits in every place, and no zero in front. -/
structure Valid (literal : Literal) : Prop where
  whole : IsDigits literal.whole
  noZero : literal.whole.head? = some '0' → literal.whole = ['0']
  fraction : ∀ digits ∈ literal.fraction?, IsDigits digits
  exponent : ∀ exponent ∈ literal.exponent?, exponent.Valid

end Literal

/-! ## Documents -/

/-- A document as it is written. -/
inductive Source where
  | null
  | boolean (value : Bool)
  | number (literal : Literal)
  | text (pieces : List Piece)
  | array (items : List Source)
  | object (members : List (List Piece × Source))

/-- What stands before an entry of a container: white space, and the comma behind an earlier one. -/
inductive Gap : Bool → List Char → Prop where
  | opening {blank : List Char} : IsBlank blank → Gap true blank
  | comma {before after : List Char} : IsBlank before → IsBlank after →
      Gap false (before ++ ',' :: after)

/-- What stands between a key and its value. -/
def IsColon (text : List Char) : Prop :=
  ∃ before after, IsBlank before ∧ IsBlank after ∧ text = before ++ ':' :: after

mutual

/-- The texts of a document, without white space around. -/
def Source.WrittenAs : Source → List Char → Prop
  | .null, written => written = "null".toList
  | .boolean value, written => written = (toString value).toList
  | .number literal, written => literal.Valid ∧ written = literal.text
  | .text pieces, written => AllValid pieces ∧ written = quotedText pieces
  | .array items, written => ∃ body, ItemsWrittenAs true items body ∧ written = '[' :: body
  | .object members, written => ∃ body, MembersWrittenAs true members body ∧ written = '\x7b' :: body

/-- The texts of items up to the end of an array; the first of them follows the opening bracket. -/
def ItemsWrittenAs : Bool → List Source → List Char → Prop
  | _, [], written => ∃ blank, IsBlank blank ∧ written = blank ++ [']']
  | first, item :: rest, written => ∃ gap body tail, Gap first gap ∧ item.WrittenAs body ∧
      ItemsWrittenAs false rest tail ∧ written = gap ++ (body ++ tail)

/-- The texts of members up to the end of an object. -/
def MembersWrittenAs : Bool → List (List Piece × Source) → List Char → Prop
  | _, [], written => ∃ blank, IsBlank blank ∧ written = blank ++ ['\x7d']
  | first, (key, value) :: rest, written => ∃ gap colon body tail, Gap first gap ∧ AllValid key ∧
      IsColon colon ∧ value.WrittenAs body ∧ MembersWrittenAs false rest tail ∧
      written = gap ++ (quotedText key ++ (colon ++ (body ++ tail)))

end

/-- The whole texts of a document, with white space around. -/
def Source.WrittenIn (source : Source) (text : List Char) : Prop :=
  ∃ before body after, IsBlank before ∧ source.WrittenAs body ∧ IsBlank after ∧
    text = before ++ (body ++ after)

end FixtureHarness.Json
