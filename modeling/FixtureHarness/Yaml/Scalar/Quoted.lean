import FixtureHarness.Yaml.Scalar.Gap

/-! # Quoted scalars

Between single quotes only the quote is written twice; between double quotes a backslash begins an
escape, also of a line ending. Line endings fold as they do in plain scalars.
-/

namespace FixtureHarness.Yaml.Quoted

/-- What is being read. -/
def activity : String := "while scanning a quoted scalar"

/-- What is being read when an escape is at fault. -/
def escapeActivity : String := "while parsing a quoted scalar"

/-- The character that a short escape stands for. -/
def shortEscape? : Char → Option Char
  | '0' => some '\x00'
  | 'a' => some '\x07'
  | 'b' => some '\x08'
  | 't' => some '\t'
  | '\t' => some '\t'
  | 'n' => some '\n'
  | 'v' => some '\x0b'
  | 'f' => some '\x0c'
  | 'r' => some '\r'
  | 'e' => some '\x1b'
  | ' ' => some ' '
  | '"' => some '"'
  | '/' => some '/'
  | '\\' => some '\\'
  | 'N' => some '\u0085'
  | '_' => some '\u00a0'
  | 'L' => some '\u2028'
  | 'P' => some '\u2029'
  | _ => none

/-- The number of digits of a numeric escape. -/
def digitCount? : Char → Option Nat
  | 'x' => some 2
  | 'u' => some 4
  | 'U' => some 8
  | _ => none

/-- The number that digits stand for, if there are so many. -/
def number? : Nat → List Char → Nat → Option Nat
  | 0, _, value => some value
  | _ + 1, [], _ => none
  | count + 1, char :: rest, value => do
    number? count rest (value * 16 + (← hexValue? char))

/-- Reads an escape that is not one of a line ending. -/
def readEscape (start : Mark) : Scanner Char := fun cursor =>
  match cursor.ahead? 1 with
  | none => cursor.failIn escapeActivity start "found unknown escape character"
  | some letter =>
    match shortEscape? letter, digitCount? letter with
    | some char, _ => .ok (char, cursor.skip 2)
    | none, none => cursor.failIn escapeActivity start "found unknown escape character"
    | none, some count =>
      let cursor := cursor.skip 2
      match number? count cursor.rest 0 with
      | none =>
        cursor.failIn escapeActivity start "did not find expected hexadecimal number"
      | some value =>
        if (0xD800 ≤ value ∧ value ≤ 0xDFFF) ∨ 0x10FFFF < value then
          cursor.failIn escapeActivity start "found invalid Unicode character escape code"
        else .ok (Char.ofNat value, cursor.skip count)

/-- Reads a word: its text, and the gap that an escaped line ending opens behind it. The fuel bounds
its length. -/
def readWord (quote : Char) (start : Mark) : Nat → Scanner (List Char × Gap)
  | 0, cursor => .ok (([], .none), cursor)
  | fuel + 1, cursor =>
    let more (char : Char) (cursor : Cursor) : Except SyntaxError ((List Char × Gap) × Cursor) := do
      let ((text, gap), cursor) ← readWord quote start fuel cursor
      .ok ((char :: text, gap), cursor)
    match cursor.head? with
    | none => .ok (([], .none), cursor)
    | some char =>
      if isSpace char then .ok (([], .none), cursor)
      else if quote = '\'' && char = '\'' && cursor.ahead? 1 = some '\'' then
        more '\'' (cursor.skip 2)
      else if char = quote then .ok (([], .none), cursor)
      else if quote = '"' && char = '\\' then
        if next isBreak (cursor.ahead? 1) then .ok (([], .escaped), (cursor.skip 1).skipBreak)
        else do
          let (char, cursor) ← readEscape start cursor
          more char cursor
      else more char (cursor.skip 1)

/-- Reads words and gaps up to and with the closing quote; the fuel bounds their number. -/
def readWords (quote : Char) (start : Mark) : Nat → Scanner (List Char)
  | 0, cursor => .ok ([], cursor)
  | fuel + 1, cursor =>
    if cursor.atDocumentMark then
      cursor.failIn activity start "found unexpected document indicator"
    else if cursor.rest.isEmpty then
      cursor.failIn activity start "found unexpected end of stream"
    else do
      let ((word, gap), cursor) ← readWord quote start (cursor.rest.length + 1) cursor
      if cursor.head? = some quote then .ok (word, cursor.skip 1)
      else
        let (gap, cursor) ← Gap.read (fun _ _ => none) (cursor.rest.length + 1) gap cursor
        let (more, cursor) ← readWords quote start fuel cursor
        .ok (word ++ gap.text ++ more, cursor)

/-- Reads a quoted scalar from its opening quote on. -/
def read (quote : Char) : Scanner (List Char) := fun cursor =>
  readWords quote cursor.mark (cursor.rest.length + 1) (cursor.skip 1)

end FixtureHarness.Yaml.Quoted
