import FixtureHarness.Log.Pattern.Cursor
import FixtureHarness.Log.Pattern.Tree

/-! # Reading single parts of patterns

A part that stands for itself, for a class or for a condition: a character, a point, or what a
backslash begins.
-/

namespace FixtureHarness.Log.Pattern

/-- A part that is no group, no class in brackets and no operator. -/
inductive Atom where
  | literal (literal : Literal)
  | dot (span : Span)
  | assertion (span : Span) (condition : Assertion)
  | property (span : Span) (query : PropertyQuery) (negated : Bool)
  | perl (span : Span) (kind : PerlClass) (negated : Bool)

namespace Atom

/-- The part of a pattern that an atom was written as. -/
def span : Atom → Span
  | literal char => char.span
  | dot span => span
  | assertion span _ => span
  | property span .. => span
  | perl span .. => span

/-- An atom as a pattern. -/
def tree : Atom → Tree
  | literal char => .literal char
  | dot span => .dot span
  | assertion span condition => .assertion span condition
  | property span query negated => .property span query negated
  | perl span kind negated => .perl span kind negated

/-- An atom as an item in brackets. -/
def classTree : Atom → Except Fault ClassTree
  | literal char => .ok (.literal char)
  | property span query negated => .ok (.property span query negated)
  | perl span kind negated => .ok (.perl span kind negated)
  | dot span => fail .classEscapeInvalid span
  | assertion span _ => fail .classEscapeInvalid span

/-- An atom as the bound of a range. -/
def bound : Atom → Except Fault Literal
  | literal char => .ok char
  | atom => fail .classRangeLiteral atom.span

end Atom

/-! ## Numbers of characters -/

/-- The value of a digit in base sixteen. -/
def hexValue? (char : Char) : Option Nat :=
  if '0' ≤ char ∧ char ≤ '9' then some (char.toNat - 0x30)
  else if 'a' ≤ char ∧ char ≤ 'f' then some (char.toNat - 0x61 + 10)
  else if 'A' ≤ char ∧ char ≤ 'F' then some (char.toNat - 0x41 + 10)
  else none

/-- The character with a number, if there is one. -/
def charOf? (number : Nat) : Option Char :=
  if number.isValidChar then some (Char.ofNat number) else none

/-- The number that digits stand for. -/
def hexNumber (digits : List Nat) : Nat :=
  digits.foldl (fun value digit => value * 16 + digit) 0

/-- Reads so many digits of a number. -/
def readFixedHex : Nat → Cursor → Except Fault (List Nat × Cursor)
  | 0, cursor => .ok ([], cursor)
  | count + 1, cursor => do
    match cursor.head? with
    | none => fail .escapeUnexpectedEnd cursor.here
    | some char =>
      match hexValue? char with
      | none => fail .escapeHexInvalidDigit cursor.charSpan
      | some digit =>
        let (digits, cursor) ← readFixedHex count cursor.next
        .ok (digit :: digits, cursor)

/-- Reads the digits of a number up to a brace; the fuel bounds their number. -/
def readBracedHex (brace : Place) : Nat → Cursor → Except Fault (List Nat × Cursor)
  | 0, cursor => fail .escapeUnexpectedEnd (cursor.spanFrom brace)
  | fuel + 1, cursor => do
    match cursor.head? with
    | none => fail .escapeUnexpectedEnd (cursor.spanFrom brace)
    | some '\x7d' => .ok ([], cursor)
    | some char =>
      match hexValue? char with
      | none => fail .escapeHexInvalidDigit cursor.charSpan
      | some digit =>
        let (digits, cursor) ← readBracedHex brace fuel cursor.next
        .ok (digit :: digits, cursor)

/-- Reads a character by its number, behind the letter that says how many digits it has. -/
def readHex (start : Place) (letter : Char) (cursor : Cursor) : Except Fault (Literal × Cursor) := do
  let cursor := cursor.next
  if cursor.atEnd then fail .escapeUnexpectedEnd cursor.here
  else if cursor.sees '\x7b' then
    let brace := cursor.place
    let inside := cursor.advance.place
    let (digits, cursor) ← readBracedHex brace cursor.rest.length cursor.next
    let stop := cursor.place
    let cursor := cursor.next
    if digits.isEmpty then fail .escapeHexEmpty (cursor.spanFrom brace)
    else
      match charOf? (hexNumber digits) with
      | none => fail .escapeHexInvalid ⟨inside, stop⟩
      | some char => .ok (⟨cursor.spanFrom start, char, false⟩, cursor)
  else
    let first := cursor.place
    let count := if letter = 'x' then 2 else if letter = 'u' then 4 else 8
    let (digits, cursor) ← readFixedHex count cursor
    match charOf? (hexNumber digits) with
    | none => fail .escapeHexInvalid (cursor.spanFrom first)
    | some char => .ok (⟨cursor.spanFrom start, char, letter = 'x'⟩, cursor)

/-! ## Properties -/

/-- Splits a text at the first place where another occurs. -/
def splitOnce? (separator : List Char) : List Char → Option (List Char × List Char)
  | [] => none
  | char :: rest =>
    if separator.isPrefixOf (char :: rest) then
      some ([], (char :: rest).drop separator.length)
    else (splitOnce? separator rest).map fun (before, behind) => (char :: before, behind)

/-- The query that a name in braces stands for. -/
def queryOf (name : List Char) : PropertyQuery :=
  match (splitOnce? ['!', '='] name).or ((splitOnce? [':'] name).or (splitOnce? ['='] name)) with
  | some (name, value) => .valued name value
  | none => .named name

/-- Reads the name of a property up to a brace; the fuel bounds its length. -/
def readPropertyName : Nat → Cursor → Except Fault (List Char × Cursor)
  | 0, cursor => fail .escapeUnexpectedEnd cursor.here
  | fuel + 1, cursor => do
    match cursor.head? with
    | none => fail .escapeUnexpectedEnd cursor.here
    | some '\x7d' => .ok ([], cursor)
    | some char =>
      let (name, cursor) ← readPropertyName fuel cursor.next
      .ok (char :: name, cursor)

/-- Reads a property from its letter on. -/
def readProperty (start : Place) (negated : Bool) (cursor : Cursor) : Except Fault (Atom × Cursor) := do
  let cursor := cursor.next
  match cursor.head? with
  | none => fail .escapeUnexpectedEnd cursor.here
  | some '\x7b' =>
    let (name, cursor) ← readPropertyName cursor.rest.length cursor.next
    let cursor := cursor.advance
    .ok (.property (cursor.spanFrom start) (queryOf name) negated, cursor)
  | some '\\' => fail .unicodeClassInvalid cursor.charSpan
  | some char =>
    let cursor := cursor.next
    .ok (.property (cursor.spanFrom start) (.letter char) negated, cursor)

/-! ## Edges of words -/

/-- Whether a character may stand in the name of an edge of words. -/
def isEdgeNameChar (char : Char) : Bool :=
  ('a' ≤ char && char ≤ 'z') || ('A' ≤ char && char ≤ 'Z') || char = '-'

/-- Reads the characters of the name of an edge; the fuel bounds their number. -/
def readEdgeName : Nat → Cursor → List Char × Cursor
  | 0, cursor => ([], cursor)
  | fuel + 1, cursor =>
    match cursor.head? with
    | none => ([], cursor)
    | some char =>
      if isEdgeNameChar char then
        let (name, cursor) := readEdgeName fuel cursor.next
        (char :: name, cursor)
      else ([], cursor)

/-- Reads the name of an edge of words in braces, unless what the braces hold is no name. -/
def readEdge? (start : Place) (cursor : Cursor) : Except Fault (Option Assertion × Cursor) :=
  let inside := cursor.next
  match inside.head? with
  | none => fail .wordBoundaryUnexpectedEnd (inside.spanFrom start)
  | some char =>
    if !isEdgeNameChar char then .ok (none, cursor)
    else
      let (name, behind) := readEdgeName inside.rest.length inside
      if !behind.sees '\x7d' then fail .wordBoundaryUnclosed (behind.spanFrom cursor.place)
      else
        match String.ofList name with
        | "start" => .ok (some .wordStart, behind.advance)
        | "end" => .ok (some .wordEnd, behind.advance)
        | "start-half" => .ok (some .noWordBefore, behind.advance)
        | "end-half" => .ok (some .noWordBehind, behind.advance)
        | _ => fail .wordBoundaryUnrecognized (behind.spanFrom inside.place)

/-! ## Escapes -/

/-- Whether a character stands for itself behind a backslash: ASCII without letters, digits and
angle brackets. -/
def standsForItself (char : Char) : Bool :=
  char.toNat < 0x80 && !char.isAlphanum && char ≠ '<' && char ≠ '>'

/-- The control character that a letter behind a backslash stands for. -/
def controlChar? : Char → Option Char
  | 'a' => some '\x07'
  | 'f' => some '\x0c'
  | 't' => some '\t'
  | 'n' => some '\n'
  | 'r' => some '\r'
  | 'v' => some '\x0b'
  | _ => none

/-- The condition that a character behind a backslash stands for. -/
def condition? : Char → Option Assertion
  | 'A' => some .textStart
  | 'z' => some .textEnd
  | 'b' => some .wordEdge
  | 'B' => some .noWordEdge
  | '<' => some .wordStart
  | '>' => some .wordEnd
  | _ => none

/-- The class that a letter behind a backslash stands for, and whether it is the complement. -/
def perlClass? : Char → Option (PerlClass × Bool)
  | 'd' => some (.digit, false)
  | 'D' => some (.digit, true)
  | 's' => some (.space, false)
  | 'S' => some (.space, true)
  | 'w' => some (.word, false)
  | 'W' => some (.word, true)
  | _ => none

/-- The atom of a character behind a backslash, with the cursor behind the character. -/
def escapedAtom (start : Place) (char : Char) (cursor : Cursor) : Except Fault (Atom × Cursor) := do
  let span := cursor.spanFrom start
  if standsForItself char then .ok (.literal ⟨span, char, false⟩, cursor)
  else
    match controlChar? char, condition? char with
    | some control, _ => .ok (.literal ⟨span, control, false⟩, cursor)
    | none, some .wordEdge =>
      if cursor.sees '\x7b' then
        let (edge?, cursor) ← readEdge? start cursor
        match edge? with
        | some edge => .ok (.assertion (cursor.spanFrom start) edge, cursor)
        | none => .ok (.assertion span .wordEdge, cursor)
      else .ok (.assertion span .wordEdge, cursor)
    | none, some condition => .ok (.assertion span condition, cursor)
    | none, none => fail .escapeUnrecognized span

/-- Reads what a backslash begins. -/
def readEscape (cursor : Cursor) : Except Fault (Atom × Cursor) := do
  let start := cursor.place
  let cursor := cursor.advance
  match cursor.head? with
  | none => fail .escapeUnexpectedEnd (cursor.spanFrom start)
  | some char =>
    if char.isDigit then fail .backreference ⟨start, cursor.charSpan.stop⟩
    else if char = 'x' || char = 'u' || char = 'U' then
      let (literal, cursor) ← readHex start char cursor
      .ok (.literal literal, cursor)
    else if char = 'p' || char = 'P' then readProperty start (char = 'P') cursor
    else
      match perlClass? char with
      | some (kind, negated) =>
        .ok (.perl (cursor.advance.spanFrom start) kind negated, cursor.advance)
      | none => escapedAtom start char cursor.advance

/-- Reads an atom. -/
def readAtom (cursor : Cursor) : Except Fault (Atom × Cursor) :=
  let span := cursor.charSpan
  match cursor.head? with
  | none => fail .escapeUnexpectedEnd span
  | some '\\' => readEscape cursor
  | some '.' => .ok (.dot span, cursor.advance)
  | some '^' => .ok (.assertion span .lineStart, cursor.advance)
  | some '$' => .ok (.assertion span .lineEnd, cursor.advance)
  | some char => .ok (.literal ⟨span, char, false⟩, cursor.advance)

end FixtureHarness.Log.Pattern
