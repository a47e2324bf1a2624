import FixtureHarness.Log.Pattern.Escape
import FixtureHarness.Text.CharSet

/-! # Reading classes in brackets

A class in brackets holds characters, ranges, named classes and further classes in brackets, and
operators that combine what stands before them in the same brackets with what stands behind.
-/

namespace FixtureHarness.Log.Pattern

/-- What was read between brackets or operators. -/
structure ClassRow where
  span : Span
  /-- The items, the last one first. -/
  items : List ClassTree

namespace ClassRow

/-- An empty row at the cursor. -/
def startAt (cursor : Cursor) : ClassRow :=
  ⟨cursor.here, []⟩

/-- A row with one more item. -/
def push (row : ClassRow) (item : ClassTree) : ClassRow :=
  let start := if row.items.isEmpty then item.span.start else row.span.start
  ⟨⟨start, item.span.stop⟩, item :: row.items⟩

/-- A row as a class. -/
def tree (row : ClassRow) : ClassTree :=
  match row.items with
  | [] => .empty row.span
  | [item] => item
  | items => .union row.span items.reverse

end ClassRow

/-- What is open around a row of a class. -/
inductive ClassFrame where
  /-- Brackets, with the row around them and the part of a pattern that opens them. -/
  | brackets (outer : ClassRow) (opening : Span) (negated : Bool)
  /-- An operator, with what stands before it. -/
  | operator (operator : ClassOperator) (left : ClassTree)

/-- The part that opens the innermost of the brackets that are open. -/
def openingSpan (default : Span) : List ClassFrame → Span
  | [] => default
  | .brackets _ opening _ :: _ => opening
  | .operator .. :: rest => openingSpan default rest

/-- Reads the name of a class of ASCII characters with its signs, if it is one. -/
def readNamedClass? (cursor : Cursor) : Option (ClassTree × Cursor) := do
  let inside ← cursor.take? "[:"
  let (negated, inside) :=
    match inside.take? "^" with
    | some behind => (true, behind)
    | none => (false, inside)
  let name := inside.rest.takeWhile (· ≠ ':')
  let behind ← (inside.advanceBy name.length).take? ":]"
  let ranges ← CharSet.namedRanges? name
  some (.ascii (behind.spanFrom cursor.place) ranges negated, behind)

/-- Reads an item of a class that is an atom. -/
def readClassAtom (cursor : Cursor) : Except Fault (Atom × Cursor) :=
  match cursor.head? with
  | some '\\' => readEscape cursor
  | some char => .ok (.literal ⟨cursor.charSpan, char, false⟩, cursor.advance)
  | none => fail .classUnclosed cursor.here

/-- Reads an atom or a range. -/
def readClassRange (opening : Span) (cursor : Cursor) :
    Except Fault (ClassTree × Cursor) := do
  let (first, cursor) ← readClassAtom cursor
  let cursor := cursor.skipSpace
  let second? := cursor.secondCounted?
  if cursor.atEnd then fail .classUnclosed opening
  else if !cursor.sees '-' || second? = some ']' || second? = some '-' then
    let item ← first.classTree
    .ok (item, cursor)
  else
    let cursor := cursor.next
    if cursor.atEnd then fail .classUnclosed opening
    else
      let (last, cursor) ← readClassAtom cursor
      let low ← first.bound
      let high ← last.bound
      let span : Span := ⟨low.span.start, high.span.stop⟩
      if high.char < low.char then fail .classRangeInvalid span
      else .ok (.range span low high, cursor)

/-- Reads the hyphens that stand for themselves at the beginning of a class; the fuel bounds their
number. -/
def readHyphens (start : Place) : Nat → ClassRow → Cursor → Except Fault (ClassRow × Cursor)
  | 0, row, cursor => .ok (row, cursor)
  | fuel + 1, row, cursor =>
    if cursor.sees '-' then
      let row := row.push (.literal ⟨cursor.charSpan, '-', false⟩)
      let cursor := cursor.next
      if cursor.atEnd then fail .classUnclosed ⟨start, start⟩
      else readHyphens start fuel row cursor
    else .ok (row, cursor)

/-- An opening bracket with what belongs to it. -/
structure ClassOpening where
  span : Span
  negated : Bool
  row : ClassRow

/-- Reads an opening bracket with the signs behind it that count only there. -/
def readClassOpening (cursor : Cursor) : Except Fault (ClassOpening × Cursor) := do
  let start := cursor.place
  let cursor := cursor.next
  let negated := cursor.sees '^'
  let cursor := if negated then cursor.next else cursor
  if cursor.atEnd then fail .classUnclosed (cursor.spanFrom start)
  else
    let (row, cursor) ← readHyphens start cursor.rest.length (.startAt cursor) cursor
    if row.items.isEmpty && cursor.sees ']' then
      let row := row.push (.literal ⟨cursor.charSpan, ']', false⟩)
      let cursor := cursor.next
      if cursor.atEnd then fail .classUnclosed (cursor.spanFrom start)
      else .ok (⟨cursor.spanFrom start, negated, row⟩, cursor)
    else .ok (⟨cursor.spanFrom start, negated, row⟩, cursor)

/-- What stands before the end of a row, with an operator before it applied. -/
def closeOperator (row : ClassRow) : List ClassFrame → ClassTree × List ClassFrame
  | .operator operator left :: rest =>
    (.combined ⟨left.span.start, row.tree.span.stop⟩ operator left row.tree, rest)
  | frames => (row.tree, frames)

/-- The operator that comes next. -/
def classOperator? (cursor : Cursor) : Option ClassOperator :=
  match cursor.rest with
  | '&' :: '&' :: _ => some .intersection
  | '-' :: '-' :: _ => some .difference
  | '~' :: '~' :: _ => some .symmetricDifference
  | _ => none

/-- Reads on in a class; the fuel bounds the steps. -/
def readClassFrom : Nat → List ClassFrame → ClassRow → Cursor → Except Fault (Tree × Cursor)
  | 0, frames, _, cursor => fail .classUnclosed (openingSpan cursor.here frames)
  | fuel + 1, frames, row, cursor =>
    let cursor := cursor.skipSpace
    let openBrackets : Except Fault (Tree × Cursor) := do
      let (opening, cursor) ← readClassOpening cursor
      readClassFrom fuel (.brackets row opening.span opening.negated :: frames) opening.row cursor
    match cursor.head? with
    | none => fail .classUnclosed (openingSpan cursor.here frames)
    | some '[' =>
      match if frames.isEmpty then none else readNamedClass? cursor with
      | some (item, cursor) => readClassFrom fuel frames (row.push item) cursor
      | none => openBrackets
    | some ']' =>
      let cursor := cursor.advance
      match closeOperator row frames with
      | (inside, .brackets outer opening negated :: rest) =>
        let span := cursor.spanFrom opening.start
        if rest.isEmpty then .ok (.bracketed span negated inside, cursor)
        else readClassFrom fuel rest (outer.push (.bracketed span negated inside)) cursor
      | (_, frames) => fail .classUnclosed (openingSpan cursor.here frames)
    | some _ =>
      match classOperator? cursor with
      | some operator =>
        let (left, frames) := closeOperator row frames
        let cursor := cursor.advanceBy 2
        readClassFrom fuel (.operator operator left :: frames) (.startAt cursor) cursor
      | none => do
        let (item, cursor) ← readClassRange (openingSpan cursor.here frames) cursor
        readClassFrom fuel frames (row.push item) cursor

/-- Reads a class in brackets. -/
def readClass (cursor : Cursor) : Except Fault (Tree × Cursor) :=
  readClassFrom (2 * cursor.rest.length + 1) [] (.startAt cursor) cursor

end FixtureHarness.Log.Pattern
