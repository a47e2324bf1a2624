import FixtureHarness.Log.Pattern.Bracket
import FixtureHarness.Text.Letter

/-! # Reading patterns

A pattern is read from left to right with a stack of what is open: groups, and the branches that
bars have ended. A fault is reported at the first place where the pattern cannot go on; depth is
looked at last.
-/

namespace FixtureHarness.Log.Pattern

/-! ## Rows -/

/-- What was read since a group or a branch began. -/
structure Row where
  start : Place
  /-- The parts, the last one first. -/
  parts : List Tree

namespace Row

/-- An empty row at the cursor. -/
def startAt (cursor : Cursor) : Row :=
  ⟨cursor.place, []⟩

/-- A row with one more part. -/
def push (row : Row) (part : Tree) : Row :=
  { row with parts := part :: row.parts }

/-- A row that ends at a place as a tree. -/
def tree (row : Row) (stop : Place) : Tree :=
  match row.parts with
  | [] => .empty
  | [part] => part
  | parts => .concatenation ⟨row.start, stop⟩ parts.reverse

end Row

/-- What is open around a row. -/
inductive Frame where
  /-- A group: the row before it, the part that opens it, its flags, and whether white space was
  skipped before it. -/
  | group (outer : Row) (opening : Span) (items : List FlagItem) (skipsSpace : Bool)
  /-- The branches before the present one, the last one first, and where they begin. -/
  | branches (start : Place) (done : List Tree)

/-- A row that ends at a place, with the branches before it. -/
def closeBranches (row : Row) (stop : Place) : List Frame → Tree × List Frame
  | .branches start done :: rest =>
    (.alternation ⟨start, stop⟩ (row.tree stop :: done).reverse, rest)
  | frames => (row.tree stop, frames)

/-- The state of reading a pattern. -/
structure Reading where
  cursor : Cursor
  row : Row
  frames : List Frame
  /-- The names of groups, each with its part. -/
  names : List (List Char × Span)

/-! ## Groups -/

/-- Whether a character may stand in the name of a group. -/
def isNameChar (first : Bool) (char : Char) : Bool :=
  if first then char = '_' || Text.isLetter char
  else
    char = '_' || char = '.' || char = '[' || char = ']' || Text.isLetter char ||
      Text.isNumeric char

/-- Reads the characters of a name up to its closing sign; the fuel bounds their number. -/
def readNameChars : Nat → Bool → Cursor → Except Fault (List Char × Cursor)
  | 0, _, cursor => .ok ([], cursor)
  | fuel + 1, first, cursor => do
    match cursor.head? with
    | none => fail .groupNameUnexpectedEnd cursor.here
    | some '>' => .ok ([], cursor)
    | some char =>
      if isNameChar first char then
        let (name, cursor) ← readNameChars fuel false cursor.advance
        .ok (char :: name, cursor)
      else fail .groupNameInvalid cursor.charSpan

/-- Reads the name of a group with its closing sign. -/
def readName (names : List (List Char × Span)) (cursor : Cursor) :
    Except Fault ((List Char × Span) × Cursor) := do
  let (name, behind) ← readNameChars (cursor.rest.length + 1) true cursor
  let span := behind.spanFrom cursor.place
  if name.isEmpty then fail .groupNameEmpty cursor.here
  else
    match names.find? fun other => other.1 = name with
    | some (_, earlier) => .error ⟨.groupNameDuplicate, span, some earlier⟩
    | none => .ok ((name, span), behind.advance)

/-- Reads an item of a list of flags. -/
def readFlagItem (cursor : Cursor) : Except Fault FlagItem :=
  match cursor.head? with
  | none => fail .flagUnexpectedEnd cursor.here
  | some '-' => .ok .negation
  | some char =>
    match Flag.ofLetter? char with
    | some flag => .ok (.flag flag)
    | none => fail .flagUnrecognized cursor.charSpan

/-- Reads a list of flags up to its closing sign. The items before are given with their parts, the
last one first. -/
def readFlags : Nat → List (FlagItem × Span) → Cursor → Except Fault (List FlagItem × Cursor)
  | 0, _, cursor => fail .flagUnexpectedEnd cursor.here
  | fuel + 1, before, cursor => do
    if cursor.atEnd then fail .flagUnexpectedEnd cursor.here
    else if cursor.sees ':' || cursor.sees ')' then
      match before with
      | (.negation, span) :: _ => fail .flagDanglingNegation span
      | _ => .ok ((before.map (·.1)).reverse, cursor)
    else
      let item ← readFlagItem cursor
      match before.find? fun other => other.1 = item with
      | some (_, earlier) =>
        let cause := if item = .negation then Cause.flagRepeatedNegation else .flagDuplicate
        .error ⟨cause, cursor.charSpan, some earlier⟩
      | none => readFlags fuel ((item, cursor.charSpan) :: before) cursor.advance

/-- What looks around a place instead of matching, behind the parenthesis. -/
def lookAroundSigns : List String := ["?=", "?!", "?<=", "?<!"]

/-- Opens a group with these flags. -/
def openGroup (reading : Reading) (opening : Span) (items : List FlagItem) (cursor : Cursor) :
    Reading :=
  let skipsSpace := reading.cursor.skipsSpace
  let inner := ((flagStates true items).find? fun state => state.1 = .ignoreSpace).map (·.2)
  let cursor := { cursor with skipsSpace := inner.getD skipsSpace }
  { reading with
    cursor := cursor
    row := .startAt cursor
    frames := .group reading.row opening items skipsSpace :: reading.frames }

/-- Reads flags and what they begin: a group, or nothing, so that they hold for what follows. -/
def readFlagged (reading : Reading) (opening : Span) (mark : Span) (cursor : Cursor) :
    Except Fault Reading := do
  if cursor.atEnd then fail .groupUnclosed opening
  else
    let (items, cursor) ← readFlags (cursor.rest.length + 1) [] cursor
    if cursor.sees ':' then .ok (openGroup reading opening items cursor.advance)
    else if items.isEmpty then fail .repetitionMissing mark
    else
      let inner := ((flagStates true items).find? fun state => state.1 = .ignoreSpace).map (·.2)
      let skipsSpace := inner.getD cursor.skipsSpace
      .ok { reading with
        cursor := { cursor.advance with skipsSpace := skipsSpace }
        row := reading.row.push (.flags items) }

/-- Reads what an opening parenthesis begins. -/
def readGroup (reading : Reading) : Except Fault Reading := do
  let opening := reading.cursor.charSpan
  let cursor := reading.cursor.advance.skipSpace
  match lookAroundSigns.findSome? fun sign => cursor.take? sign with
  | some behind => fail .lookAround (behind.spanFrom opening.start)
  | none =>
    match (cursor.take? "?P<").or (cursor.take? "?<") with
    | some behind =>
      let (name, behind) ← readName reading.names behind
      .ok (openGroup { reading with names := name :: reading.names } opening [] behind)
    | none =>
      match cursor.take? "?" with
      | some behind => readFlagged reading opening cursor.here behind
      | none => .ok (openGroup reading opening [] cursor)

/-- Closes the innermost group at a closing parenthesis. -/
def closeGroup (reading : Reading) : Except Fault Reading :=
  let cursor := reading.cursor
  match closeBranches reading.row cursor.place reading.frames with
  | (body, .group outer opening items skipsSpace :: frames) =>
    let behind := { cursor.advance with skipsSpace := skipsSpace }
    let group := Tree.group (behind.spanFrom opening.start) items body
    .ok { reading with cursor := behind, row := outer.push group, frames := frames }
  | _ => fail .groupUnopened cursor.charSpan

/-- Ends a branch at a bar. -/
def endBranch (reading : Reading) : Reading :=
  let cursor := reading.cursor
  let branch := reading.row.tree cursor.place
  let frames :=
    match reading.frames with
    | .branches start done :: rest => .branches start (branch :: done) :: rest
    | frames => .branches reading.row.start [branch] :: frames
  { reading with cursor := cursor.advance, row := .startAt cursor.advance, frames := frames }

/-! ## Repetitions -/

/-- Takes the last part of a row to repeat it. -/
def takeLast (reading : Reading) : Except Fault (Tree × Span × Row) :=
  match reading.row.parts with
  | [] => fail .repetitionMissing reading.cursor.here
  | last :: before =>
    match last.span? with
    | some span => .ok (last, span, { reading.row with parts := before })
    | none => fail .repetitionMissing reading.cursor.here

/-- Puts the repetition of a part in its place. -/
def repeated (reading : Reading) (last : Tree × Span × Row) (least : Nat) (most? : Option Nat)
    (cursor : Cursor) : Reading :=
  let (body, span, row) := last
  let tree := Tree.repetition (cursor.spanFrom span.start) least most? body
  { reading with cursor := cursor, row := row.push tree }

/-- Moves behind the sign of a lazy repetition if it comes next. -/
def skipLazy (cursor : Cursor) : Cursor :=
  (cursor.take? "?").getD cursor

/-- Reads a repetition without bounds. -/
def readRepetition (reading : Reading) (least : Nat) (most? : Option Nat) :
    Except Fault Reading := do
  let last ← takeLast reading
  .ok (repeated reading last least most? (skipLazy reading.cursor.advance))

/-- Skips white space. -/
def skipBlanks : Nat → Cursor → Cursor
  | 0, cursor => cursor
  | fuel + 1, cursor =>
    if cursor.head?.any Text.isBlank then skipBlanks fuel cursor.next else cursor

/-- Reads digits; the fuel bounds their number. -/
def readDigits : Nat → Cursor → List Char × Cursor
  | 0, cursor => ([], cursor)
  | fuel + 1, cursor =>
    match cursor.head? with
    | none => ([], cursor)
    | some char =>
      if char.isDigit then
        let (digits, cursor) := readDigits fuel cursor.next
        (char :: digits, cursor)
      else ([], cursor)

/-- The greatest bound of a repetition. -/
def maxBound : Nat := Nat.pow 2 32 - 1

/-- Reads a bound with the white space around it: the bound or what is wrong with it, and the cursor
behind it. -/
def readBound (cursor : Cursor) : Except Fault Nat × Cursor :=
  let fuel := cursor.rest.length
  let cursor := skipBlanks fuel cursor
  let (digits, behind) := readDigits fuel cursor
  let span := behind.spanFrom cursor.place
  let number := digits.foldl (fun value digit => value * 10 + (digit.toNat - 0x30)) 0
  let bound : Except Fault Nat :=
    if digits.isEmpty then fail .repetitionDecimalEmpty span
    else if maxBound < number then fail .decimalInvalid span
    else .ok number
  (bound, skipBlanks fuel behind)

/-- Reads the bounds of a repetition behind their opening brace. -/
def readBounds (brace : Place) (cursor : Cursor) :
    Except Fault ((Nat × Option Nat) × Cursor) := do
  let (least?, cursor) := readBound cursor
  if cursor.atEnd then fail .repetitionUnclosed (cursor.spanFrom brace)
  else if cursor.sees ',' then
    let cursor := cursor.next
    if cursor.atEnd then fail .repetitionUnclosed (cursor.spanFrom brace)
    else if cursor.sees '\x7d' then
      let least ← least?
      .ok ((least, none), cursor)
    else
      let least ← least?
      let (most?, cursor) := readBound cursor
      let most ← most?
      .ok ((least, some most), cursor)
  else
    let least ← least?
    .ok ((least, some least), cursor)

/-- Reads a repetition with bounds. -/
def readCounted (reading : Reading) : Except Fault Reading := do
  let last ← takeLast reading
  let brace := reading.cursor.place
  let cursor := reading.cursor.next
  if cursor.atEnd then fail .repetitionUnclosed (cursor.spanFrom brace)
  else
    let ((least, most?), cursor) ← readBounds brace cursor
    if !cursor.sees '\x7d' then fail .repetitionUnclosed (cursor.spanFrom brace)
    else
      let cursor := skipLazy cursor.next
      if most?.any fun most => most < least then
        fail .repetitionInvalid (cursor.spanFrom brace)
      else .ok (repeated reading last least most? cursor)

/-! ## Patterns -/

/-- Reads one part. -/
def readPart (reading : Reading) (char : Char) : Except Fault Reading := do
  match char with
  | '(' => readGroup reading
  | ')' => closeGroup reading
  | '|' => .ok (endBranch reading)
  | '[' =>
    let (tree, cursor) ← readClass reading.cursor
    .ok { reading with cursor := cursor, row := reading.row.push tree }
  | '?' => readRepetition reading 0 (some 1)
  | '*' => readRepetition reading 0 none
  | '+' => readRepetition reading 1 none
  | '\x7b' => readCounted reading
  | _ =>
    let (atom, cursor) ← readAtom reading.cursor
    .ok { reading with cursor := cursor, row := reading.row.push atom.tree }

/-- The tree of a pattern at its end. -/
def finish (reading : Reading) : Except Fault Tree :=
  match closeBranches reading.row reading.cursor.place reading.frames with
  | (_, .group _ opening ..  :: _) => fail .groupUnclosed opening
  | (tree, _) => .ok tree

/-- Reads parts to the end of a pattern; the fuel bounds their number. -/
def readParts : Nat → Reading → Except Fault Tree
  | 0, reading => finish reading
  | fuel + 1, reading => do
    let reading := { reading with cursor := reading.cursor.skipSpace }
    match reading.cursor.head? with
    | none => finish reading
    | some char =>
      let reading ← readPart reading char
      readParts fuel reading

/-- The tree of a pattern. -/
def Tree.ofText (pattern : List Char) : Except Fault Tree := do
  let cursor : Cursor := ⟨pattern, .first, false⟩
  let tree ← readParts (pattern.length + 1) ⟨cursor, .startAt cursor, [], []⟩
  match tree.tooDeep? 0 with
  | some span => fail .nestingTooDeep span
  | none => .ok tree

end FixtureHarness.Log.Pattern
