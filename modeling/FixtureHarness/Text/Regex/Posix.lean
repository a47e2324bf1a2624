import FixtureHarness.Text.Regex.Basic
import FixtureHarness.Text.Regex.Bracket

/-! # Basic and extended expressions

In extended expressions braces, parentheses, bars, `+` and `?` are signs; in basic ones they are so
only behind a backslash. A sign that repeats stands for itself at the start of a basic expression
and is left out at the start of an extended one.

An expression is read for one of two purposes, and some of the stranger expressions mean different
things for them. Where lines are selected, conditions can be repeated, and bounds at the start are
left out. Where matches are shown, a sign that repeats behind a condition is treated as one at the
start, and only the brace of bounds at the start is left out.
-/

namespace FixtureHarness.Regex.Posix

/-- How signs are written. -/
inductive Dialect where
  | basic
  | extended
  deriving DecidableEq, Repr

/-- What an expression is read for. -/
inductive Purpose where
  | selecting
  | showing
  deriving DecidableEq, Repr

/-- How an expression is read. -/
structure Manner where
  dialect : Dialect
  anyCase : Bool
  purpose : Purpose
  deriving DecidableEq, Repr

/-- Something strange about an expression. -/
inductive Remark where
  /-- A sign that repeats has nothing before it. -/
  | atStart (sign : String)
  /-- A class is named in brackets without brackets of its own. -/
  | bareClass
  deriving DecidableEq, Repr

/-- What the last sign was, as far as the next one depends on it. -/
inductive Previous where
  /-- A part of an expression that can be repeated. -/
  | part
  /-- A condition on a place, somewhere behind such a part. -/
  | condition
  /-- A condition on a place, with only such conditions before it. -/
  | leading
  | start
  deriving DecidableEq, Repr

/-- A group that is being read. -/
structure Group where
  number : Nat
  /-- The alternatives that a bar has ended, last first. -/
  branches : List Regex
  /-- The parts of the present alternative, last first. -/
  parts : List Regex
  /-- The groups that were complete where the group began. -/
  known : List Nat
  /-- The groups that were complete at the end of any alternative. -/
  gathered : List Nat

/-- The expression of a group as far as it was read. -/
def Group.expression (group : Group) : Regex :=
  let branches := (chain group.parts.reverse :: group.branches).reverse
  (anyOf? branches).getD .nothing

/-- What has been read of an expression. -/
structure Reading where
  /-- The innermost open group. -/
  group : Group
  /-- The groups around it, the nearest first. -/
  outer : List Group
  /-- The groups that can be asked for again. -/
  complete : List Nat
  /-- How many groups were opened. -/
  opened : Nat
  previous : Previous
  /-- What is strange, last first. -/
  remarks : List Remark

namespace Reading

/-- Nothing has been read. -/
def fresh : Reading :=
  ⟨⟨0, [], [], [], []⟩, [], [], 0, .start, []⟩

/-- Adds a part that can be repeated. -/
def part (reading : Reading) (expression : Regex) : Reading :=
  { reading with
    group.parts := expression :: reading.group.parts, previous := .part }

/-- Whether nothing but conditions has been read of the present alternative. -/
def isLeading (reading : Reading) : Bool :=
  reading.previous = .start || reading.previous = .leading

/-- Adds a condition on a place. -/
def condition (reading : Reading) (edge : Edge) : Reading :=
  { reading with
    group.parts := .edge edge :: reading.group.parts
    previous := if reading.isLeading then .leading else .condition }

/-- Notes something strange. -/
def remark (reading : Reading) (remark : Remark) : Reading :=
  { reading with remarks := remark :: reading.remarks }

/-- Repeats the last part. -/
def times (reading : Reading) (least : Nat) (most? : Option Nat) : Reading :=
  match reading.group.parts with
  | [] => reading
  | last :: before =>
    { reading with group.parts := .many last least most? true :: before, previous := .part }

/-- Opens a group. -/
def openGroup (reading : Reading) : Reading :=
  let number := reading.opened + 1
  { reading with
    group := ⟨number, [], [], reading.complete, []⟩
    outer := reading.group :: reading.outer
    opened := number
    previous := .start }

/-- Begins a new alternative. -/
def bar (reading : Reading) : Reading :=
  let group := reading.group
  { reading with
    group :=
      { group with
        branches := chain group.parts.reverse :: group.branches
        parts := []
        gathered := reading.complete ++ group.gathered }
    complete := group.known
    previous := .start }

/-- Closes the innermost group, if there is one. -/
def closeGroup? (reading : Reading) : Option Reading :=
  match reading.outer with
  | [] => none
  | around :: outer =>
    let group := reading.group
    let closed := { reading with group := around, outer := outer }
    let complete := group.number :: (reading.complete ++ group.gathered)
    some { closed.part (.group group.number group.expression) with complete := complete }

end Reading

/-! ## Bounds -/

/-- A number inside bounds, as it may be written. -/
inductive Bound where
  | missing
  | number (value : Nat)
  | broken
  deriving DecidableEq, Repr

/-- What ends a number inside bounds. -/
inductive BoundEnd where
  | comma
  | brace
  | textEnd
  deriving DecidableEq, Repr

/-- Adds a character to a number inside bounds. -/
def Bound.extend (bound : Bound) (char : Char) : Bound :=
  if !char.isDigit then .broken
  else
    let digit := char.toNat - '0'.toNat
    match bound with
    | .missing => .number digit
    | .number value => .number (value * 10 + digit)
    | .broken => .broken

/-- Reads a number inside bounds up to what ends it. -/
def readBound (dialect : Dialect) : Bound → List Char → Bound × BoundEnd × List Char
  | _, [] => (.broken, .textEnd, [])
  | bound, '\\' :: char :: rest =>
    if char = '\x7d' && dialect = .basic then (bound, .brace, rest)
    else if char = ',' then (bound, .comma, rest)
    else readBound dialect .broken rest
  | bound, char :: rest =>
    if char = '\x7d' && dialect = .extended then (bound, .brace, rest)
    else if char = ',' then (bound, .comma, rest)
    else readBound dialect (bound.extend char) rest

/-- The greatest number of times. -/
def maxTimes : Nat := 32767

/-- What comes of bounds. -/
inductive Bounds where
  | times (least : Nat) (most? : Option Nat) (rest : List Char)
  /-- The brace stands for itself. -/
  | literal

/-- Bounds with both numbers, if these make sense. -/
def Bounds.make (least : Nat) (most? : Option Nat) (rest : List Char) : Except Fault Bounds :=
  if most?.any (· < least) then .error .badBounds
  else if maxTimes < most?.getD least then .error .tooManyTimes
  else .ok (.times least most? rest)

/-- What comes of bounds with something else than numbers in them. -/
def Bounds.misread (dialect : Dialect) (stop : BoundEnd) : Except Fault Bounds :=
  if dialect = .extended then .ok .literal
  else if stop = .textEnd then .error .unclosedBounds
  else .error .badBounds

/-- Reads bounds behind their opening brace. -/
def readBounds (dialect : Dialect) (text : List Char) : Except Fault Bounds :=
  let upTo (least : Nat) (rest : List Char) : Except Fault Bounds :=
    match readBound dialect .missing rest with
    | (.broken, stop, _) => Bounds.misread dialect stop
    | (.missing, .brace, rest) => Bounds.make least none rest
    | (.number most, .brace, rest) => Bounds.make least (some most) rest
    | _ => .error .badBounds
  match readBound dialect .missing text with
  | (.broken, stop, _) => Bounds.misread dialect stop
  | (.missing, .comma, rest) => upTo 0 rest
  | (.missing, _, _) => .error .badBounds
  | (.number least, .comma, rest) => upTo least rest
  | (.number least, _, rest) => Bounds.make least (some least) rest

/-- Reads digits as a number. -/
def digits? (text : List Char) : Option Nat :=
  (String.ofList text).toNat?

/-- Passes over well-formed bounds behind their opening brace. -/
def skipBounds? (text : List Char) : Option (List Char) :=
  let inside := text.takeWhile (· ≠ '\x7d')
  let rest := text.drop inside.length
  let first := inside.takeWhile Char.isDigit
  let fits :=
    match inside.drop first.length with
    | [] => !first.isEmpty
    | ',' :: second =>
      second.all Char.isDigit &&
        (second.isEmpty || (digits? first).getD 0 ≤ (digits? second).getD 0)
    | _ => false
  if fits && !rest.isEmpty then some (rest.drop 1) else none

/-! ## Signs -/

/-- The sets of characters that letters behind a backslash stand for. -/
def escapedSet? : Char → Option CharSet
  | 'w' => some CharSet.word
  | 'W' => some CharSet.word.complement
  | 's' => some CharSet.space
  | 'S' => some CharSet.space.complement
  | _ => none

/-- The conditions that characters behind a backslash stand for. -/
def escapedEdge? : Char → Option Edge
  | '<' => some .wordStart
  | '>' => some .wordEnd
  | 'b' => some .wordEdge
  | 'B' => some .noWordEdge
  | '\x60' => some .textStart
  | '\'' => some .textEnd
  | _ => none

/-- All characters. -/
def anyChar : CharSet := ⟨[], true⟩

/-- The set of a character, in any case if that counts for nothing. -/
def charSet (manner : Manner) (char : Char) : CharSet :=
  if manner.anyCase then (CharSet.single char).withBothCases else .single char

/-- Adds a character that stands for itself. -/
def Reading.literal (reading : Reading) (manner : Manner) (char : Char) : Reading :=
  reading.part (.one (charSet manner char))

/-- The set of a character behind a backslash. Where matches are shown in any case, small letters
behind a backslash match nothing. -/
def escapedCharSet (manner : Manner) (char : Char) : CharSet :=
  if manner.purpose = .showing && manner.anyCase && char.isLower then ⟨[], false⟩
  else charSet manner char

/-- Whether a sign that repeats comes too early in the alternative to repeat anything. -/
def isTooEarly (manner : Manner) (reading : Reading) : Bool :=
  match manner.purpose with
  | .selecting => reading.isLeading
  | .showing => reading.previous ≠ .part

/-- Leaves out a sign that comes too early. A closing parenthesis behind it stands for itself. -/
def leaveOut (manner : Manner) (rest : List Char) (reading : Reading) : Reading × List Char :=
  match manner.purpose, rest with
  | .showing, ')' :: rest => (reading.literal manner ')', rest)
  | _, _ => (reading, rest)

/-- Takes a sign that repeats at the start of an extended expression. -/
def takeLeadingTimes (manner : Manner) (sign : Char) (least : Nat) (most? : Option Nat)
    (rest : List Char) (reading : Reading) : Reading × List Char :=
  match manner.purpose with
  | .selecting =>
    let remarked := reading.remark (.atStart (String.singleton sign))
    ({ remarked.times least most? with previous := reading.previous }, rest)
  | .showing => leaveOut manner rest reading

/-- Takes a sign that repeats the part before it. -/
def takeTimes (manner : Manner) (sign : Char) (least : Nat) (most? : Option Nat)
    (rest : List Char) (reading : Reading) : Reading × List Char :=
  if !isTooEarly manner reading then (reading.times least most?, rest)
  else if manner.dialect = .basic then (reading.literal manner sign, rest)
  else takeLeadingTimes manner sign least most? rest reading

/-- Takes bounds at the start of an extended expression. -/
def takeLeadingBounds (manner : Manner) (rest : List Char) (reading : Reading) :
    Reading × List Char :=
  match manner.purpose with
  | .selecting =>
    match skipBounds? rest with
    | some others => ((reading.remark (.atStart "\x7b...\x7d")).part .nothing, others)
    | none => (reading.literal manner '\x7b', rest)
  | .showing => leaveOut manner rest reading

/-- Takes bounds. -/
def takeBounds (manner : Manner) (rest : List Char) (reading : Reading) :
    Except Fault (Reading × List Char) :=
  if !isTooEarly manner reading then
    match readBounds manner.dialect rest with
    | .error fault => .error fault
    | .ok .literal => .ok (reading.literal manner '\x7b', rest)
    | .ok (.times least most? rest) => .ok (reading.times least most?, rest)
  else if manner.dialect = .basic then .ok (reading.literal manner '\x7b', rest)
  else .ok (takeLeadingBounds manner rest reading)

/-- Takes a closing parenthesis. Without an open group it stands for itself in extended
expressions. -/
def takeClosing (manner : Manner) (rest : List Char) (reading : Reading) :
    Except Fault (Reading × List Char) :=
  match reading.closeGroup? with
  | some reading => .ok (reading, rest)
  | none =>
    if manner.dialect = .extended then .ok (reading.literal manner ')', rest)
    else .error .unopenedGroup

/-- Takes a character that is a sign in one dialect as it stands, and behind a backslash in the
other. -/
def takeOperator (manner : Manner) (sign : Char) (rest : List Char) (reading : Reading) :
    Except Fault (Reading × List Char) :=
  match sign with
  | '(' => .ok (reading.openGroup, rest)
  | ')' => takeClosing manner rest reading
  | '|' => .ok (reading.bar, rest)
  | '+' => .ok (takeTimes manner '+' 1 none rest reading)
  | '?' => .ok (takeTimes manner '?' 0 (some 1) rest reading)
  | '\x7b' => takeBounds manner rest reading
  | _ => .ok (reading.literal manner sign, rest)

/-- Takes a character behind a backslash. -/
def takeEscaped (manner : Manner) (char : Char) (rest : List Char) (reading : Reading) :
    Except Fault (Reading × List Char) :=
  if '1' ≤ char && char ≤ '9' then
    let number := char.toNat - '0'.toNat
    if reading.complete.contains number then
      .ok (reading.part (.reference number manner.anyCase), rest)
    else .error .badReference
  else
    match escapedEdge? char, escapedSet? char with
    | some condition, _ => .ok (reading.condition condition, rest)
    | none, some set => .ok (reading.part (.one set), rest)
    | none, none =>
      let isOperator := "(|)+?\x7b".toList.contains char
      if manner.dialect = .basic && isOperator then takeOperator manner char rest reading
      else .ok (reading.part (.one (escapedCharSet manner char)), rest)

/-- Whether an alternative of a basic expression ends here. -/
def endsBranch : List Char → Bool
  | [] => true
  | '\\' :: ')' :: _ => true
  | '\\' :: '|' :: _ => true
  | _ => false

/-- Takes brackets with what stands between them. -/
def takeBracket (manner : Manner) (rest : List Char) (reading : Reading) :
    Except Fault (Reading × List Char) :=
  match Bracket.read ⟨manner.anyCase, manner.purpose = .showing⟩ rest with
  | .error fault => .error fault
  | .ok (set, others) =>
    let inside := rest.take (rest.length - others.length - 1)
    let reading := reading.part (.one set)
    .ok (if Bracket.looksLikeClass inside then reading.remark .bareClass else reading, others)

/-- Takes one sign. -/
def takeSign (manner : Manner) (char : Char) (rest : List Char) (reading : Reading) :
    Except Fault (Reading × List Char) :=
  match char with
  | '\\' =>
    match rest with
    | [] => .error .trailingBackslash
    | char :: rest => takeEscaped manner char rest reading
  | '[' => takeBracket manner rest reading
  | '.' => .ok (reading.part (.one anyChar), rest)
  | '*' => .ok (takeTimes manner '*' 0 none rest reading)
  | '^' =>
    let isCondition :=
      match manner.purpose with
      | .selecting => reading.previous = .start
      | .showing => reading.previous ≠ .part
    if manner.dialect = .basic && !isCondition then .ok (reading.literal manner '^', rest)
    else .ok (reading.condition .textStart, rest)
  | '$' =>
    if manner.dialect = .basic && !endsBranch rest then .ok (reading.literal manner '$', rest)
    else .ok (reading.condition .textEnd, rest)
  | _ =>
    if manner.dialect = .extended then takeOperator manner char rest reading
    else .ok (reading.literal manner char, rest)

/-- Takes sign after sign. -/
def takeSigns (manner : Manner) : Nat → List Char → Reading → Except Fault Reading
  | 0, _, reading => .ok reading
  | _, [], reading => .ok reading
  | fuel + 1, char :: rest, reading =>
    match takeSign manner char rest reading with
    | .error fault => .error fault
    | .ok (reading, rest) => takeSigns manner fuel rest reading

/-- An expression with what is strange about it. -/
structure Outcome where
  expression : Regex
  remarks : List Remark

/-- Reads an expression. -/
def read (manner : Manner) (text : List Char) : Except Fault Outcome :=
  match takeSigns manner text.length text .fresh with
  | .error fault => .error fault
  | .ok reading =>
    if reading.outer.isEmpty then .ok ⟨reading.group.expression, reading.remarks.reverse⟩
    else .error .unclosedGroup

end FixtureHarness.Regex.Posix
