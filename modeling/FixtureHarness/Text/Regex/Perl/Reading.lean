import FixtureHarness.Text.Regex.Basic
import FixtureHarness.Text.Regex.Perl.Fault

/-! # Perl expressions as far as they were read

Groups remember what they match under numbers and names. An expression is read twice: first for the
groups that there are, and then for what it means.
-/

namespace FixtureHarness.Regex.Perl

/-- What letters in a group's opening switch. -/
structure Flags where
  anyCase : Bool
  multiLine : Bool
  dotAll : Bool
  spaced : Bool
  /-- Whether blanks count for nothing in brackets too. -/
  spacedBrackets : Bool
  plainGroups : Bool
  lazy : Bool
  sameNames : Bool
  deriving DecidableEq, Repr

/-- What a group is for. -/
inductive GroupKind where
  | numbered (number : Nat)
  | plain
  /-- The alternatives count their groups from the same number on. -/
  | sharing
  | settled
  | ahead
  | notAhead
  | behind
  | notBehind
  deriving DecidableEq, Repr

/-- A group that is being read. -/
structure Group where
  kind : GroupKind
  /-- The flags that hold again behind the group. -/
  flags : Flags
  /-- The alternatives that a bar has ended, last first. -/
  branches : List Regex
  /-- The parts of the present alternative, last first. -/
  parts : List Regex
  /-- How many groups were opened before. -/
  openedBefore : Nat
  /-- The most groups that were opened at the end of an alternative. -/
  mostOpened : Nat

/-- The alternatives of a group as far as they were read. -/
def Group.allBranches (group : Group) : List Regex :=
  (chain group.parts.reverse :: group.branches).reverse

/-- The expression of a group as far as it was read. -/
def Group.expression (group : Group) : Regex :=
  (anyOf? group.allBranches).getD .nothing

/-- The groups of an expression that was read before. -/
structure Known where
  count : Nat
  names : List (List Char × Nat)

/-- What has been read of an expression. -/
structure Reading where
  /-- The groups that there are, unless they are still to be found out. -/
  known? : Option Known
  flags : Flags
  /-- The innermost open group. -/
  group : Group
  /-- The groups around it, the nearest first. -/
  outer : List Group
  opened : Nat
  names : List (List Char × Nat)
  /-- Whether the last part can be repeated. -/
  repeatable : Bool
  /-- Whether something of any length has to stand before a place. -/
  looksBackFreely : Bool

namespace Reading

/-- Nothing has been read. -/
def fresh (known? : Option Known) (anyCase : Bool) : Reading :=
  let flags : Flags := ⟨anyCase, false, false, false, false, false, false, false⟩
  ⟨known?, flags, ⟨.plain, flags, [], [], 0, 0⟩, [], 0, [], false, false⟩

/-- Adds a part. -/
def add (reading : Reading) (expression : Regex) (repeatable : Bool) : Reading :=
  { reading with
    group.parts := expression :: reading.group.parts, repeatable := repeatable }

/-- Adds a set of characters. -/
def addSet (reading : Reading) (set : CharSet) : Reading :=
  reading.add (.one (if reading.flags.anyCase then set.withBothCases else set)) true

/-- Adds a character that stands for itself. -/
def literal (reading : Reading) (char : Char) : Reading :=
  reading.addSet (.single char)

/-- Adds a condition on a place. -/
def condition (reading : Reading) (edge : Edge) : Reading :=
  reading.add (.edge edge) false

/-- Opens a group. -/
def openGroup (reading : Reading) (kind : GroupKind) : Reading :=
  let opened :=
    match kind with
    | .numbered number => number
    | _ => reading.opened
  { reading with
    group := ⟨kind, reading.flags, [], [], opened, opened⟩
    outer := reading.group :: reading.outer
    opened := opened
    repeatable := false }

/-- Opens a group that remembers what it matches, if flags do not forbid that. -/
def openNumbered (reading : Reading) : Reading :=
  if reading.flags.plainGroups then reading.openGroup .plain
  else reading.openGroup (.numbered (reading.opened + 1))

/-- Begins a new alternative. -/
def bar (reading : Reading) : Reading :=
  let group := reading.group
  { reading with
    group :=
      { group with
        branches := chain group.parts.reverse :: group.branches
        parts := []
        mostOpened := max group.mostOpened reading.opened }
    opened := if group.kind = .sharing then group.openedBefore else reading.opened
    repeatable := false }

/-- How many characters an expression matches, if that is always the same. -/
def width? : Regex → Option Nat
  | .one _ => some 1
  | .sequence first second => do
    let left ← width? first
    let right ← width? second
    some (left + right)
  | .either first second => do
    let left ← width? first
    let right ← width? second
    if left = right then some left else none
  | .many body least most? _ => do
    let once ← width? body
    if most? = some least then some (once * least) else none
  | .group _ body => width? body
  | .settled body => width? body
  | .reference .. => none
  | _ => some 0

/-- The expression that a group stands for. -/
def meaning (group : Group) : Regex :=
  let body := group.expression
  match group.kind with
  | .numbered number => .group number body
  | .plain => body
  | .sharing => body
  | .settled => .settled body
  | .ahead => .ahead body
  | .notAhead => .notAhead body
  | .behind => .behind body
  | .notBehind => .notBehind body

/-- Closes the innermost group. -/
def closeGroup (reading : Reading) : Except Fault Reading :=
  match reading.outer with
  | [] => .error .unopenedGroup
  | around :: outer =>
    let group := reading.group
    let looksBack := group.kind = .behind || group.kind = .notBehind
    let isFree := looksBack && group.allBranches.any fun branch => (width? branch).isNone
    let closed :=
      { reading with
        group := around, outer := outer, flags := group.flags
        opened := max reading.opened group.mostOpened
        looksBackFreely := reading.looksBackFreely || isFree }
    .ok (closed.add (meaning group) true)

/-- Asks for what a group matched. -/
def refer (reading : Reading) (number : Nat) : Except Fault Reading :=
  let isKnown := reading.known?.all fun known => 1 ≤ number && number ≤ known.count
  if isKnown then .ok (reading.add (.reference number reading.flags.anyCase) true)
  else .error .missingGroup

/-- Asks for what a group of a name matched. -/
def referByName (reading : Reading) (name : List Char) : Except Fault Reading :=
  match reading.known? with
  | none => .ok (reading.add .nothing true)
  | some known =>
    match (known.names.filter fun entry => entry.1 = name).map (·.2) with
    | [] => .error .missingGroup
    | numbers =>
      let branches := numbers.map fun number => Regex.reference number reading.flags.anyCase
      .ok (reading.add ((anyOf? branches).getD .nothing) true)

end Reading

/-- What reading a sign comes to, with the rest of the text. -/
abbrev Step := Except Fault (Reading × List Char)

/-! ## Repetitions -/

/-- The greatest number in bounds. -/
def maxTimes : Nat := 65535

/-- The number that digits stand for. -/
def numberOf (base : Nat) (digits : List Nat) : Nat :=
  digits.foldl (fun value digit => value * base + digit) 0

/-- The value of a digit, also of one in base sixteen. -/
def digitValue (char : Char) : Nat :=
  if char.isDigit then char.toNat - '0'.toNat
  else if 'a' ≤ char then char.toNat - 'a'.toNat + 10
  else char.toNat - 'A'.toNat + 10

/-- Reads a number in bounds, if there is one. -/
def readTimes (text : List Char) : Except Fault (Option (Nat × List Char)) :=
  let digits := text.takeWhile Char.isDigit
  if digits.isEmpty then .ok none
  else
    let value := numberOf 10 (digits.map digitValue)
    if maxTimes < value then .error .boundsTooBig
    else .ok (some (value, text.drop digits.length))

/-- Reads bounds behind their opening brace. Without a good form there are none. -/
def readBounds (text : List Char) : Except Fault (Option (Nat × Option Nat × List Char)) := do
  match ← readTimes text with
  | none => .ok none
  | some (least, '\x7d' :: rest) => .ok (some (least, some least, rest))
  | some (least, ',' :: '\x7d' :: rest) => .ok (some (least, none, rest))
  | some (least, ',' :: rest) =>
    match ← readTimes rest with
    | some (most, '\x7d' :: rest) =>
      if most < least then .error .boundsOutOfOrder else .ok (some (least, some most, rest))
    | _ => .ok none
  | some _ => .ok none

/-- Repeats the last part. A mark behind the sign says in which way. -/
def takeTimes (least : Nat) (most? : Option Nat) (rest : List Char) (reading : Reading) : Step :=
  match reading.repeatable, reading.group.parts with
  | true, last :: before =>
    let put (expression : Regex) : Reading :=
      { reading with group.parts := expression :: before, repeatable := false }
    let isLazy := reading.flags.lazy
    match rest with
    | '+' :: rest => .ok (put (.settled (.many last least most? true)), rest)
    | '?' :: rest => .ok (put (.many last least most? isLazy), rest)
    | _ => .ok (put (.many last least most? !isLazy), rest)
  | _, _ => .error .nothingToRepeat

end FixtureHarness.Regex.Perl
