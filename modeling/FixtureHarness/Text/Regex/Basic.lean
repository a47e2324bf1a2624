import FixtureHarness.Text.CharSet

/-! # Regular expressions

An expression takes a place in a text to the places where a match that begins there can end, the
preferred ones first. The longest match is the one with the last end, whatever the preference; the
first match is the preferred one. A group remembers what it matched, so that a later part can ask
for the same again.
-/

namespace FixtureHarness

/-- A place between two characters of a text. -/
structure TextPlace where
  /-- The characters before the place, the nearest first. -/
  before : List Char
  rest : List Char
  /-- How many characters stand before the place. -/
  offset : Nat
  deriving DecidableEq, Repr

namespace TextPlace

/-- The place at the beginning of a text. -/
def start (text : List Char) : TextPlace :=
  ⟨[], text, 0⟩

/-- The place behind the next character, with that character. -/
def next? (place : TextPlace) : Option (Char × TextPlace) :=
  match place.rest with
  | [] => none
  | char :: rest => some (char, ⟨char :: place.before, rest, place.offset + 1⟩)

/-- The places behind characters that stand before what is left of a text. -/
def following (before : List Char) (offset : Nat) : List Char → List TextPlace
  | [] => [⟨before, [], offset⟩]
  | char :: rest => ⟨before, char :: rest, offset⟩ :: following (char :: before) (offset + 1) rest

/-- A place and all behind it, up to the end of the text. -/
def onward (place : TextPlace) : List TextPlace :=
  following place.before place.offset place.rest

/-- The places before what is left of a text, the nearest first. -/
def preceding (rest : List Char) : List Char → List TextPlace
  | [] => [⟨[], rest, 0⟩]
  | char :: before => ⟨char :: before, rest, before.length + 1⟩ :: preceding (char :: rest) before

/-- A place and all before it, down to the beginning of the text. -/
def backward (place : TextPlace) : List TextPlace :=
  preceding place.rest place.before

/-- Whether a character of a word stands before a place. -/
def wordBefore (place : TextPlace) : Bool :=
  place.before.head?.any CharSet.word.contains

/-- Whether a character of a word stands behind a place. -/
def wordBehind (place : TextPlace) : Bool :=
  place.rest.head?.any CharSet.word.contains

end TextPlace

/-- A condition on a place. -/
inductive Edge where
  | textStart
  | textEnd
  /-- The end of a text, or the place before a line feed that ends it. -/
  | lastLineEnd
  | wordStart
  | wordEnd
  | wordEdge
  | noWordEdge
  /-- No character of a word stands before the place. -/
  | noWordBefore
  /-- No character of a word stands behind the place. -/
  | noWordBehind
  | lineStart
  | lineEnd
  /-- The start of a line that has something in it or is followed by another. -/
  | innerLineStart
  /-- A line starts here if carriage returns end lines as well. -/
  | lineStartOrReturn
  /-- A line ends here if carriage returns end lines as well. -/
  | lineEndOrReturn
  deriving DecidableEq, Repr

/-- Whether a condition holds at a place. -/
def Edge.holds : Edge → TextPlace → Bool
  | textStart, place => place.before.isEmpty
  | textEnd, place => place.rest.isEmpty
  | lastLineEnd, place => place.rest.isEmpty || place.rest = ['\n']
  | wordStart, place => !place.wordBefore && place.wordBehind
  | wordEnd, place => place.wordBefore && !place.wordBehind
  | wordEdge, place => place.wordBefore != place.wordBehind
  | noWordEdge, place => place.wordBefore == place.wordBehind
  | noWordBefore, place => !place.wordBefore
  | noWordBehind, place => !place.wordBehind
  | lineStart, place => place.before.head?.all (· = '\n')
  | lineEnd, place => place.rest.head?.all (· = '\n')
  | innerLineStart, place =>
    place.before.head?.all fun char => char = '\n' && !place.rest.isEmpty
  | lineStartOrReturn, place =>
    place.before.head?.all fun char =>
      char = '\n' || (char = '\r' && place.rest.head? ≠ some '\n')
  | lineEndOrReturn, place =>
    place.rest.head?.all fun char =>
      char = '\r' || (char = '\n' && place.before.head? ≠ some '\r')

/-- A regular expression. -/
inductive Regex where
  | nothing
  | one (set : CharSet)
  | edge (edge : Edge)
  | sequence (first second : Regex)
  /-- One of two, the first by preference. -/
  | either (first second : Regex)
  /-- At least `least` times and at most `most?` times, by preference as often as possible or, if
  not `eager`, as seldom as possible. -/
  | many (body : Regex) (least : Nat) (most? : Option Nat) (eager : Bool)
  /-- Remembers under a number what was matched. -/
  | group (number : Nat) (body : Regex)
  /-- What a group matched, again. -/
  | reference (number : Nat) (anyCase : Bool)
  /-- Only in the preferred way. -/
  | settled (body : Regex)
  /-- Something that follows, and is not passed over. -/
  | ahead (body : Regex)
  | notAhead (body : Regex)
  /-- Something that ends here. -/
  | behind (body : Regex)
  | notBehind (body : Regex)
  /-- The match that is looked for begins only here. -/
  | restart
  deriving DecidableEq, Repr

namespace Regex

/-- How far a match has come. -/
structure Progress where
  place : TextPlace
  /-- How many characters stand before the match. -/
  start : Nat
  /-- What groups matched last, by number. -/
  groups : List (Nat × List Char)
  deriving DecidableEq, Repr

namespace Progress

/-- Whether two ways through one text have come to the same. -/
def agrees (progress other : Progress) : Bool :=
  progress.place.offset = other.place.offset && progress.start = other.start &&
    progress.groups = other.groups

/-- What was passed over since an earlier place. -/
def textSince (progress : Progress) (place : TextPlace) : List Char :=
  place.rest.take (progress.place.offset - place.offset)

/-- Remembers what a group has matched. -/
def remember (progress : Progress) (number : Nat) (text : List Char) : Progress :=
  { progress with
    groups := (number, text) :: progress.groups.filter fun group => group.1 ≠ number }

/-- Passes over a text that has to come next. -/
def follow? (anyCase : Bool) : List Char → Progress → Option Progress
  | [], progress => some progress
  | char :: rest, progress =>
    progress.place.next?.bind fun (found, place) =>
      let fits := if anyCase then found.toLower = char.toLower else found = char
      if fits then follow? anyCase rest { progress with place := place } else none

end Progress

/-- Leaves out what has come to the same as something before it. -/
def distinct (all : List Progress) : List Progress :=
  let step (kept : List Progress) (progress : Progress) : List Progress :=
    if kept.any progress.agrees then kept else progress :: kept
  (all.foldl step []).reverse

/-- What comes of several ways after exactly so many steps. -/
def stepExactly (step : Progress → List Progress) : Nat → List Progress → List Progress
  | 0, reached => reached
  | count + 1, reached =>
    if reached.isEmpty then [] else stepExactly step count (distinct (reached.flatMap step))

/-- What a repetition has come to. -/
structure Exploration where
  /-- From where the repetition went on, each with the number of steps that were left. -/
  seen : List (Option Nat × Progress)
  /-- Where it can stop, last first. -/
  found : List Progress

namespace Exploration

/-- Whether the repetition went on from somewhere before. -/
def knows (exploration : Exploration) (left? : Option Nat) (progress : Progress) : Bool :=
  exploration.seen.any fun (otherLeft?, other) => otherLeft? = left? && progress.agrees other

/-- Stops somewhere. -/
def stop (exploration : Exploration) (progress : Progress) : Exploration :=
  { exploration with found := progress :: exploration.found }

/-- Goes on from somewhere. -/
def enter (exploration : Exploration) (left? : Option Nat) (progress : Progress) : Exploration :=
  { exploration with seen := (left?, progress) :: exploration.seen }

end Exploration

/-- Takes step after step, at most as many as are left. A step that passes over nothing is the
last. -/
def explore (step : Progress → List Progress) (eager : Bool) :
    Nat → Option Nat → Exploration → Progress → Exploration
  | 0, _, exploration, progress => exploration.stop progress
  | fuel + 1, left?, exploration, progress =>
    if exploration.knows left? progress then exploration
    else
      let entered := exploration.enter left? progress
      let entered := if eager then entered else entered.stop progress
      let goOn (exploration : Exploration) (next : Progress) : Exploration :=
        if next.place.offset = progress.place.offset then exploration.stop next
        else explore step eager fuel (left?.map (· - 1)) exploration next
      let explored := if left? = some 0 then entered else (step progress).foldl goOn entered
      if eager then explored.stop progress else explored

/-- What comes of several ways after some more steps. -/
def stepOn (step : Progress → List Progress) (eager : Bool) (left? : Option Nat)
    (reached : List Progress) : List Progress :=
  let goOn (exploration : Exploration) (progress : Progress) : Exploration :=
    explore step eager (progress.place.rest.length + 1) left? exploration progress
  distinct (reached.foldl goOn ⟨[], []⟩).found.reverse

/-- What a match can come to, the preferred first. -/
def run : Regex → Progress → List Progress
  | nothing, progress => [progress]
  | one set, progress =>
    match progress.place.next? with
    | some (char, place) => if set.contains char then [{ progress with place := place }] else []
    | none => []
  | edge condition, progress => if condition.holds progress.place then [progress] else []
  | sequence first second, progress => distinct ((run first progress).flatMap (run second))
  | either first second, progress => distinct (run first progress ++ run second progress)
  | many body least most? eager, progress =>
    stepOn (run body) eager (most?.map (· - least)) (stepExactly (run body) least [progress])
  | group number body, progress =>
    distinct ((run body progress).map fun reached =>
      reached.remember number (reached.textSince progress.place))
  | reference number anyCase, progress =>
    match progress.groups.lookup number with
    | some text => (progress.follow? anyCase text).toList
    | none => []
  | settled body, progress => (run body progress).take 1
  | ahead body, progress =>
    ((run body progress).take 1).map fun reached => { progress with groups := reached.groups }
  | notAhead body, progress => if (run body progress).isEmpty then [progress] else []
  | behind body, progress =>
    let reached := progress.place.backward.flatMap fun place =>
      run body { progress with place := place }
    let ends := reached.filter fun reached => reached.place.offset = progress.place.offset
    (ends.take 1).map fun reached => { progress with groups := reached.groups }
  | notBehind body, progress =>
    let reached := progress.place.backward.flatMap fun place =>
      run body { progress with place := place }
    if reached.any fun reached => reached.place.offset = progress.place.offset then []
    else [progress]
  | restart, progress => [{ progress with start := progress.place.offset }]

/-! ## Matches -/

/-- Which of the matches that begin at a place counts. -/
inductive Preference where
  | longest
  | first
  deriving DecidableEq, Repr

/-- A match in a text. -/
structure Match where
  /-- How many characters stand before it. -/
  start : Nat
  /-- The place behind it. -/
  stop : TextPlace
  deriving DecidableEq, Repr

/-- The characters of a match. -/
def Match.text (found : Match) : List Char :=
  (found.stop.before.take (found.stop.offset - found.start)).reverse

/-- The one that came farthest. -/
def farthest? : List Progress → Option Progress
  | [] => none
  | progress :: rest =>
    match farthest? rest with
    | some best => if progress.place.offset < best.place.offset then some best else some progress
    | none => some progress

/-- The match that begins at a place. -/
def matchAt? (expression : Regex) (preference : Preference) (place : TextPlace) : Option Match :=
  let reached := run expression ⟨place, place.offset, []⟩
  let best? := if preference = .first then reached.head? else farthest? reached
  best?.map fun best => ⟨best.start, best.place⟩

/-- The first match from a place on. -/
def find? (expression : Regex) (preference : Preference) (place : TextPlace) : Option Match :=
  place.onward.findSome? (expression.matchAt? preference)

/-- Whether an expression matches somewhere in a text. -/
def occursIn (expression : Regex) (text : List Char) : Bool :=
  (expression.find? .first (TextPlace.start text)).isSome

/-! ## Larger expressions -/

/-- Some parts one behind the other. -/
def chain : List Regex → Regex
  | [] => .nothing
  | [part] => part
  | part :: rest => .sequence part (chain rest)

/-- One of some alternatives, the earlier by preference. -/
def anyOf? : List Regex → Option Regex
  | [] => none
  | [branch] => some branch
  | branch :: rest =>
    match anyOf? rest with
    | some others => some (.either branch others)
    | none => some branch

/-- The numbers of the groups that an expression asks for again. -/
def references : Regex → List Nat
  | reference number _ => [number]
  | sequence first second => references first ++ references second
  | either first second => references first ++ references second
  | many body _ _ _ => references body
  | group _ body => references body
  | settled body => references body
  | ahead body => references body
  | notAhead body => references body
  | behind body => references body
  | notBehind body => references body
  | _ => []

/-- Has only some groups remember what they matched. -/
def keepGroups (numbers : List Nat) : Regex → Regex
  | sequence first second => .sequence (keepGroups numbers first) (keepGroups numbers second)
  | either first second => .either (keepGroups numbers first) (keepGroups numbers second)
  | many body least most? eager => .many (keepGroups numbers body) least most? eager
  | group number body =>
    if numbers.contains number then .group number (keepGroups numbers body)
    else keepGroups numbers body
  | settled body => .settled (keepGroups numbers body)
  | ahead body => .ahead (keepGroups numbers body)
  | notAhead body => .notAhead (keepGroups numbers body)
  | behind body => .behind (keepGroups numbers body)
  | notBehind body => .notBehind (keepGroups numbers body)
  | other => other

/-- Has no group remember what is never asked for again. -/
def forgetful (expression : Regex) : Regex :=
  keepGroups expression.references expression

end Regex

end FixtureHarness
