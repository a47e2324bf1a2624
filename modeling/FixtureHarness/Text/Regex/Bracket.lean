import FixtureHarness.Text.CharSet

/-! # Brackets in regular expressions

Between brackets stand characters, ranges of characters, named classes such as `[:alpha:]`, and
single characters in the forms `[.-.]` and `[=a=]`. A closing bracket at the beginning stands for
itself, and so does a dash at either end.
-/

namespace FixtureHarness.Regex

/-- What is wrong with an expression. -/
inductive Fault where
  /-- A bracket at the very end. -/
  | bareBracket
  | unclosedBracket
  | badRange
  | badClassName
  | badCharacterName
  | trailingBackslash
  | badReference
  | unclosedGroup
  | unopenedGroup
  | unclosedBounds
  | badBounds
  | tooManyTimes
  deriving DecidableEq, Repr

namespace Bracket

/-- What begins a name between brackets. -/
inductive NameKind where
  | className
  | character
  | equivalent
  deriving DecidableEq, Repr

/-- The character that stands on both sides of a name. -/
def NameKind.mark : NameKind → Char
  | className => ':'
  | character => '.'
  | equivalent => '='

/-- The kind of name that a character begins behind a bracket. -/
def nameKind? : Char → Option NameKind
  | ':' => some .className
  | '.' => some .character
  | '=' => some .equivalent
  | _ => none

/-- One item between brackets. -/
inductive Item where
  | single (char : Char)
  | name (kind : NameKind) (name : List Char)
  deriving DecidableEq, Repr

/-- The greatest length of a name. -/
def maxNameLength : Nat := 31

/-- Splits a text behind the opening of a name at its end. -/
def splitName (mark : Char) : List Char → Option (List Char × List Char)
  | [] => none
  | [_] => none
  | char :: next :: rest =>
    if char = mark && next = ']' then some ([], rest)
    else (splitName mark (next :: rest)).map fun (name, rest) => (char :: name, rest)

/-- Reads one item. A dash stands for itself only where that is allowed, or at the end. -/
def readItem (allowsDash : Bool) : List Char → Except Fault (Item × List Char)
  | [] => .error .unclosedBracket
  | '[' :: next :: rest =>
    match nameKind? next with
    | none => .ok (.single '[', next :: rest)
    | some kind =>
      match splitName kind.mark rest with
      | some (name, rest) =>
        if name.length ≤ maxNameLength then .ok (.name kind name, rest)
        else .error .unclosedBracket
      | none => .error .unclosedBracket
  | '-' :: rest =>
    if allowsDash || rest.head? = some ']' then .ok (.single '-', rest) else .error .badRange
  | char :: rest => .ok (.single char, rest)

/-- The character that an item stands for, if it is one. -/
def Item.char? : Item → Except Fault Char
  | .single char => .ok char
  | .name .className _ => .error .badRange
  | .name .equivalent _ => .error .badRange
  | .name .character [char] => .ok char
  | .name .character _ => .error .badCharacterName

/-- The ranges of an item that is no end of a range. -/
def Item.ranges (anyCase : Bool) : Item → Except Fault (List (Char × Char))
  | .single char => .ok [(char, char)]
  | .name .className text =>
    let isCase := text = "upper".toList || text = "lower".toList
    let text := if anyCase && isCase then "alpha".toList else text
    match if text = "word".toList then none else CharSet.namedRanges? text with
    | some ranges => .ok ranges
    | none => .error .badClassName
  | .name _ [char] => .ok [(char, char)]
  | .name _ _ => .error .badCharacterName

/-- Whether an item can begin a range. -/
def Item.isSingle : Item → Bool
  | .single _ => true
  | .name kind _ => kind = .character

/-- Whether an item is the beginning of a range. The text goes on behind it. -/
def Item.beginsRange (item : Item) (rest : List Char) : Bool :=
  match rest with
  | '-' :: next :: _ => item.isSingle && next ≠ ']'
  | _ => false

/-- How brackets are read. -/
structure Manner where
  /-- Whether case counts for nothing. -/
  anyCase : Bool
  /-- Whether the ends of ranges then count as capitals, and have to be in order. -/
  inCapitals : Bool
  deriving DecidableEq, Repr

/-- The range between two items. -/
def range (manner : Manner) (first last : Item) : Except Fault (Char × Char) := do
  let low ← first.char?
  let high ← last.char?
  if !manner.anyCase then if high < low then .error .badRange else .ok (low, high)
  else if !manner.inCapitals then .ok (low, high)
  else if high.toUpper < low.toUpper then .error .badRange
  else .ok (low.toUpper, high.toUpper)

/-- Reads items up to the closing bracket. -/
def readItems (manner : Manner) :
    Nat → Bool → List Char → Except Fault (List (Char × Char) × List Char)
  | 0, _, _ => .error .unclosedBracket
  | _, _, [] => .error .unclosedBracket
  | fuel + 1, atStart, text =>
    if text.head? = some ']' && !atStart then .ok ([], text.drop 1)
    else do
      let (item, rest) ← readItem atStart text
      if item.isSingle && (rest.isEmpty || rest = ['-']) then .error .unclosedBracket
      else if item.beginsRange rest then do
        let (last, rest) ← readItem true (rest.drop 1)
        let found ← range manner item last
        let (more, rest) ← readItems manner fuel false rest
        .ok (found :: more, rest)
      else do
        let found ← item.ranges manner.anyCase
        let (more, rest) ← readItems manner fuel false rest
        .ok (found ++ more, rest)

/-- Reads a set behind its opening bracket. -/
def read (manner : Manner) (text : List Char) : Except Fault (CharSet × List Char) :=
  let negated := text.head? = some '^'
  let body := if negated then text.drop 1 else text
  if body.isEmpty then .error .bareBracket
  else do
    let (ranges, rest) ← readItems manner (body.length + 1) true body
    let set : CharSet := ⟨ranges, negated⟩
    .ok (if manner.anyCase then set.withBothCases else set, rest)

/-- Whether what was read between brackets looks like the name of a class: colons stand at both
ends, and between them nothing but single characters. -/
def looksLikeClass (inside : List Char) : Bool :=
  let inside := if inside.head? = some '^' then inside.drop 1 else inside
  let hasName := inside.zip (inside.drop 1) |>.any fun (first, second) =>
    first = '[' && (nameKind? second).isSome
  inside.head? = some ':' && inside.getLast? = some ':' && inside.any (· ≠ ':') &&
    !hasName && !inside.contains '-'

end Bracket

end FixtureHarness.Regex
