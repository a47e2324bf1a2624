/-! # Sets of characters

A set is given by its ranges or by those of its complement. Some sets have names.
-/

namespace FixtureHarness

/-- A set of characters, given by its ranges or by those of its complement. -/
structure CharSet where
  ranges : List (Char × Char)
  negated : Bool
  deriving DecidableEq, Repr

namespace CharSet

/-- The set of one character. -/
def single (char : Char) : CharSet :=
  ⟨[(char, char)], false⟩

/-- Whether a character is in one of the ranges of a set. -/
def inRanges (set : CharSet) (char : Char) : Bool :=
  set.ranges.any fun range => range.1 ≤ char && char ≤ range.2

/-- Whether a set has a character. -/
def contains (set : CharSet) (char : Char) : Bool :=
  set.inRanges char != set.negated

/-- A range of characters, with the other cases of its letters. -/
def bothCases (range : Char × Char) : List (Char × Char) :=
  let moved (low high : Char) (move : Nat → Nat) : List (Char × Char) :=
    let first := if low < range.1 then range.1 else low
    let last := if range.2 < high then range.2 else high
    if first ≤ last then [(Char.ofNat (move first.toNat), Char.ofNat (move last.toNat))] else []
  range :: moved 'a' 'z' (· - 32) ++ moved 'A' 'Z' (· + 32)

/-- The set that has a character if the ranges of another have it in one of its cases. -/
def withBothCases (set : CharSet) : CharSet :=
  { set with ranges := set.ranges.flatMap bothCases }

/-- The letters, digits and the underscore. -/
def word : CharSet :=
  ⟨[('a', 'z'), ('A', 'Z'), ('0', '9'), ('_', '_')], false⟩

/-- The decimal digits. -/
def digit : CharSet :=
  ⟨[('0', '9')], false⟩

/-- The space and the characters from tab to carriage return. -/
def space : CharSet :=
  ⟨[(' ', ' '), ('\t', '\r')], false⟩

/-- The other characters. -/
def complement (set : CharSet) : CharSet :=
  { set with negated := !set.negated }

/-- The ranges of a named class. -/
def namedRanges? (name : List Char) : Option (List (Char × Char)) :=
  match String.ofList name with
  | "alpha" => some [('a', 'z'), ('A', 'Z')]
  | "digit" => some [('0', '9')]
  | "alnum" => some [('a', 'z'), ('A', 'Z'), ('0', '9')]
  | "upper" => some [('A', 'Z')]
  | "lower" => some [('a', 'z')]
  | "space" => some [(' ', ' '), ('\t', '\r')]
  | "blank" => some [(' ', ' '), ('\t', '\t')]
  | "punct" => some [('!', '/'), (':', '@'), ('[', '\x60'), ('\x7b', '~')]
  | "print" => some [(' ', '~')]
  | "graph" => some [('!', '~')]
  | "cntrl" => some [('\x00', '\x1f'), ('\x7f', '\x7f')]
  | "xdigit" => some [('0', '9'), ('a', 'f'), ('A', 'F')]
  | "word" => some CharSet.word.ranges
  | _ => none

end CharSet

end FixtureHarness
