/-! # Sets of code points

A set of code points is an increasing list of ranges that do not touch, with both ends included.
-/

namespace FixtureHarness.Text

/-- A set of code points. -/
abbrev CodeRanges := List (Nat × Nat)

namespace CodeRanges

/-- Joins ranges that touch, in a list that is ordered by where ranges begin. -/
def join : CodeRanges → CodeRanges
  | [] => []
  | (low, high) :: rest =>
    match join rest with
    | [] => [(low, high)]
    | (nextLow, nextHigh) :: others =>
      if nextLow ≤ high + 1 then (low, max high nextHigh) :: others
      else (low, high) :: (nextLow, nextHigh) :: others

/-- The set that some ranges cover. -/
def ofList (ranges : List (Nat × Nat)) : CodeRanges :=
  join (ranges.mergeSort fun left right => left.1 ≤ right.1)

/-- The set of what is in either of two sets. -/
def union (left right : CodeRanges) : CodeRanges :=
  ofList (left ++ right)

/-- The set of what is in neither of the ranges, from a code point on up to the last one. -/
def gaps (last : Nat) : Nat → CodeRanges → CodeRanges
  | start, [] => if start ≤ last then [(start, last)] else []
  | start, (low, high) :: rest =>
    if start < low then (start, low - 1) :: gaps last (high + 1) rest
    else gaps last (high + 1) rest

/-- The other code points up to the last one. -/
def complement (last : Nat) (set : CodeRanges) : CodeRanges :=
  gaps last 0 set

/-- The set of what is in both of two sets of code points up to the last one. -/
def intersection (last : Nat) (left right : CodeRanges) : CodeRanges :=
  complement last (union (complement last left) (complement last right))

/-- The set of what is in the first of two sets and not in the second. -/
def difference (last : Nat) (left right : CodeRanges) : CodeRanges :=
  intersection last left (complement last right)

/-- The set of what is in exactly one of two sets. -/
def symmetricDifference (last : Nat) (left right : CodeRanges) : CodeRanges :=
  difference last (union left right) (intersection last left right)

/-- The part of a range that lies between two code points, moved by a distance. -/
def shifted (low high : Nat) (shift : Nat → Nat) (range : Nat × Nat) : CodeRanges :=
  let start := max low range.1
  let stop := min high range.2
  if start ≤ stop then [(shift start, shift stop)] else []

/-- A set with the letters of ASCII in both cases. -/
def withBothCases (set : CodeRanges) : CodeRanges :=
  let lower := set.flatMap (shifted 0x41 0x5A (· + 0x20))
  let upper := set.flatMap (shifted 0x61 0x7A (· - 0x20))
  ofList (set ++ lower ++ upper)

/-- Whether a set has code points of ASCII only. -/
def isAscii (set : CodeRanges) : Bool :=
  set.all fun range => range.2 < 0x80

end CodeRanges

end FixtureHarness.Text
