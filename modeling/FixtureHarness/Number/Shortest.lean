import FixtureHarness.Number.Binary64

/-! # Shortest decimals

The decimal text of a double has the fewest digits that read back as the same double, and of these
the ones nearest to it. They are found on the decimal grids of one digit, two digits and so on: the
first grid with a point in the interval that rounds to the double decides.
-/

namespace FixtureHarness

/-- A decimal number `digits * 10 ^ exponent`. -/
structure Decimal where
  digits : Nat
  exponent : Int
  deriving DecidableEq, Repr

namespace Decimal

/-- The digits of a decimal as characters. -/
def text (value : Decimal) : List Char :=
  Nat.toDigits 10 value.digits

/-- Takes the zeros off the end of the digits. -/
def stripZeros : Nat → Decimal → Decimal
  | 0, value => value
  | fuel + 1, value =>
    if value.digits ≠ 0 ∧ value.digits % 10 = 0 then
      stripZeros fuel ⟨value.digits / 10, value.exponent + 1⟩
    else value

/-- The greatest power of ten, as an exponent, that is at most a positive fraction. -/
def floorLog10 (numerator denominator : Nat) : Int :=
  if denominator ≤ numerator then
    ((Nat.toDigits 10 (numerator / denominator)).length : Int) - 1
  else 0 - ((Nat.toDigits 10 ((denominator - 1) / numerator)).length : Int)

/-- A fraction that equals `numerator / denominator / 10 ^ exponent`. -/
def unscale (numerator denominator : Nat) (exponent : Int) : Nat × Nat :=
  if 0 ≤ exponent then (numerator, denominator * Nat.pow 10 exponent.toNat)
  else (numerator * Nat.pow 10 (-exponent).toNat, denominator)

end Decimal

namespace Magnitude

/-- Four times the significand, and four times the ends of the interval that rounds to it. -/
def interval (value : Magnitude) : Nat × Nat × Nat :=
  let middle := 4 * value.significand
  let low :=
    if value.significand = Nat.pow 2 52 ∧ value.exponent ≠ minExponent then middle - 1 else middle - 2
  (low, middle, middle + 2)

/-- Which of two neighbours on a grid stands for a number that lies halfway between them. -/
inductive Halves where
  | toEven
  | up
  deriving DecidableEq, Repr

/-- The point of the grid `10 ^ exponent` that reads back as the double, the nearer of two. -/
def gridPoint? (halves : Halves) (value : Magnitude) (exponent : Int) : Option Nat :=
  let ends := value.interval
  let ratio (quarter : Nat) : Nat × Nat :=
    let fraction := (⟨quarter, value.exponent - 2⟩ : Magnitude).fraction
    Decimal.unscale fraction.1 fraction.2 exponent
  let low := ratio ends.1
  let middle := ratio ends.2.1
  let high := ratio ends.2.2
  let inside (point : Nat) : Bool :=
    if value.significand % 2 = 0 then low.1 ≤ point * low.2 && point * high.2 ≤ high.1
    else low.1 < point * low.2 && point * high.2 < high.1
  let down := middle.1 / middle.2
  let up := down + 1
  let twice := 2 * (middle.1 % middle.2)
  match 0 < down && inside down, inside up with
  | true, true =>
    if twice < middle.2 then some down
    else if middle.2 < twice then some up
    else if halves = .toEven && down % 2 = 0 then some down
    else some up
  | true, false => some down
  | false, true => some up
  | false, false => none

/-- Tries the grids of `digits` digits and more, until the fuel ends. -/
def shortestFrom (halves : Halves) (value : Magnitude) (top : Int) : Nat → Nat → Decimal
  | 0, _ => ⟨0, 0⟩
  | fuel + 1, digits =>
    let exponent := top - digits + 1
    match value.gridPoint? halves exponent with
    | some point => Decimal.stripZeros 20 ⟨point, exponent⟩
    | none => shortestFrom halves value top fuel (digits + 1)

/-- The shortest decimal that reads back as a magnitude. -/
def shortest (halves : Halves) (value : Magnitude) : Decimal :=
  if value.significand = 0 then ⟨0, 0⟩
  else
    let fraction := value.fraction
    shortestFrom halves value (Decimal.floorLog10 fraction.1 fraction.2) 17 1

end Magnitude

namespace Decimal

/-- A decimal written out in full, with a point only where a fraction follows. -/
def positional (value : Decimal) : List Char :=
  let digits := value.text
  if 0 ≤ value.exponent then digits ++ List.replicate value.exponent.toNat '0'
  else
    let places := (-value.exponent).toNat
    if digits.length ≤ places then
      '0' :: '.' :: List.replicate (places - digits.length) '0' ++ digits
    else digits.take (digits.length - places) ++ '.' :: digits.drop (digits.length - places)

/-- A decimal with an exponent, its digits pointed after the first. -/
def scientific (value : Decimal) : List Char :=
  let digits := value.text
  let exponent := value.exponent + digits.length - 1
  let sign := if exponent < 0 then ['-'] else ['+']
  let tail := match digits.drop 1 with
    | [] => []
    | rest => '.' :: rest
  digits.take 1 ++ tail ++ 'e' :: sign ++ Nat.toDigits 10 exponent.natAbs

/-- A decimal with a fraction in any case, if only `.0`. -/
def pointed (value : Decimal) : List Char :=
  let text := value.positional
  if text.contains '.' then text else text ++ ['.', '0']

end Decimal

namespace Binary64

/-- The sign of a double as a text. -/
def signText (value : Binary64) : List Char :=
  if value.negative then ['-'] else []

/-- The compact text of a double: written out while the first digit stands for a power of ten from
`10 ^ -5` to `10 ^ 15`, with an exponent otherwise. -/
def compact (value : Binary64) : List Char :=
  let decimal := value.magnitude.shortest .toEven
  let top := decimal.exponent + decimal.text.length - 1
  value.signText ++
    if -5 ≤ top ∧ top ≤ 15 then decimal.pointed else decimal.scientific

/-- The full text of a double, without an exponent. -/
def full (value : Binary64) : List Char :=
  value.signText ++ (value.magnitude.shortest .up).pointed

end Binary64

end FixtureHarness
