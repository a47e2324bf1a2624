import FixtureHarness.Number.Floating

/-! # Written floating point numbers

A number is written with a fixed number of places, with an exponent, in the shorter of these two
forms, or in hexadecimal digits. Digits that are left out are rounded from the exact value, halves to
the even digit.
-/

namespace FixtureHarness

namespace Floating

/-- The form of a written number. -/
inductive Form where
  | fixed
  | scientific
  | general
  | hexadecimal
  deriving DecidableEq, Repr

/-- How a number is written. -/
structure Style where
  form : Form
  precision? : Option Nat
  /-- The point is always written, and zeros at the end stay. -/
  keepsPoint : Bool
  upper : Bool
  deriving DecidableEq, Repr

/-- The places behind the point unless a number says otherwise. -/
def usualPrecision : Nat := 6

/-- A number of units of the last of so many places, as the digits before and behind the point. -/
def atPoint (places units : Nat) : List Char × List Char :=
  let digits := Nat.toDigits 10 units
  let digits := List.replicate (places + 1 - digits.length) '0' ++ digits
  (digits.take (digits.length - places), digits.drop (digits.length - places))

/-- Digits with the point among them. -/
def joined (keepsPoint : Bool) (parts : List Char × List Char) : List Char :=
  if parts.2.isEmpty && !keepsPoint then parts.1 else parts.1 ++ '.' :: parts.2

/-- Digits without the zeros at their end. -/
def dropZeros (digits : List Char) : List Char :=
  (digits.reverse.dropWhile (· = '0')).reverse

/-! ## Decimal forms -/

/-- The exponent of the greatest power of ten that is at most a positive fraction. -/
def floorLog10 (numerator denominator : Nat) : Int :=
  if denominator ≤ numerator then
    ((Nat.toDigits 10 (numerator / denominator)).length - 1 : Nat)
  else
    let size := (Nat.toDigits 10 (denominator / numerator)).length
    if denominator ≤ numerator * Nat.pow 10 (size - 1) then -((size - 1 : Nat) : Int) else -(size : Int)

/-- A fraction times a power of ten, rounded. -/
def roundScaled (numerator denominator : Nat) (power : Int) : Nat :=
  if 0 ≤ power then Magnitude.roundQuotient (numerator * Nat.pow 10 power.toNat) denominator
  else Magnitude.roundQuotient numerator (denominator * Nat.pow 10 (-power).toNat)

/-- The digits of a fraction, the first one and so many behind it, as one number, and the exponent of
the first one. -/
def scientificParts (numerator denominator places : Nat) : Nat × Int :=
  if numerator = 0 then (0, 0)
  else
    let exponent := floorLog10 numerator denominator
    let units := roundScaled numerator denominator (places - exponent)
    if Nat.pow 10 (places + 1) ≤ units then (units / 10, exponent + 1) else (units, exponent)

/-- A written exponent behind its letter. -/
def exponentText (letter : Char) (width : Nat) (exponent : Int) : List Char :=
  let digits := Nat.toDigits 10 exponent.natAbs
  letter :: (if exponent < 0 then '-' else '+') ::
    (List.replicate (width - digits.length) '0' ++ digits)

/-- A fraction with a fixed number of places. -/
def fixedText (style : Style) (numerator denominator : Nat) : List Char :=
  let places := style.precision?.getD usualPrecision
  joined style.keepsPoint (atPoint places (roundScaled numerator denominator places))

/-- A fraction with an exponent. -/
def scientificText (style : Style) (numerator denominator : Nat) : List Char :=
  let places := style.precision?.getD usualPrecision
  let (units, exponent) := scientificParts numerator denominator places
  joined style.keepsPoint (atPoint places units) ++ exponentText 'e' 2 exponent

/-- A fraction in the shorter form for so many digits. -/
def generalText (style : Style) (numerator denominator : Nat) : List Char :=
  let size := max 1 (style.precision?.getD usualPrecision)
  let (units, exponent) := scientificParts numerator denominator (size - 1)
  let trimmed (parts : List Char × List Char) : List Char :=
    joined style.keepsPoint (parts.1, if style.keepsPoint then parts.2 else dropZeros parts.2)
  if exponent < -4 ∨ (size : Int) ≤ exponent then
    trimmed (atPoint (size - 1) units) ++ exponentText 'e' 2 exponent
  else
    let places := ((size - 1 : Nat) - exponent).toNat
    trimmed (atPoint places (roundScaled numerator denominator places))

/-! ## Hexadecimal form -/

/-- A number in hexadecimal digits, which as many bits stand before the point of as are left over. -/
def hexadecimalText (format : BinaryFormat) (style : Style) (magnitude : Magnitude) : List Char :=
  let places := (format.precision - 1) / 4
  let exponent := if magnitude.significand = 0 then 0 else magnitude.exponent + 4 * places
  let kept := min places (style.precision?.getD places)
  let units := Magnitude.roundQuotient magnitude.significand (Nat.pow 16 (places - kept))
  let whole := units / Nat.pow 16 kept
  let (units, exponent) :=
    if whole < 16 then (units, exponent) else (units / 16, exponent + 4)
  let behind := Nat.toDigits 16 (units % Nat.pow 16 kept)
  let behind :=
    if kept = 0 then [] else List.replicate (kept - behind.length) '0' ++ behind
  let behind :=
    match style.precision? with
    | none => dropZeros behind
    | some precision => behind ++ List.replicate (precision - kept) '0'
  joined style.keepsPoint (Nat.toDigits 16 (units / Nat.pow 16 kept), behind) ++
    exponentText 'p' 1 exponent

/-! ## All numbers -/

/-- A written number in parts: its sign and what stands before its digits, and its digits. -/
structure Written where
  negative : Bool
  mark : List Char
  body : List Char
  /-- Whether zeros may stand before the digits. -/
  takesZeros : Bool
  deriving DecidableEq, Repr

/-- Writes a number of a format. -/
def write (format : BinaryFormat) (style : Style) (value : Floating) : Written :=
  let cased (text : List Char) : List Char :=
    if style.upper then text.map Char.toUpper else text
  match value with
  | .infinite negative => ⟨negative, [], cased "inf".toList, false⟩
  | .notNumber negative => ⟨negative, [], cased "nan".toList, false⟩
  | .finite negative magnitude =>
    let (numerator, denominator) := magnitude.fraction
    match style.form with
    | .fixed => ⟨negative, [], cased (fixedText style numerator denominator), true⟩
    | .scientific => ⟨negative, [], cased (scientificText style numerator denominator), true⟩
    | .general => ⟨negative, [], cased (generalText style numerator denominator), true⟩
    | .hexadecimal =>
      ⟨negative, cased "0x".toList, cased (hexadecimalText format style magnitude), true⟩

end Floating

end FixtureHarness
