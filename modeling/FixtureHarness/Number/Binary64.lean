/-! # Binary floating point, exactly

A finite double is a sign and a magnitude `significand * 2 ^ exponent`. Everything here is done in
exact integer arithmetic: a result is the rational number that the operation asks for, rounded once
to the nearest double, halves to the even significand.
-/

namespace FixtureHarness

/-- The magnitude of a finite number. -/
structure Magnitude where
  significand : Nat
  exponent : Int
  deriving DecidableEq, Repr

/-- A format of binary numbers. -/
structure BinaryFormat where
  /-- How many bits a significand has. -/
  precision : Nat
  /-- The exponent of the least positive numbers. -/
  minExponent : Int
  /-- The exponent of the greatest finite numbers. -/
  maxExponent : Int
  deriving DecidableEq, Repr

/-- A finite double. -/
structure Binary64 where
  negative : Bool
  magnitude : Magnitude
  deriving DecidableEq, Repr

namespace Magnitude

/-- The exponent of the least positive doubles. -/
def minExponent : Int := -1074

/-- The exponent of the greatest finite doubles. -/
def maxExponent : Int := 971

/-- The magnitude of zero. -/
def zero : Magnitude := ⟨0, minExponent⟩

/-- The quotient of two numbers, rounded to the nearest integer, halves to the even one. -/
def roundQuotient (numerator denominator : Nat) : Nat :=
  let quotient := numerator / denominator
  let twice := 2 * (numerator % denominator)
  if twice < denominator then quotient
  else if denominator < twice then quotient + 1
  else if quotient % 2 = 0 then quotient
  else quotient + 1

/-- A fraction that equals `numerator / denominator / 2 ^ exponent`. -/
def unscale (numerator denominator : Nat) (exponent : Int) : Nat × Nat :=
  if 0 ≤ exponent then (numerator, denominator * Nat.pow 2 exponent.toNat)
  else (numerator * Nat.pow 2 (-exponent).toNat, denominator)

/-- The greatest power of two, as an exponent, that is at most a positive fraction. -/
def floorLog2 (numerator denominator : Nat) : Int :=
  let guess : Int := (numerator.log2 : Int) - (denominator.log2 : Int)
  let scaled := unscale numerator denominator guess
  if scaled.2 ≤ scaled.1 then guess else guess - 1

/-- The number of a format that is nearest to a fraction; `none` where that would be infinite. -/
def roundTo? (format : BinaryFormat) (numerator denominator : Nat) : Option Magnitude :=
  if numerator = 0 then some ⟨0, format.minExponent⟩
  else
    let log := floorLog2 numerator denominator
    let exponent := max (log - (format.precision - 1 : Nat)) format.minExponent
    let scaled := unscale numerator denominator exponent
    let significand := roundQuotient scaled.1 scaled.2
    let result : Magnitude :=
      if significand = Nat.pow 2 format.precision then
        ⟨Nat.pow 2 (format.precision - 1), exponent + 1⟩
      else ⟨significand, exponent⟩
    if format.maxExponent < result.exponent then none else some result

/-- The format of doubles. -/
def doubleFormat : BinaryFormat := ⟨53, minExponent, maxExponent⟩

/-- The double nearest to a fraction; `none` where that would be infinite. -/
def round? (numerator denominator : Nat) : Option Magnitude :=
  roundTo? doubleFormat numerator denominator

/-- The value of a magnitude as a fraction. -/
def fraction (value : Magnitude) : Nat × Nat :=
  if 0 ≤ value.exponent then (value.significand * Nat.pow 2 value.exponent.toNat, 1)
  else (value.significand, Nat.pow 2 (-value.exponent).toNat)

/-- The double nearest to a natural number. -/
def ofNat? (number : Nat) : Option Magnitude :=
  round? number 1

/-- The rounded product of two doubles. -/
def mul? (left right : Magnitude) : Option Magnitude :=
  round? (left.fraction.1 * right.fraction.1) (left.fraction.2 * right.fraction.2)

/-- The rounded quotient of a double and a positive double. -/
def div? (left right : Magnitude) : Option Magnitude :=
  round? (left.fraction.1 * right.fraction.2) (left.fraction.2 * right.fraction.1)

/-- The double nearest to a power of ten. -/
def tenPower? (exponent : Nat) : Option Magnitude :=
  ofNat? (Nat.pow 10 exponent)

/-- The greatest power of ten that is a finite double. -/
def maxTenPower : Nat := 308

/-- Divides by the greatest power of ten as long as the exponent lies below its range. -/
def scaleDown? : Nat → Magnitude → Int → Option (Magnitude × Int)
  | 0, value, exponent => some (value, exponent)
  | rounds + 1, value, exponent =>
    if -(maxTenPower : Int) ≤ exponent ∨ value.significand = 0 then some (value, exponent)
    else do
      let power ← tenPower? maxTenPower
      let value ← value.div? power
      scaleDown? rounds value (exponent + maxTenPower)

/-- Reads `significand * 10 ^ exponent` in the quick way: the significand becomes a double, and one
multiplication or division by a double power of ten follows. The last digit may differ from the
nearest double. `none` where the result would be infinite. -/
def ofDecimal? (significand : Nat) (exponent : Int) : Option Magnitude := do
  let start ← ofNat? significand
  let (value, exponent) ← scaleDown? 4 start exponent
  if value.significand = 0 then some zero
  else if 0 ≤ exponent then
    if exponent ≤ maxTenPower then value.mul? (← tenPower? exponent.toNat) else none
  else value.div? (← tenPower? (-exponent).toNat)

/-- The double nearest to `significand * 10 ^ exponent`. -/
def nearestDecimal? (significand : Nat) (exponent : Int) : Option Magnitude :=
  if 0 ≤ exponent then round? (significand * Nat.pow 10 exponent.toNat) 1
  else round? significand (Nat.pow 10 (-exponent).toNat)

end Magnitude

end FixtureHarness
