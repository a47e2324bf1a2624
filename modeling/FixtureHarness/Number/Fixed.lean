import FixtureHarness.Number.Binary64

/-! # Seconds with three decimals

A duration in milliseconds is shown in seconds: the count becomes a double, is divided by a thousand
as a double, and the exact value of the result is rounded to three decimals, halves to even.
-/

namespace FixtureHarness

/-- A number of thousandths with three places after the point. -/
def thousandths (count : Nat) : List Char :=
  let rest := Nat.toDigits 10 (count % 1000)
  Nat.toDigits 10 (count / 1000) ++ '.' :: List.replicate (3 - rest.length) '0' ++ rest

/-- The text of a duration in seconds. -/
def secondsText (milliseconds : Nat) : List Char :=
  let seconds? := do
    let count ← Magnitude.ofNat? milliseconds
    let thousand ← Magnitude.ofNat? 1000
    count.div? thousand
  match seconds? with
  | some seconds =>
    thousandths (Magnitude.roundQuotient (seconds.fraction.1 * 1000) seconds.fraction.2)
  | none => []

end FixtureHarness
