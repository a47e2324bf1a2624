/-! # Instants

Moments of universal time, counted in nanoseconds from the beginning of 1970, and their text: date
and time with as many groups of three decimals as the nanoseconds need, at offset zero.
-/

namespace FixtureHarness

/-- A moment, in nanoseconds from the beginning of 1970. -/
structure Instant where
  nanoseconds : Nat
  deriving DecidableEq, Repr, Inhabited

/-- The moments at which a clock is read, in the order of the readings. -/
abbrev Clock := Nat → Instant

namespace Instant

/-- The whole milliseconds from the beginning of 1970. -/
def milliseconds (instant : Instant) : Nat :=
  instant.nanoseconds / 1000000

/-- The whole milliseconds from one moment to a later one, zero if it is not later. -/
def elapsed (start finish : Instant) : Nat :=
  (finish.nanoseconds - start.nanoseconds) / 1000000

/-- A date of the civil calendar. -/
structure Date where
  year : Nat
  month : Nat
  day : Nat
  deriving DecidableEq, Repr

/-- The date a number of days after the first of January 1970. Years are counted from March, so that
a leap day is the last of its year; 400 of them have 146097 days. -/
def Date.ofDays (days : Nat) : Date :=
  let shifted := days + 719468
  let inEra := shifted % 146097
  let inEraYear := (inEra - inEra / 1460 + inEra / 36524 - inEra / 146096) / 365
  let inYear := inEra - (365 * inEraYear + inEraYear / 4 - inEraYear / 100)
  let monthFromMarch := (5 * inYear + 2) / 153
  let day := inYear - (153 * monthFromMarch + 2) / 5 + 1
  let month := if monthFromMarch < 10 then monthFromMarch + 3 else monthFromMarch - 9
  let year := inEraYear + shifted / 146097 * 400
  ⟨if month ≤ 2 then year + 1 else year, month, day⟩

/-- A number with at least so many digits. -/
def padded (width number : Nat) : String :=
  let digits := Nat.toDigits 10 number
  String.ofList (List.replicate (width - digits.length) '0' ++ digits)

/-- The decimals of a second, in groups of three. -/
def decimals (nanoseconds : Nat) : String :=
  if nanoseconds = 0 then ""
  else if nanoseconds % 1000000 = 0 then "." ++ padded 3 (nanoseconds / 1000000)
  else if nanoseconds % 1000 = 0 then "." ++ padded 6 (nanoseconds / 1000)
  else "." ++ padded 9 nanoseconds

/-- The text of a moment. -/
def text (instant : Instant) : String :=
  let seconds := instant.nanoseconds / 1000000000
  let date := Date.ofDays (seconds / 86400)
  let year := if 9999 < date.year then s!"+{date.year}" else padded 4 date.year
  let inDay := seconds % 86400
  s!"{year}-{padded 2 date.month}-{padded 2 date.day}T" ++
    s!"{padded 2 (inDay / 3600)}:{padded 2 (inDay / 60 % 60)}:{padded 2 (inDay % 60)}" ++
    s!"{decimals (instant.nanoseconds % 1000000000)}+00:00"

/-- The short name of a run that starts at a moment: its milliseconds modulo `0xFFFFFF` in base
sixteen. -/
def runId (instant : Instant) : String :=
  String.ofList (Nat.toDigits 16 (instant.milliseconds % 0xFFFFFF))

end Instant

end FixtureHarness
