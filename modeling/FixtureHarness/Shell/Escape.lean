import FixtureHarness.Text.Octets

/-! # Escapes in printed texts

Programs that print read a backslash and what follows it as another character. They differ in a few
escapes, which a record of the differences names.
-/

namespace FixtureHarness.Shell

/-- Which escapes a program knows beside the common ones. -/
structure EscapeRules where
  /-- A zero may stand in front of three digits of base eight. -/
  zeroFirst : Bool
  /-- Digits of base sixteen count behind an `x`. -/
  hexadecimal : Bool
  /-- Characters have numbers behind a `u`, which an `x` has to have too. -/
  numbered : Bool
  /-- A `c` ends all output. -/
  stops : Bool
  /-- A double quote is escaped. -/
  quote : Bool
  /-- The character behind a backslash that escapes nothing stands for itself in any case. -/
  takesUnknown : Bool
  deriving DecidableEq, Repr

/-- What an escape stands for. -/
inductive Escape where
  | text (text : Octets)
  | stop
  | fault (text : Octets)
  deriving DecidableEq, Repr

namespace Escape

/-- Whether a character is a digit of base eight. -/
def isOctal (char : Char) : Bool :=
  '0' ≤ char && char ≤ '7'

/-- The value of a digit of base sixteen. -/
def hexValue? (char : Char) : Option Nat :=
  if char.isDigit then some (char.toNat - '0'.toNat)
  else if 'a' ≤ char ∧ char ≤ 'f' then some (char.toNat - 'a'.toNat + 10)
  else if 'A' ≤ char ∧ char ≤ 'F' then some (char.toNat - 'A'.toNat + 10)
  else none

/-- The number that digits of base sixteen stand for. -/
def hexNumber (digits : Octets) : Nat :=
  digits.foldl (fun value digit => value * 16 + (hexValue? digit).getD 0) 0

/-- The octet of some digits of base eight. -/
def octalOctet (digits : Octets) : Char :=
  Char.ofNat ((digits.foldl (fun value digit => value * 8 + (digit.toNat - '0'.toNat)) 0) % 256)

/-- Reads at most so many digits of base eight. -/
def readOctal (count : Nat) (text : Octets) : Escape × Octets :=
  let digits := (text.take count).takeWhile isOctal
  (.text [octalOctet digits], text.drop digits.length)

/-- The digits of base sixteen at the beginning of a text, at most so many. -/
def hexDigits (count : Nat) (text : Octets) : Octets :=
  (text.take count).takeWhile fun char => (hexValue? char).isSome

/-- The text about missing digits. -/
def missingDigits : Octets := "missing hexadecimal number in escape".toList

/-- Digits of base sixteen, as many as a width asks for. -/
def wideHex (upper : Bool) (width number : Nat) : Octets :=
  let digits := Nat.toDigits 16 number
  List.replicate (width - digits.length) '0' ++
    (if upper then digits.map Char.toUpper else digits)

/-- Reads the number of a character behind its letter. A number above the basic characters stays an
escape, and one of half a character is refused. -/
def readNumbered (letter : Char) (rest : Octets) : Escape × Octets :=
  let width := if letter = 'u' then 4 else 8
  let digits := hexDigits width rest
  let number := hexNumber digits
  if digits.length < width then (.fault missingDigits, rest)
  else if 0xd800 ≤ number && number ≤ 0xdfff then
    (.fault ("invalid universal character name \\".toList ++ letter :: wideHex false width number),
      rest)
  else
    let behind := rest.drop width
    if number < 0x80 then (.text [Char.ofNat number], behind)
    else if number < 0x10000 then (.text ('\\' :: 'u' :: wideHex true 4 number), behind)
    else (.text ('\\' :: 'U' :: wideHex true 8 number), behind)

/-- The character that a letter behind a backslash stands for. -/
def letter? : Char → Option Char
  | 'a' => some '\x07'
  | 'b' => some '\x08'
  | 'e' => some '\x1b'
  | 'f' => some '\x0c'
  | 'n' => some '\n'
  | 'r' => some '\r'
  | 't' => some '\t'
  | 'v' => some '\x0b'
  | '\\' => some '\\'
  | _ => none

/-- Reads an escape behind its backslash. What is no escape stands for itself with the backslash. -/
def read (rules : EscapeRules) : Octets → Escape × Octets
  | [] => (.text ['\\'], [])
  | char :: rest =>
    match letter? char with
    | some meaning => (.text [meaning], rest)
    | none =>
      if char = '0' && rules.zeroFirst then readOctal 3 rest
      else if isOctal char then readOctal 3 (char :: rest)
      else if char = 'c' && rules.stops then (.stop, rest)
      else if char = '"' && rules.quote then (.text ['"'], rest)
      else if (char = 'u' || char = 'U') && rules.numbered then readNumbered char rest
      else if char = 'x' && rules.hexadecimal then
        let digits := hexDigits 2 rest
        if !digits.isEmpty then (.text [Char.ofNat (hexNumber digits)], rest.drop digits.length)
        else if rules.numbered then (.fault missingDigits, rest)
        else (.text ['\\', 'x'], rest)
      else if rules.takesUnknown then (.text ['\\', char], rest)
      else (.text ['\\'], char :: rest)

/-- A text with its escapes read, and the escape that ended it early. -/
def expand (rules : EscapeRules) : Nat → Octets → Octets × Option Escape
  | 0, rest => (rest, none)
  | _, [] => ([], none)
  | fuel + 1, '\\' :: rest =>
    match read rules rest with
    | (.text meaning, rest) =>
      let (more, ended?) := expand rules fuel rest
      (meaning ++ more, ended?)
    | (escape, _) => ([], some escape)
  | fuel + 1, char :: rest =>
    let (more, ended?) := expand rules fuel rest
    (char :: more, ended?)

end Escape

end FixtureHarness.Shell
