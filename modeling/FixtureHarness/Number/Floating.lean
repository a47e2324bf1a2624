import FixtureHarness.Number.Binary64

/-! # Floating point numbers in text

A number is written in decimal or hexadecimal digits, with a point and an exponent, or as a word for
one that is not finite. It becomes the nearest number of a format.
-/

namespace FixtureHarness

/-- A floating point number. -/
inductive Floating where
  | finite (negative : Bool) (magnitude : Magnitude)
  | infinite (negative : Bool)
  | notNumber (negative : Bool)
  deriving DecidableEq, Repr

namespace Floating

/-- A number that a text begins with. -/
structure Read where
  value : Floating
  /-- Whether the format holds no number close to it. -/
  outOfRange : Bool
  rest : List Char
  deriving DecidableEq, Repr

/-- The value of a digit. -/
def digitValue? (char : Char) : Option Nat :=
  if char.isDigit then some (char.toNat - '0'.toNat)
  else if 'a' ≤ char ∧ char ≤ 'f' then some (char.toNat - 'a'.toNat + 10)
  else if 'A' ≤ char ∧ char ≤ 'F' then some (char.toNat - 'A'.toNat + 10)
  else none

/-- Whether a character is a digit of a base. -/
def isDigitOf (base : Nat) (char : Char) : Bool :=
  (digitValue? char).any (· < base)

/-- The number that digits of a base stand for. -/
def ofDigits (base : Nat) (digits : List Char) : Nat :=
  digits.foldl (fun number digit => number * base + (digitValue? digit).getD 0) 0

/-! ## Parts of a number -/

/-- The digits of a number in front of its exponent, without a point. -/
structure Digits where
  digits : List Char
  /-- How many of them stand behind the point. -/
  places : Nat
  rest : List Char
  deriving DecidableEq, Repr

/-- Reads the digits of a base and the point among them. There has to be a digit. -/
def readDigits? (base : Nat) (text : List Char) : Option Digits :=
  let whole := text.takeWhile (isDigitOf base)
  let rest := text.drop whole.length
  let (fraction, rest) :=
    match rest with
    | '.' :: behind =>
      let fraction := behind.takeWhile (isDigitOf base)
      (fraction, behind.drop fraction.length)
    | rest => ([], rest)
  if whole.isEmpty && fraction.isEmpty then none
  else some ⟨whole ++ fraction, fraction.length, rest⟩

/-- Reads an exponent behind one of its letters. Without digits there is none. -/
def readExponent (letters : List Char) (text : List Char) : Int × List Char :=
  match text with
  | letter :: rest =>
    if !letters.contains letter then (0, text)
    else
      let (negative, body) :=
        match rest with
        | '-' :: body => (true, body)
        | '+' :: body => (false, body)
        | body => (false, body)
      let digits := body.takeWhile Char.isDigit
      if digits.isEmpty then (0, text)
      else
        let amount : Int := ofDigits 10 digits
        (if negative then -amount else amount, body.drop digits.length)
  | [] => (0, text)

/-! ## The nearest number -/

/-- Beyond this power of the base every format ends. -/
def farPower : Int := 20000

/-- The number of a format that is nearest to `significand * base ^ exponent`, and whether none is
close. The size is a power of the base near the number. -/
def nearest (format : BinaryFormat) (negative : Bool) (base significand : Nat)
    (exponent size : Int) : Floating × Bool :=
  let zero : Floating := .finite negative ⟨0, format.minExponent⟩
  if significand = 0 then (zero, false)
  else if farPower < size then (.infinite negative, true)
  else if size < -farPower then (zero, true)
  else
    let (numerator, denominator) :=
      if 0 ≤ exponent then (significand * Nat.pow base exponent.toNat, 1)
      else (significand, Nat.pow base (-exponent).toNat)
    match Magnitude.roundTo? format numerator denominator with
    | none => (.infinite negative, true)
    | some magnitude =>
      let held := magnitude.fraction
      let isExact := held.1 * denominator = numerator * held.2
      let isTiny := magnitude.significand < Nat.pow 2 (format.precision - 1)
      (.finite negative magnitude, isTiny && !isExact)

/-- Reads the digits of a decimal number. -/
def readDecimal? (format : BinaryFormat) (negative : Bool) (text : List Char) : Option Read :=
  (readDigits? 10 text).map fun found =>
    let (power, rest) := readExponent ['e', 'E'] found.rest
    let digits := found.digits.dropWhile (· = '0')
    let exponent := power - found.places
    let (value, outOfRange) :=
      nearest format negative 10 (ofDigits 10 digits) exponent (exponent + digits.length)
    ⟨value, outOfRange, rest⟩

/-- Reads the digits of a hexadecimal number. -/
def readHexadecimal? (format : BinaryFormat) (negative : Bool) (text : List Char) :
    Option Read :=
  (readDigits? 16 text).map fun found =>
    let (power, rest) := readExponent ['p', 'P'] found.rest
    let digits := found.digits.dropWhile (· = '0')
    let exponent := power - 4 * found.places
    let (value, outOfRange) :=
      nearest format negative 2 (ofDigits 16 digits) exponent (exponent + 4 * digits.length)
    ⟨value, outOfRange, rest⟩

/-! ## Words -/

/-- Takes a word off a text, in any case. -/
def dropWord? (word : String) (text : List Char) : Option (List Char) :=
  let size := word.toList.length
  if (text.take size).map Char.toLower = word.toList then some (text.drop size) else none

/-- What follows the word for what is no number: it may have a note in parentheses. -/
def dropNote (text : List Char) : List Char :=
  match text with
  | '(' :: inside =>
    let note := inside.takeWhile fun char => char.isAlphanum || char = '_'
    match inside.drop note.length with
    | ')' :: rest => rest
    | _ => text
  | _ => text

/-- Whether a character is white space in front of a number. -/
def isSpace (char : Char) : Bool :=
  char = ' ' || ('\t' ≤ char && char ≤ '\r')

/-- Reads a number without its sign. -/
def readUnsigned? (format : BinaryFormat) (negative : Bool) (text : List Char) : Option Read :=
  let infinity? := (dropWord? "infinity" text).or (dropWord? "inf" text)
  match infinity?, dropWord? "nan" text with
  | some rest, _ => some ⟨.infinite negative, false, rest⟩
  | none, some rest => some ⟨.notNumber negative, false, dropNote rest⟩
  | none, none =>
    let hexadecimal? := (dropWord? "0x" text).bind (readHexadecimal? format negative)
    hexadecimal?.or (readDecimal? format negative text)

/-- Reads the number that a text begins with. -/
def read? (format : BinaryFormat) (text : List Char) : Option Read :=
  match text.dropWhile isSpace with
  | '-' :: rest => readUnsigned? format true rest
  | '+' :: rest => readUnsigned? format false rest
  | rest => readUnsigned? format false rest

end Floating

end FixtureHarness
