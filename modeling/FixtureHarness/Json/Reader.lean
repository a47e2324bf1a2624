import FixtureHarness.Json.Cursor
import FixtureHarness.Text.Lines

/-! # Reading JSON

The readers of strings, numbers and words, and the generic readers of lists and objects from which
both plain values and typed data are read. `readValue` reads a document into its canonical value;
`skipValue` only checks one and knows no limit of nesting.
-/

namespace FixtureHarness.Json

open Cursor

/-- How many containers may stand inside each other. -/
def nestingLimit : Nat := 127

/-! ## Words and strings -/

/-- Reads the characters of a word that has to follow. -/
def readWord : List Char → Reader Unit
  | [], cursor => .ok ((), cursor)
  | wanted :: more, cursor =>
    match cursor.rest with
    | [] => cursor.fail (.endInside .value)
    | char :: rest =>
      if char = wanted then readWord more (cursor.past char rest)
      else .error ⟨.expectedIdent, cursor.offset + 1⟩

/-- The value of a digit in base sixteen. -/
def hexValue? (char : Char) : Option Nat :=
  if '0' ≤ char ∧ char ≤ '9' then some (char.toNat - 0x30)
  else if 'a' ≤ char ∧ char ≤ 'f' then some (char.toNat - 0x61 + 10)
  else if 'A' ≤ char ∧ char ≤ 'F' then some (char.toNat - 0x41 + 10)
  else none

/-- Reads the four digits of a numeric escape. -/
def readHex (cursor : Cursor) : Except ReadError (Nat × Cursor) :=
  match cursor.rest.map hexValue? with
  | some a :: some b :: some c :: some d :: _ =>
    .ok (((a * 16 + b) * 16 + c) * 16 + d, cursor.skip 4)
  | _ =>
    if Text.byteCount cursor.rest < 4 then
      .error ⟨.endInside .string, cursor.offset + Text.byteCount cursor.rest⟩
    else .error ⟨.invalidEscape, cursor.offset + 4⟩

/-- Whether a number is the first half of a surrogate pair. -/
def isHighSurrogate (unit : Nat) : Bool :=
  0xD800 ≤ unit && unit ≤ 0xDBFF

/-- Whether a number is the second half of a surrogate pair. -/
def isLowSurrogate (unit : Nat) : Bool :=
  0xDC00 ≤ unit && unit ≤ 0xDFFF

/-- Reads a numeric escape behind its letter; a surrogate has to be the first of a pair. -/
def readUnicode (cursor : Cursor) : Except ReadError (Char × Cursor) := do
  let (unit, cursor) ← readHex cursor
  if isLowSurrogate unit then cursor.fail .loneSurrogate
  else if !isHighSurrogate unit then .ok (Char.ofNat unit, cursor)
  else
    match cursor.rest with
    | [] => cursor.fail (.endInside .string)
    | '\\' :: [] => .error ⟨.endInside .string, cursor.offset + 1⟩
    | '\\' :: 'u' :: _ =>
      let (low, cursor) ← readHex (cursor.skip 2)
      if isLowSurrogate low then
        .ok (Char.ofNat ((unit - 0xD800) * 0x400 + (low - 0xDC00) + 0x10000), cursor)
      else cursor.fail .loneSurrogate
    | '\\' :: _ => .error ⟨.cutSurrogatePair, cursor.offset + 2⟩
    | _ => .error ⟨.cutSurrogatePair, cursor.offset + 1⟩

/-- The character that a short escape stands for. -/
def shortEscape? : Char → Option Char
  | '"' => some '"'
  | '\\' => some '\\'
  | '/' => some '/'
  | 'b' => some '\x08'
  | 'f' => some '\x0c'
  | 'n' => some '\n'
  | 'r' => some '\r'
  | 't' => some '\t'
  | _ => none

/-- Reads an escape behind its backslash. -/
def readEscape (cursor : Cursor) : Except ReadError (Char × Cursor) :=
  match cursor.rest with
  | [] => cursor.fail (.endInside .string)
  | 'u' :: rest => readUnicode (cursor.past 'u' rest)
  | char :: rest =>
    match shortEscape? char with
    | some meant => .ok (meant, cursor.past char rest)
    | none => .error ⟨.invalidEscape, cursor.offset + 1⟩

/-- Reads the characters of a string up to and with the closing quote; the fuel bounds their
number. -/
def readChars : Nat → Reader (List Char)
  | 0, cursor => cursor.fail (.endInside .string)
  | fuel + 1, cursor =>
    match cursor.rest with
    | [] => cursor.fail (.endInside .string)
    | '"' :: rest => .ok ([], cursor.past '"' rest)
    | '\\' :: rest => do
      let (char, cursor) ← readEscape (cursor.past '\\' rest)
      let (chars, cursor) ← readChars fuel cursor
      .ok (char :: chars, cursor)
    | char :: rest =>
      if char.toNat < 0x20 then .error ⟨.controlCharacter, cursor.offset + 1⟩
      else do
        let (chars, cursor) ← readChars fuel (cursor.past char rest)
        .ok (char :: chars, cursor)

/-- Reads a string behind its opening quote. -/
def readString (cursor : Cursor) : Except ReadError (String × Cursor) := do
  let (chars, cursor) ← readChars (cursor.rest.length + 1) cursor
  .ok (String.ofList chars, cursor)

/-! ## Numbers -/

/-- The greatest significand that digits are gathered into. -/
def maxSignificand : Nat := Nat.pow 2 64 - 1

/-- The value of a decimal digit. -/
def digitValue? (char : Char) : Option Nat :=
  if '0' ≤ char ∧ char ≤ '9' then some (char.toNat - 0x30) else none

/-- Whether a cursor stands before a digit. -/
def atDigit (cursor : Cursor) : Bool :=
  (cursor.rest.head?.bind digitValue?).isSome

/-- Skips digits. -/
def skipDigits (cursor : Cursor) : Cursor :=
  cursor.skip (cursor.rest.takeWhile fun char => (digitValue? char).isSome).length

/-- Gathers digits into a significand while it does not pass the greatest one. Returns it with the
number of digits taken. -/
def gather : List Char → Nat → Nat × Nat
  | [], significand => (significand, 0)
  | char :: rest, significand =>
    match digitValue? char with
    | none => (significand, 0)
    | some digit =>
      if significand * 10 + digit ≤ maxSignificand then
        let more := gather rest (significand * 10 + digit)
        (more.1, more.2 + 1)
      else (significand, 0)

/-- A double from its parts, at the cursor behind its text. -/
def finishDouble (negative : Bool) (significand : Nat) (exponent : Int) : Reader Number :=
  fun cursor =>
    match Magnitude.ofDecimal? significand exponent with
    | some magnitude => .ok (.double ⟨negative, magnitude⟩, cursor)
    | none => cursor.fail .numberOutOfRange

/-- The greatest exponent that is read as a number. -/
def maxExponent : Nat := Nat.pow 2 31 - 1

/-- Gathers the digits of an exponent; `none` with the digits read when it passes the greatest
one. -/
def gatherExponent : List Char → Nat → Nat → Option Nat × Nat
  | [], exponent, taken => (some exponent, taken)
  | char :: rest, exponent, taken =>
    match digitValue? char with
    | none => (some exponent, taken)
    | some digit =>
      if exponent * 10 + digit ≤ maxExponent then
        gatherExponent rest (exponent * 10 + digit) (taken + 1)
      else (none, taken + 1)

/-- Reads an exponent behind its letter. -/
def readExponent (negative : Bool) (significand : Nat) (exponent : Int) : Reader Number :=
  fun cursor =>
    let (down, cursor) := match cursor.rest with
      | '+' :: _ => (false, cursor.skip 1)
      | '-' :: _ => (true, cursor.skip 1)
      | _ => (false, cursor)
    match cursor.rest with
    | [] => cursor.fail (.endInside .value)
    | char :: _ =>
      if (digitValue? char).isNone then .error ⟨.invalidNumber, cursor.offset + 1⟩
      else
        match gatherExponent cursor.rest 0 0 with
        | (some shift, taken) =>
          let exponent := if down then exponent - shift else exponent + shift
          finishDouble negative significand exponent (cursor.skip taken)
        | (none, taken) =>
          if significand ≠ 0 ∧ !down then (cursor.skip taken).fail .numberOutOfRange
          else .ok (.double ⟨negative, .zero⟩, skipDigits cursor)

/-- Reads an exponent if one follows. -/
def readOptionalExponent (negative : Bool) (significand : Nat) (exponent : Int) : Reader Number :=
  fun cursor =>
    match cursor.rest with
    | 'e' :: _ | 'E' :: _ => readExponent negative significand exponent (cursor.skip 1)
    | _ => finishDouble negative significand exponent cursor

/-- Reads a fraction behind its point. Digits that the significand has no room for are dropped. -/
def readFraction (negative : Bool) (significand : Nat) (exponent : Int) : Reader Number :=
  fun cursor =>
    let gathered := gather cursor.rest significand
    let behind := cursor.skip gathered.2
    let exponent := exponent - gathered.2
    if atDigit behind then
      readOptionalExponent negative gathered.1 exponent (skipDigits behind)
    else if gathered.2 = 0 then
      cursor.failNext (if cursor.rest.isEmpty then .endInside .value else .invalidNumber)
    else readOptionalExponent negative gathered.1 exponent behind

/-- An integer as it is kept: as a double when it is too large, and when it is a negative zero. -/
def ofInteger (negative : Bool) (significand : Nat) : Number :=
  if !negative then .integer significand
  else if 0 < significand ∧ significand ≤ Nat.pow 2 63 then .integer (-(significand : Int))
  else .double ⟨true, (Magnitude.ofNat? significand).getD .zero⟩

/-- Reads what may follow the integer part of a number. -/
def readAfterInteger (negative : Bool) (significand : Nat) : Reader Number := fun cursor =>
  match cursor.rest with
  | '.' :: _ => readFraction negative significand 0 (cursor.skip 1)
  | 'e' :: _ | 'E' :: _ => readExponent negative significand 0 (cursor.skip 1)
  | _ => .ok (ofInteger negative significand, cursor)

/-- Reads the digits of an integer part that the significand has no room for, and what may follow.
-/
def readLongInteger (negative : Bool) (significand : Nat) : Reader Number := fun cursor =>
  let dropped := (cursor.rest.takeWhile fun char => (digitValue? char).isSome).length
  let cursor := cursor.skip dropped
  match cursor.rest with
  | '.' :: _ => readFraction negative significand dropped (cursor.skip 1)
  | _ => readOptionalExponent negative significand dropped cursor

/-- Reads a number behind its sign. -/
def readUnsigned (negative : Bool) : Reader Number := fun cursor =>
  match cursor.rest with
  | [] => cursor.fail (.endInside .value)
  | '0' :: _ =>
    if atDigit (cursor.skip 1) then (cursor.skip 1).failNext .invalidNumber
    else readAfterInteger negative 0 (cursor.skip 1)
  | char :: _ =>
    if (digitValue? char).isNone then .error ⟨.invalidNumber, cursor.offset + 1⟩
    else
      let gathered := gather cursor.rest 0
      let behind := cursor.skip gathered.2
      if atDigit behind then readLongInteger negative gathered.1 behind
      else readAfterInteger negative gathered.1 behind

/-- Reads a number. -/
def readNumber : Reader Number := fun cursor =>
  match cursor.rest with
  | '-' :: rest => readUnsigned true (cursor.past '-' rest)
  | _ => readUnsigned false cursor

/-! ## Containers -/

/-- Reads the items of a list behind its opening bracket, up to the closing one; the fuel bounds
their number. -/
def readItems {Item : Type} (read : Reader Item) : Nat → Bool → Reader (List Item)
  | 0, _, cursor => cursor.fail (.endInside .list)
  | fuel + 1, first, cursor =>
    let cursor := cursor.skipSpace
    let next (cursor : Cursor) : Except ReadError (List Item × Cursor) := do
      let (item, cursor) ← read cursor
      let (items, cursor) ← readItems read fuel false cursor
      .ok (item :: items, cursor)
    match cursor.rest with
    | [] => cursor.fail (.endInside .list)
    | ']' :: _ => .ok ([], cursor.skip 1)
    | char :: _ =>
      if first then next cursor
      else if char = ',' then
        let cursor := (cursor.skip 1).skipSpace
        match cursor.rest with
        | [] => cursor.fail (.endInside .value)
        | ']' :: _ => cursor.failNext .trailingComma
        | _ => next cursor
      else cursor.failNext .expectedListEnd

/-- Reads the key of the next member of an object, or nothing before the closing brace, where the
cursor stays. -/
def readKey? (first : Bool) : Reader (Option String) := fun cursor =>
  let cursor := cursor.skipSpace
  let key (cursor : Cursor) : Except ReadError (Option String × Cursor) := do
    let (key, cursor) ← readString (cursor.skip 1)
    .ok (some key, cursor)
  match cursor.rest with
  | [] => cursor.fail (.endInside .object)
  | '\x7d' :: _ => .ok (none, cursor)
  | char :: _ =>
    if first then
      if char = '"' then key cursor else cursor.failNext .keyNotString
    else if char = ',' then
      let cursor := (cursor.skip 1).skipSpace
      match cursor.rest with
      | [] => cursor.fail (.endInside .value)
      | '"' :: _ => key cursor
      | '\x7d' :: _ => cursor.failNext .trailingComma
      | _ => cursor.failNext .keyNotString
    else cursor.failNext .expectedObjectEnd

/-- Reads the colon between a key and its value. -/
def readColon : Reader Unit := fun cursor =>
  let cursor := cursor.skipSpace
  match cursor.rest with
  | [] => cursor.fail (.endInside .object)
  | ':' :: _ => .ok ((), cursor.skip 1)
  | _ => cursor.failNext .expectedColon

/-- Reads the members of an object behind its opening brace, up to the closing one. -/
def readMembers {Item : Type} (read : Reader Item) : Nat → Bool → Reader (List (String × Item))
  | 0, _, cursor => cursor.fail (.endInside .object)
  | fuel + 1, first, cursor => do
    let (key, cursor) ← readKey? first cursor
    match key with
    | none => .ok ([], cursor.skip 1)
    | some key =>
      let ((), cursor) ← readColon cursor
      let (item, cursor) ← read cursor
      let (members, cursor) ← readMembers read fuel false cursor
      .ok ((key, item) :: members, cursor)

/-! ## Values -/

/-- Reads a value that is no container; the two arguments read those, from their bracket on. -/
def readScalarOr (array object : Reader Json) : Reader Json := fun cursor =>
  let cursor := cursor.skipSpace
  let word (letters : List Char) (value : Json) : Except ReadError (Json × Cursor) := do
    let ((), cursor) ← readWord letters (cursor.skip 1)
    .ok (value, cursor)
  match cursor.rest with
  | [] => cursor.fail (.endInside .value)
  | char :: _ =>
    match char with
    | 'n' => word ['u', 'l', 'l'] .null
    | 't' => word ['r', 'u', 'e'] (.boolean true)
    | 'f' => word ['a', 'l', 's', 'e'] (.boolean false)
    | '"' => do
      let (letters, cursor) ← readString (cursor.skip 1)
      .ok (.text letters, cursor)
    | '[' => array cursor
    | '\x7b' => object cursor
    | _ =>
      if char = '-' ∨ (digitValue? char).isSome then do
        let (amount, cursor) ← readNumber cursor
        .ok (.number amount, cursor)
      else cursor.failNext .expectedValue

/-- Reads a value with at most so many containers inside each other. Members are sorted by key, and
of members with one key the last stays. -/
def readNested : Nat → Reader Json
  | 0 => readScalarOr (·.failNext .tooDeep) (·.failNext .tooDeep)
  | depth + 1 =>
    readScalarOr
      (fun cursor => do
        let (items, cursor) ←
          readItems (readNested depth) (cursor.rest.length + 1) true (cursor.skip 1)
        .ok (.array items, cursor))
      (fun cursor => do
        let (members, cursor) ←
          readMembers (readNested depth) (cursor.rest.length + 1) true (cursor.skip 1)
        .ok (.object (sortEntries members), cursor))

/-- Fails unless only white space is left. -/
def readEnd : Reader Unit := fun cursor =>
  let cursor := cursor.skipSpace
  if cursor.rest.isEmpty then .ok ((), cursor) else cursor.failNext .trailingCharacters

/-- Reads a whole text with a reader. -/
def readAll {Result : Type} (read : Reader Result) (text : String) : Except ReadError Result := do
  let (result, cursor) ← read (Cursor.start text.toList)
  let ((), _) ← readEnd cursor
  .ok result

/-- Reads a text that holds one JSON document. -/
def ofText? (text : String) : Except ReadError Json :=
  readAll (readNested nestingLimit) text

/-! ## Checking without keeping -/

/-- Skips the digits of a number's exponent, behind its letter. -/
def skipExponent : Reader Unit := fun cursor =>
  let cursor := match cursor.rest with
    | '+' :: _ | '-' :: _ => cursor.skip 1
    | _ => cursor
  if atDigit cursor then .ok ((), skipDigits cursor)
  else .error ⟨.invalidNumber, if cursor.rest.isEmpty then cursor.offset else cursor.offset + 1⟩

/-- Skips a number behind its sign. -/
def skipNumber : Reader Unit := fun cursor =>
  let exponent (cursor : Cursor) : Except ReadError (Unit × Cursor) :=
    match cursor.rest with
    | 'e' :: _ | 'E' :: _ => skipExponent (cursor.skip 1)
    | _ => .ok ((), cursor)
  let tail (cursor : Cursor) : Except ReadError (Unit × Cursor) :=
    match cursor.rest with
    | '.' :: _ =>
      let cursor := cursor.skip 1
      if atDigit cursor then exponent (skipDigits cursor) else cursor.failNext .invalidNumber
    | _ => exponent cursor
  match cursor.rest with
  | '0' :: _ =>
    if atDigit (cursor.skip 1) then (cursor.skip 1).failNext .invalidNumber
    else tail (cursor.skip 1)
  | _ =>
    if atDigit cursor then tail (skipDigits cursor)
    else
      .error ⟨.invalidNumber, if cursor.rest.isEmpty then cursor.offset else cursor.offset + 1⟩

/-- Skips the rest of a string. A numeric escape needs its four digits, but no partner. -/
def skipChars : Nat → Reader Unit
  | 0, cursor => cursor.fail (.endInside .string)
  | fuel + 1, cursor =>
    match cursor.rest with
    | [] => cursor.fail (.endInside .string)
    | '"' :: rest => .ok ((), cursor.past '"' rest)
    | '\\' :: 'u' :: _ => do
      let (_, cursor) ← readHex (cursor.skip 2)
      skipChars fuel cursor
    | '\\' :: rest => do
      let (_, cursor) ← readEscape (cursor.past '\\' rest)
      skipChars fuel cursor
    | char :: rest =>
      if char.toNat < 0x20 then cursor.fail .controlCharacter
      else skipChars fuel (cursor.past char rest)

/-- Skips a string behind its opening quote. -/
def skipString : Reader Unit := fun cursor =>
  skipChars (cursor.rest.length + 1) cursor

/-- A container that is being skipped. -/
inductive Frame where
  | list
  | object
  deriving DecidableEq, Repr

/-- Skips a value that is no container; the result tells the container that opens otherwise. -/
def skipScalar : Reader (Option Frame) := fun cursor =>
  let cursor := cursor.skipSpace
  let plain (result : Except ReadError (Unit × Cursor)) :
      Except ReadError (Option Frame × Cursor) :=
    result.map fun done => (none, done.2)
  match cursor.rest with
  | [] => cursor.fail (.endInside .value)
  | char :: _ =>
    match char with
    | 'n' => plain (readWord ['u', 'l', 'l'] (cursor.skip 1))
    | 't' => plain (readWord ['r', 'u', 'e'] (cursor.skip 1))
    | 'f' => plain (readWord ['a', 'l', 's', 'e'] (cursor.skip 1))
    | '"' => plain (skipString (cursor.skip 1))
    | '-' => plain (skipNumber (cursor.skip 1))
    | '[' => .ok (some .list, cursor.skip 1)
    | '\x7b' => .ok (some .object, cursor.skip 1)
    | _ =>
      if (digitValue? char).isSome then plain (skipNumber cursor)
      else cursor.failNext .expectedValue

/-- Skips the key of a member and its colon. -/
def skipKey : Reader Unit := fun cursor =>
  let cursor := cursor.skipSpace
  match cursor.rest with
  | [] => cursor.fail (.endInside .object)
  | '"' :: _ => do
    let ((), cursor) ← skipString (cursor.skip 1)
    readColon cursor
  | _ => cursor.failNext .keyNotString

/-- Skips from before a value, or from behind one, to the end of the outermost of some open
containers; `fresh` tells that the innermost has just been opened. -/
def skipOpen : Nat → List Frame → Bool → Reader Unit
  | 0, _, _, cursor => cursor.fail (.endInside .value)
  | _ + 1, [], _, cursor => .ok ((), cursor)
  | fuel + 1, frame :: outer, fresh, cursor =>
    let cursor := cursor.skipSpace
    let entry (cursor : Cursor) : Except ReadError (Unit × Cursor) := do
      let ((), cursor) ← if frame = .object then skipKey cursor else .ok ((), cursor)
      let (opened, cursor) ← skipScalar cursor
      match opened with
      | some inner => skipOpen fuel (inner :: frame :: outer) true cursor
      | none => skipOpen fuel (frame :: outer) false cursor
    match cursor.rest, frame with
    | [], .list => cursor.fail (.endInside .list)
    | [], .object => cursor.fail (.endInside .object)
    | ']' :: _, .list => skipOpen fuel outer false (cursor.skip 1)
    | '\x7d' :: _, .object => skipOpen fuel outer false (cursor.skip 1)
    | char :: _, _ =>
      if fresh then entry cursor
      else if char = ',' then entry (cursor.skip 1)
      else cursor.failNext (if frame = .list then .expectedListEnd else .expectedObjectEnd)

/-- Skips one value of any nesting. -/
def skipValue : Reader Unit := fun cursor => do
  let (opened, cursor) ← skipScalar cursor
  match opened with
  | some frame => skipOpen (2 * cursor.rest.length + 2) [frame] true cursor
  | none => .ok ((), cursor)

/-! ## Typed reading -/

/-- Fails at a value that is not of the expected kind. A faulty value is reported as such first. -/
def wrongType {Result : Type} (expected : String) (cursor : Cursor) :
    Except ReadError Result := do
  let cursor := cursor.skipSpace
  let keep (found : Found) (cursor : Cursor) : Except ReadError Result :=
    cursor.fail (.mismatch (.wrongType found expected))
  match cursor.rest with
  | '[' :: _ => keep .sequence cursor
  | '\x7b' :: _ => keep .map cursor
  | _ =>
    let (value, cursor) ← readScalarOr (·.failNext .tooDeep) (·.failNext .tooDeep) cursor
    keep (Found.ofJson value) cursor

/-- Reads a string value. -/
def readText : Reader String := fun cursor =>
  let cursor := cursor.skipSpace
  match cursor.rest with
  | [] => cursor.fail (.endInside .value)
  | '"' :: _ => readString (cursor.skip 1)
  | _ => wrongType "a string" cursor

/-- Reads a list of items, all with one reader. -/
def readList {Item : Type} (read : Reader Item) : Reader (List Item) := fun cursor =>
  let cursor := cursor.skipSpace
  match cursor.rest with
  | [] => cursor.fail (.endInside .value)
  | '[' :: _ => readItems read (cursor.rest.length + 1) true (cursor.skip 1)
  | _ => wrongType "a sequence" cursor

/-- Reads an object whose values are all read with one reader. -/
def readMap {Item : Type} (read : Reader Item) : Reader (List (String × Item)) := fun cursor =>
  let cursor := cursor.skipSpace
  match cursor.rest with
  | [] => cursor.fail (.endInside .value)
  | '\x7b' :: _ => readMembers read (cursor.rest.length + 1) true (cursor.skip 1)
  | _ => wrongType "a map" cursor

end FixtureHarness.Json
