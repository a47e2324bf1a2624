import FixtureHarness.Text.Regex.Perl.Reading

/-! # Classes of characters in Perl expressions

A class is named by a letter behind a backslash, by a property, or listed in brackets.
-/

namespace FixtureHarness.Regex.Perl

/-! ## Named classes -/

/-- The characters that end lines. -/
def verticalSpace : CharSet := ⟨[('\n', '\r'), ('\x85', '\x85')], false⟩

/-- The characters that separate words within lines. -/
def horizontalSpace : CharSet := ⟨[('\t', '\t'), (' ', ' '), ('\xa0', '\xa0')], false⟩

/-- The line feed alone. -/
def lineFeed : CharSet := .single '\n'

/-- The set that a letter behind a backslash stands for. -/
def escapedSet? : Char → Option CharSet
  | 'd' => some CharSet.digit
  | 'D' => some CharSet.digit.complement
  | 's' => some CharSet.space
  | 'S' => some CharSet.space.complement
  | 'w' => some CharSet.word
  | 'W' => some CharSet.word.complement
  | 'h' => some horizontalSpace
  | 'H' => some horizontalSpace.complement
  | 'v' => some verticalSpace
  | 'V' => some verticalSpace.complement
  | _ => none

/-- The ranges of a set among the octets. -/
def octetRanges (set : CharSet) : List (Char × Char) :=
  let octets := (List.range 256).map Char.ofNat
  (octets.filter set.contains).map fun char => (char, char)

/-- The ranges of a general property of characters among the octets. -/
def propertyRanges? (name : List Char) : Option (List (Char × Char)) :=
  match String.ofList name with
  | "Lu" => some [('A', 'Z'), ('\xc0', '\xd6'), ('\xd8', '\xde')]
  | "Ll" => some [('a', 'z'), ('\xb5', '\xb5'), ('\xdf', '\xf6'), ('\xf8', '\xff')]
  | "Lo" => some [('\xaa', '\xaa'), ('\xba', '\xba')]
  | "L" =>
    some [('A', 'Z'), ('a', 'z'), ('\xaa', '\xaa'), ('\xb5', '\xb5'), ('\xba', '\xba'),
      ('\xc0', '\xd6'), ('\xd8', '\xf6'), ('\xf8', '\xff')]
  | "Nd" => some [('0', '9')]
  | "N" => some [('0', '9'), ('\xb2', '\xb3'), ('\xb9', '\xb9'), ('\xbc', '\xbe')]
  | "P" =>
    some [('!', '#'), ('%', '*'), (',', '/'), (':', ';'), ('?', '@'), ('[', ']'), ('_', '_'),
      ('\x7b', '\x7b'), ('\x7d', '\x7d'), ('\xa1', '\xa1'), ('\xa7', '\xa7'), ('\xab', '\xab'),
      ('\xb6', '\xb7'), ('\xbb', '\xbb'), ('\xbf', '\xbf')]
  | "S" =>
    some [('$', '$'), ('+', '+'), ('<', '>'), ('^', '^'), ('\x60', '\x60'), ('|', '|'),
      ('~', '~'), ('\xa2', '\xa6'), ('\xa8', '\xa9'), ('\xac', '\xac'), ('\xae', '\xb1'),
      ('\xb4', '\xb4'), ('\xb8', '\xb8'), ('\xd7', '\xd7'), ('\xf7', '\xf7')]
  | "Z" => some [(' ', ' '), ('\xa0', '\xa0')]
  | "Zs" => some [(' ', ' '), ('\xa0', '\xa0')]
  | "C" => some [('\x00', '\x1f'), ('\x7f', '\x9f'), ('\xad', '\xad')]
  | "Cc" => some [('\x00', '\x1f'), ('\x7f', '\x9f')]
  | "Any" => some [('\x00', '\xff')]
  | _ => none

/-- Reads the name of a property behind its letter. -/
def readProperty (negated : Bool) (text : List Char) : Except Fault (CharSet × List Char) :=
  let find (negated : Bool) (name rest : List Char) : Except Fault (CharSet × List Char) :=
    match propertyRanges? name with
    | some ranges => .ok (⟨ranges, negated⟩, rest)
    | none => .error .unknownProperty
  match text with
  | [] => .error .badProperty
  | '\x7b' :: rest =>
    let inside := rest.takeWhile (· ≠ '\x7d')
    if inside.length = rest.length || inside.isEmpty then .error .badProperty
    else
      let behind := rest.drop (inside.length + 1)
      match inside with
      | '^' :: name => find (!negated) name behind
      | _ => find negated inside behind
  | letter :: rest => if letter.isAlpha then find negated [letter] rest else .error .badProperty

/-! ## Characters behind a backslash -/

/-- Whether a character is a digit in base eight. -/
def isOctal (char : Char) : Bool :=
  '0' ≤ char && char ≤ '7'

/-- Whether a character is a digit in base sixteen. -/
def isHexadecimal (char : Char) : Bool :=
  char.isDigit || ('a' ≤ char && char ≤ 'f') || ('A' ≤ char && char ≤ 'F')

/-- Reads digits between braces, behind the opening one. -/
def readBraced (base : Nat) (isDigit : Char → Bool) (fault : Fault) (text : List Char) :
    Except Fault (Char × List Char) :=
  let digits := text.takeWhile isDigit
  let value := numberOf base (digits.map digitValue)
  if text.isEmpty || text.head? = some '\x7d' then .error .missingDigits
  else if 255 < value then .error .codeTooBig
  else
    match text.drop digits.length with
    | '\x7d' :: rest => .ok (Char.ofNat value, rest)
    | _ => .error fault

/-- Reads the digits of an octet in base eight, at most so many. -/
def readOctal (most : Nat) (text : List Char) : Except Fault (Char × List Char) :=
  let digits := (text.take most).takeWhile isOctal
  let value := numberOf 8 (digits.map digitValue)
  if 255 < value then .error .octalTooBig
  else .ok (Char.ofNat value, text.drop digits.length)

/-- Reads the character that a letter behind a backslash stands for, if it stands for one. -/
def readChar? (char : Char) (rest : List Char) : Option (Except Fault (Char × List Char)) :=
  match char with
  | 'a' => some (.ok ('\x07', rest))
  | 'e' => some (.ok ('\x1b', rest))
  | 'f' => some (.ok ('\x0c', rest))
  | 'n' => some (.ok ('\n', rest))
  | 'r' => some (.ok ('\r', rest))
  | 't' => some (.ok ('\t', rest))
  | '0' => some (readOctal 2 rest)
  | 'o' =>
    match rest with
    | '\x7b' :: rest => some (readBraced 8 isOctal .badOctal rest)
    | _ => some (.error .noOctalBrace)
  | 'x' =>
    match rest with
    | '\x7b' :: rest => some (readBraced 16 isHexadecimal .badHexadecimal rest)
    | _ =>
      let digits := (rest.take 2).takeWhile isHexadecimal
      some (.ok (Char.ofNat (numberOf 16 (digits.map digitValue)), rest.drop digits.length))
  | 'c' =>
    match rest with
    | [] => some (.error .controlAtEnd)
    | char :: rest =>
      if ' ' ≤ char && char ≤ '~' then
        some (.ok (Char.ofNat (char.toUpper.toNat ^^^ 64), rest))
      else some (.error .controlNotPrintable)
  | _ => if char.isAlphanum then none else some (.ok (char, rest))

/-- What is wrong with a letter behind a backslash that means nothing. -/
def escapeFault (char : Char) : Fault :=
  if ['F', 'l', 'L', 'u', 'U'].contains char then .caseEscape else .unknownEscape

/-! ## Classes in brackets -/

/-- How far a class in brackets has come. -/
structure ClassReading where
  ranges : List (Char × Char)
  /-- The character that can begin a range. -/
  low? : Option Char
  /-- Whether a dash stands behind that character. -/
  dashed : Bool

namespace ClassReading

/-- Takes a single character. -/
def char (reading : ClassReading) (char : Char) : Except Fault ClassReading :=
  match reading.low?, reading.dashed with
  | some low, true =>
    if char < low then .error .rangeOutOfOrder
    else .ok ⟨(low, char) :: reading.ranges, none, false⟩
  | _, _ => .ok ⟨(char, char) :: reading.ranges, some char, false⟩

/-- Takes a set of characters, which is no end of a range. -/
def set (reading : ClassReading) (set : CharSet) (rest : List Char) :
    Except Fault ClassReading :=
  let beginsRange :=
    match rest with
    | '-' :: next :: _ => next ≠ ']'
    | _ => false
  if reading.dashed || beginsRange then .error .invalidRange
  else .ok ⟨octetRanges set ++ reading.ranges, none, false⟩

/-- The ranges at the end of the class, where a dash stands for itself. -/
def finish (reading : ClassReading) : List (Char × Char) :=
  if reading.dashed then ('-', '-') :: reading.ranges else reading.ranges

end ClassReading

/-- Splits a text behind the bracket of a named class, at the mark and bracket that end the name. -/
def splitName (mark : Char) : List Char → Option (List Char × List Char)
  | [] => none
  | [_] => none
  | first :: second :: rest =>
    if first = mark && second = ']' then some ([], rest)
    else if first = ']' || (first = '[' && second = mark) then none
    else (splitName mark (second :: rest)).map fun (name, rest) => (first :: name, rest)

/-- The set of a named class. -/
def namedSet? (anyCase : Bool) (name : List Char) : Option CharSet :=
  let negated := name.head? = some '^'
  let name := String.ofList (if negated then name.drop 1 else name)
  let name := if anyCase && (name = "upper" || name = "lower") then "alpha" else name
  let ranges? :=
    if name = "ascii" then some [('\x00', '\x7f')] else CharSet.namedRanges? name.toList
  ranges?.map fun ranges => ⟨ranges, negated⟩

/-- Takes a character behind a backslash in brackets. -/
def takeClassEscape (char : Char) (rest : List Char) (reading : ClassReading) :
    Except Fault (ClassReading × List Char) :=
  if char = 'b' then do
    let reading ← reading.char '\x08'
    .ok (reading, rest)
  else if isOctal char then do
    let (octet, rest) ← readOctal 3 (char :: rest)
    let reading ← reading.char octet
    .ok (reading, rest)
  else if char = 'p' || char = 'P' then do
    let (set, rest) ← readProperty (char = 'P') rest
    let reading ← reading.set set rest
    .ok (reading, rest)
  else if char = 'E' then .ok (reading, rest)
  else if char = 'N' then .error .noLineFeedInClass
  else if ['A', 'B', 'C', 'G', 'K', 'R', 'X', 'Z', 'z', 'g', 'k'].contains char then
    .error .escapeInClass
  else
    match escapedSet? char with
    | some set => do
      let reading ← reading.set set rest
      .ok (reading, rest)
    | none =>
      match readChar? char rest with
      | some read => do
        let (char, rest) ← read
        let reading ← reading.char char
        .ok (reading, rest)
      | none => .error (escapeFault char)

/-- Takes all characters of a quoted text. -/
def takeClassChars (chars : List Char) (reading : ClassReading) : Except Fault ClassReading :=
  chars.foldlM (fun reading char => reading.char char) reading

/-- Splits a quoted text at its end, or at the end of the expression. -/
def splitQuoted : List Char → List Char × List Char
  | [] => ([], [])
  | '\\' :: 'E' :: rest => ([], rest)
  | char :: rest =>
    let (quoted, rest) := splitQuoted rest
    (char :: quoted, rest)

/-- Takes what stands between brackets, up to the closing one. -/
def takeClass (flags : Flags) :
    Nat → Bool → ClassReading → List Char → Except Fault (List (Char × Char) × List Char)
  | 0, _, _, _ => .error .unclosedClass
  | _, _, _, [] => .error .unclosedClass
  | fuel + 1, atStart, reading, char :: rest =>
    match char with
    | ']' =>
      if atStart then do
        let reading ← reading.char ']'
        takeClass flags fuel false reading rest
      else .ok (reading.finish, rest)
    | '\\' =>
      match rest with
      | [] => .error .escapeAtEnd
      | 'Q' :: rest => do
        let (quoted, rest) := splitQuoted rest
        let reading ← takeClassChars quoted reading
        takeClass flags fuel (atStart && quoted.isEmpty) reading rest
      | char :: rest => do
        let (reading, rest) ← takeClassEscape char rest reading
        takeClass flags fuel false reading rest
    | '[' =>
      let mark? := rest.head?.filter fun mark => mark = ':' || mark = '.' || mark = '='
      match mark?.bind fun mark => splitName mark (rest.drop 1) with
      | some (name, others) =>
        if mark? ≠ some ':' then .error .collatingElement
        else
          match namedSet? flags.anyCase name with
          | none => .error .unknownClassName
          | some set => do
            let reading ← reading.set set others
            takeClass flags fuel false reading others
      | none => do
        let reading ← reading.char '['
        takeClass flags fuel false reading rest
    | '-' =>
      if reading.low?.isSome && !reading.dashed then
        takeClass flags fuel false { reading with dashed := true } rest
      else do
        let reading ← reading.char '-'
        takeClass flags fuel false reading rest
    | _ =>
      if flags.spacedBrackets && (char = ' ' || char = '\t') then
        takeClass flags fuel atStart reading rest
      else do
        let reading ← reading.char char
        takeClass flags fuel false reading rest

/-- Takes a class behind its opening bracket. -/
def takeBrackets (rest : List Char) (reading : Reading) : Step :=
  let mark? := rest.head?.filter fun mark => mark = ':' || mark = '.' || mark = '='
  match mark?.bind fun mark => splitName mark (rest.drop 1) with
  | some _ => .error (if mark? = some ':' then .classOutsideBrackets else .collatingElement)
  | none => do
    let negated := rest.head? = some '^'
    let body := if negated then rest.drop 1 else rest
    let (ranges, rest) ← takeClass reading.flags (body.length + 1) true ⟨[], none, false⟩ body
    .ok (reading.addSet ⟨ranges, negated⟩, rest)

end FixtureHarness.Regex.Perl
