import FixtureHarness.Text.Regex.Perl.Class

/-! # Reading Perl expressions

Perl expressions have groups that look around or take no second try, and flags that hold to the end
of a group.
-/

namespace FixtureHarness.Regex.Perl

/-! ## References -/

/-- Whether a character can stand in a name. -/
def isNameChar (char : Char) : Bool :=
  CharSet.word.contains char

/-- Reads a name up to the character that ends it. -/
def readName (stop : Char) (text : List Char) : Except Fault (List Char × List Char) :=
  let name := text.takeWhile isNameChar
  if name.isEmpty then .error .missingName
  else if name.head?.any Char.isDigit then .error .nameStartsWithDigit
  else if 32 < name.length then .error .nameTooLong
  else
    match text.drop name.length with
    | char :: rest => if char = stop then .ok (name, rest) else .error .unclosedName
    | [] => .error .unclosedName

/-- The character that ends what another opens. -/
def closing? : Char → Option Char
  | '\x7b' => some '\x7d'
  | '<' => some '>'
  | '\'' => some '\''
  | _ => none

/-- Reads the number of a group, which can be counted from here. -/
def readGroupNumber (opened : Nat) (text : List Char) : Except Fault (Option (Nat × List Char)) :=
  let sign? := text.head?.filter fun char => char = '-' || char = '+'
  let body := if sign?.isSome then text.drop 1 else text
  let digits := body.takeWhile Char.isDigit
  let value := numberOf 10 (digits.map digitValue)
  let rest := body.drop digits.length
  if digits.isEmpty then .ok none
  else
    match sign? with
    | none => .ok (some (value, rest))
    | some '-' =>
      if value = 0 then .error .relativeZero
      else if opened < value then .error .missingGroup
      else .ok (some (opened + 1 - value, rest))
    | some _ => if value = 0 then .error .relativeZero else .ok (some (opened + value, rest))

/-- Takes a reference to a group by number or name, behind its letter. -/
def takeGroupReference (rest : List Char) (reading : Reading) : Step :=
  match rest with
  | '\x7b' :: inside => do
    match ← readGroupNumber reading.opened inside with
    | some (number, '\x7d' :: rest) =>
      if number = 0 then .error .missingGroup
      else do
        let reading ← reading.refer number
        .ok (reading, rest)
    | some _ => .error .badGroupReference
    | none => do
      let (name, rest) ← readName '\x7d' inside
      let reading ← reading.referByName name
      .ok (reading, rest)
  | _ => do
    match ← readGroupNumber reading.opened rest with
    | some (number, rest) =>
      if number = 0 then .error .missingGroup
      else do
        let reading ← reading.refer number
        .ok (reading, rest)
    | none => .error .badGroupReference

/-- Takes a reference to a group by name, behind its letter. -/
def takeNameReference (rest : List Char) (reading : Reading) : Step :=
  match rest with
  | [] => .error .badNameReference
  | first :: inside =>
    match closing? first with
    | none => .error .badNameReference
    | some stop => do
      let (name, rest) ← readName stop inside
      let reading ← reading.referByName name
      .ok (reading, rest)

/-- Takes digits behind a backslash: a group, or an octet in base eight. -/
def takeDigits (first : Char) (rest : List Char) (reading : Reading) : Step :=
  let digits := first :: rest.takeWhile Char.isDigit
  let number := numberOf 10 (digits.map digitValue)
  if number < 10 || '8' ≤ first || number ≤ reading.opened then do
    let reading ← reading.refer number
    .ok (reading, rest.drop (digits.length - 1))
  else do
    let (char, rest) ← readOctal 3 (first :: rest)
    .ok (reading.literal char, rest)

/-! ## Signs -/

/-- A line end of any kind. -/
def anyLineEnd : Regex :=
  .settled (.either (.sequence (.one (.single '\r')) (.one lineFeed)) (.one verticalSpace))

/-- The conditions that letters behind a backslash stand for. -/
def escapedEdge? : Char → Option Edge
  | 'b' => some .wordEdge
  | 'B' => some .noWordEdge
  | 'A' => some .textStart
  | 'Z' => some .lastLineEnd
  | 'z' => some .textEnd
  | 'G' => some .textStart
  | _ => none

/-- Takes the letter of everything but a line feed. -/
def takeNoLineFeed (rest : List Char) (reading : Reading) : Step :=
  let plain : Step := .ok (reading.addSet lineFeed.complement, rest)
  match rest with
  | '\x7b' :: inside =>
    match readBounds inside with
    | .ok (some _) => plain
    | _ =>
      match inside with
      | 'U' :: '+' :: _ => .error .codePointName
      | _ => .error .caseEscape
  | _ => plain

/-- Takes a character behind a backslash. -/
def takeEscaped (char : Char) (rest : List Char) (reading : Reading) : Step :=
  match char with
  | 'Q' =>
    let (quoted, rest) := splitQuoted rest
    .ok (quoted.foldl Reading.literal reading, rest)
  | 'E' => .ok (reading, rest)
  | 'K' => .ok (reading.add .restart false, rest)
  | 'N' => takeNoLineFeed rest reading
  | 'R' => .ok (reading.add anyLineEnd true, rest)
  | 'X' => .ok (reading.add (.one ⟨[], true⟩) true, rest)
  | 'C' => .ok (reading.add (.one ⟨[], true⟩) true, rest)
  | 'g' => takeGroupReference rest reading
  | 'k' => takeNameReference rest reading
  | 'p' => do
    let (set, rest) ← readProperty false rest
    .ok (reading.addSet set, rest)
  | 'P' => do
    let (set, rest) ← readProperty true rest
    .ok (reading.addSet set, rest)
  | _ =>
    if '1' ≤ char && char ≤ '9' then takeDigits char rest reading
    else
      match escapedEdge? char, escapedSet? char, readChar? char rest with
      | some condition, _, _ => .ok (reading.condition condition, rest)
      | none, some set, _ => .ok (reading.addSet set, rest)
      | none, none, some read => do
        let (char, rest) ← read
        .ok (reading.literal char, rest)
      | none, none, none => .error (escapeFault char)

/-- Sets or takes away what a letter switches. -/
def switch (flags : Flags) (letter : Char) (on : Bool) : Option Flags :=
  match letter with
  | 'i' => some { flags with anyCase := on }
  | 'm' => some { flags with multiLine := on }
  | 's' => some { flags with dotAll := on }
  | 'n' => some { flags with plainGroups := on }
  | 'x' =>
    some { flags with spaced := on, spacedBrackets := on && flags.spaced && flags.spacedBrackets }
  | 'J' => some { flags with sameNames := on }
  | 'U' => some { flags with lazy := on }
  | _ => none

/-- Takes letters that switch flags, up to the end of the group or the beginning of its content. -/
def takeFlags : Bool → Flags → List Char → Reading → Step
  | _, _, [], _ => .error .unclosedGroup
  | _, flags, ')' :: rest, reading =>
    .ok ({ reading with flags := flags, repeatable := false }, rest)
  | _, flags, ':' :: rest, reading =>
    .ok ({ reading.openGroup .plain with flags := flags }, rest)
  | true, flags, '-' :: rest, reading => takeFlags false flags rest reading
  | true, flags, 'x' :: 'x' :: rest, reading =>
    takeFlags true { flags with spaced := true, spacedBrackets := true } rest reading
  | on, flags, letter :: rest, reading =>
    match switch flags letter on with
    | some flags => takeFlags on flags rest reading
    | none => .error .unknownGroupKind

/-- Takes all flags away but the ones for groups' names. -/
def Flags.cleared (flags : Flags) : Flags :=
  { flags with
    anyCase := false, multiLine := false, dotAll := false, spaced := false
    spacedBrackets := false, plainGroups := false }

/-- Opens a group with a name. -/
def takeNamed (stop : Char) (rest : List Char) (reading : Reading) : Step := do
  let (name, rest) ← readName stop rest
  let number := reading.opened + 1
  let isTaken := reading.names.any fun entry => entry.1 = name && entry.2 ≠ number
  if isTaken && !reading.flags.sameNames then .error .repeatedName
  else
    .ok ({ reading.openGroup (.numbered number) with
      names := reading.names ++ [(name, number)] }, rest)

/-- Takes what stands behind the opening of a group and the letter for names. -/
def takeNameKind (rest : List Char) (reading : Reading) : Step :=
  match rest with
  | [] => .error .unclosedGroup
  | '<' :: rest => takeNamed '>' rest reading
  | '=' :: rest => do
    let (name, rest) ← readName ')' rest
    let reading ← reading.referByName name
    .ok (reading, rest)
  | _ => .error .unknownNameKind

/-- Takes what stands behind an opening parenthesis with a question mark. -/
def takeGroupKind (rest : List Char) (reading : Reading) : Step :=
  let opened (kind : GroupKind) (rest : List Char) : Step := .ok (reading.openGroup kind, rest)
  match rest with
  | [] => .error .unclosedGroup
  | ':' :: rest => opened .plain rest
  | '|' :: rest => opened .sharing rest
  | '>' :: rest => opened .settled rest
  | '=' :: rest => opened .ahead rest
  | '!' :: rest => opened .notAhead rest
  | '<' :: '=' :: rest => opened .behind rest
  | '<' :: '!' :: rest => opened .notBehind rest
  | '<' :: rest => takeNamed '>' rest reading
  | '\'' :: rest => takeNamed '\'' rest reading
  | 'P' :: rest => takeNameKind rest reading
  | '#' :: rest =>
    let comment := rest.takeWhile (· ≠ ')')
    if comment.length = rest.length then .error .unclosedComment
    else .ok (reading, rest.drop (comment.length + 1))
  | '^' :: rest => takeFlags true reading.flags.cleared rest reading
  | _ => takeFlags true reading.flags rest reading

/-- Takes a verb, behind the star. -/
def takeVerb (rest : List Char) (reading : Reading) : Step :=
  let name := rest.takeWhile Char.isAlpha
  let behind := rest.drop name.length
  if (name = "FAIL".toList || name = ['F']) && behind.head? = some ')' then
    .ok (reading.add (.notAhead .nothing) true, behind.drop 1)
  else if name.head?.any Char.isLower then .error .unknownAssertion
  else .error .unknownVerb

/-- Takes what begins with an opening parenthesis. -/
def takeOpening (rest : List Char) (reading : Reading) : Step :=
  match rest with
  | '?' :: rest => takeGroupKind rest reading
  | '*' :: letter :: more =>
    if letter.isAlpha then takeVerb (letter :: more) reading
    else .ok (reading.openNumbered, rest)
  | _ => .ok (reading.openNumbered, rest)

/-- Takes one sign. -/
def takeSign (char : Char) (rest : List Char) (reading : Reading) : Step :=
  match char with
  | '\\' =>
    match rest with
    | [] => .error .escapeAtEnd
    | char :: rest => takeEscaped char rest reading
  | '[' => takeBrackets rest reading
  | '(' => takeOpening rest reading
  | ')' => do
    let reading ← reading.closeGroup
    .ok (reading, rest)
  | '|' => .ok (reading.bar, rest)
  | '*' => takeTimes 0 none rest reading
  | '+' => takeTimes 1 none rest reading
  | '?' => takeTimes 0 (some 1) rest reading
  | '\x7b' => do
    match ← readBounds rest with
    | some (least, most?, rest) => takeTimes least most? rest reading
    | none => .ok (reading.literal '\x7b', rest)
  | '.' =>
    .ok (reading.addSet (if reading.flags.dotAll then ⟨[], true⟩ else lineFeed.complement), rest)
  | '^' =>
    .ok (reading.condition (if reading.flags.multiLine then .innerLineStart else .textStart), rest)
  | '$' =>
    .ok (reading.condition (if reading.flags.multiLine then .lineEnd else .textEnd), rest)
  | '#' =>
    if reading.flags.spaced then
      .ok (reading, rest.drop ((rest.takeWhile (· ≠ '\n')).length + 1))
    else .ok (reading.literal '#', rest)
  | _ =>
    if reading.flags.spaced && CharSet.space.contains char then .ok (reading, rest)
    else .ok (reading.literal char, rest)

/-- Takes sign after sign. -/
def takeSigns : Nat → List Char → Reading → Except Fault Reading
  | 0, _, reading => .ok reading
  | _, [], reading => if reading.outer.isEmpty then .ok reading else .error .unclosedGroup
  | fuel + 1, char :: rest, reading =>
    match takeSign char rest reading with
    | .error fault => .error fault
    | .ok (reading, rest) => takeSigns fuel rest reading

/-- Reads an expression. -/
def read (anyCase : Bool) (text : List Char) : Except Fault Regex := do
  let first ← takeSigns (text.length + 1) text (.fresh none anyCase)
  if first.looksBackFreely then .error .variableLookbehind
  else
    let known : Known := ⟨max first.opened first.group.mostOpened, first.names⟩
    let second ← takeSigns (text.length + 1) text (.fresh (some known) anyCase)
    .ok second.group.expression

end FixtureHarness.Regex.Perl
