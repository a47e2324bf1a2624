import FixtureHarness.Shell.Expansion.Field

/-! # Expansion of words

The pieces of a word become runs. What a piece becomes depends on whether it stands in quotes, on
whether the word is cut into fields, and on whether it is used at all.
-/

namespace FixtureHarness.Shell

/-- Runs a script and gives what it prints. -/
abbrev Capture := Option Command → Action Octets

/-- How a word is expanded. -/
structure Manner where
  /-- It is cut into fields, and signs of patterns count. -/
  full : Bool
  /-- A tilde at the beginning stands for a directory. -/
  tilde : Bool
  /-- A tilde behind an equals sign or a colon does so too. -/
  assigns : Bool
  /-- It is the word of a parameter, whose plain parts are cut too. -/
  inner : Bool
  quoted : Bool
  /-- Nothing of it is used. -/
  unused : Bool
  deriving DecidableEq, Repr

namespace Manner

/-- A word that becomes fields. -/
def fields : Manner := ⟨true, true, false, false, false, false⟩

/-- A word that stays one text. -/
def text : Manner := ⟨false, true, false, false, false, false⟩

/-- A word that assigns. -/
def assignment : Manner := ⟨false, false, true, false, false, false⟩

/-- A text that is treated as if it were in quotes. -/
def document : Manner := ⟨false, false, false, false, true, false⟩

end Manner

/-! ## Directories of users -/

/-- The home directories of the users. -/
def homes : List (String × String) :=
  [("root", "/root"), ("daemon", "/usr/sbin"), ("bin", "/bin"), ("sys", "/dev"),
    ("sync", "/bin"), ("games", "/usr/games"), ("man", "/var/cache/man"),
    ("lp", "/var/spool/lpd"), ("mail", "/var/mail"), ("news", "/var/spool/news"),
    ("uucp", "/var/spool/uucp"), ("proxy", "/bin"), ("www-data", "/var/www"),
    ("backup", "/var/backups"), ("list", "/var/list"), ("irc", "/run/ircd"),
    ("_apt", "/nonexistent"), ("nobody", "/nonexistent")]

/-- The name of a user behind a tilde, and what follows it. There is none if something was quoted or
is not known yet. -/
def userName? (assigns : Bool) : Word → Option (Octets × Word)
  | [] => some ([], [])
  | .char char false :: rest =>
    if char = '/' || (char = ':' && assigns) then some ([], .char char false :: rest)
    else (userName? assigns rest).map fun (name, rest) => (char :: name, rest)
  | _ => none

/-- The directory that a tilde and the pieces behind it stand for, and what follows it. -/
def homeBehindTilde? (session : Session) (assigns : Bool) (word : Word) :
    Option (Octets × Word) :=
  match userName? assigns word with
  | none => none
  | some ([], rest) => (session.value? "HOME".toList).map fun home => (home, rest)
  | some (name, rest) =>
    (homes.find? fun entry => entry.1.toList = name).map fun entry => (entry.2.toList, rest)

/-! ## Parameters -/

/-- The arguments as one text. The separator is NUL where each argument is to be a field. -/
def joinedArguments (session : Session) (manner : Manner) (isList : Bool) : Octets :=
  let separator? : Option Char :=
    if manner.full && (isList || !manner.quoted) then
      if manner.quoted || (session.value? "IFS".toList).isSome then some nul else some ' '
    else
      match session.value? "IFS".toList with
      | none => some ' '
      | some separators => separators.head?
  List.intercalate separator?.toList session.arguments

/-- The value of a parameter. -/
def parameterValue? (session : Session) (manner : Manner) (name : Octets) : Option Octets :=
  match name with
  | ['$'] => some (digits session.rootProcess)
  | ['?'] => some (digits session.status)
  | ['#'] => some (digits session.arguments.length)
  | ['!'] => session.background?.map digits
  | ['-'] => some (ShellOption.letters session.options)
  | ['@'] => some (joinedArguments session manner true)
  | ['*'] => some (joinedArguments session manner false)
  | first :: _ =>
    if first.isDigit then
      match numberOf name with
      | 0 => some session.name
      | number + 1 => session.arguments[number]?
    else session.value? name
  | [] => none

/-- The run of the value of a parameter. -/
def valueRun (session : Session) (manner : Manner) (name : Octets) (value : Octets) : Run :=
  let cut :=
    if !manner.quoted then Cut.atSeparators
    else if name = ['@'] && !session.arguments.isEmpty then .atNul
    else .never
  ⟨cut, Shard.ofText manner.quoted value⟩

/-- Breaks off because a parameter is not set. -/
def failUnset {Result : Type} (name text : Octets) : Action Result :=
  Action.fail (name ++ ':' :: ' ' :: text)

/-- The text about a parameter that is not set. -/
def unsetText : Octets := "parameter not set".toList

/-! ## Arithmetic -/

/-- The number that a variable stands for in arithmetic. -/
def variableNumber (session : Session) (name : Octets) : Except ArithmeticFault Int :=
  let text := (session.value? name).getD []
  let body := text.dropWhile isSpace
  let (sign, amount) : Int × Octets :=
    match body with
    | '-' :: rest => (-1, rest)
    | '+' :: rest => (1, rest)
    | _ => (1, body)
  if !amount.head?.any Char.isDigit then
    if body.isEmpty then .ok 0 else .error (.illegalNumber text)
  else
    let (number, rest) := Expression.readAmount amount
    let value := sign * number
    if !rest.all isSpace || value < -Int.pow 2 63 || Int.pow 2 63 ≤ value then
      .error (.illegalNumber text)
    else .ok value

/-- The value of an expression. -/
def arithmeticValue (text : Octets) : Action Int := do
  let session ← get
  match (Expression.read text).evaluate (variableNumber session) [] with
  | .error .tooLarge => Action.stop (.replaced (.signalled 8))
  | .error fault => Action.fail (Expression.faultText text fault)
  | .ok (value, assigned) =>
    assigned.reverse.forM fun entry => Action.assign entry.1 (toString entry.2).toList
    return value

/-! ## Pieces -/

/-- The characters at the beginning of a word that are not quoted, and what follows them. A tilde
that may stand for a directory is not among them. -/
def plainStart (assigns : Bool) : Word → Octets × Word
  | .char char false :: rest =>
    if assigns && (char = '=' || char = ':') && (match rest with
        | .char '~' false :: _ => true
        | _ => false) then ([char], rest)
    else
      let (more, rest) := plainStart assigns rest
      (char :: more, rest)
  | word => ([], word)

/-- A text without the line ends at its end. -/
def dropLineEnds (text : Octets) : Octets :=
  (text.reverse.dropWhile (· = '\n')).reverse

/-- A bound on the depth and the length of words. -/
def wordBound : Nat := 10000000

mutual

/-- Expands pieces, which may stand in quotes. -/
def expandPieces (capture : Capture) : Nat → Manner → Bool → Word → Action (List Run)
  | 0, _, _, _ => return []
  | fuel + 1, manner, inQuotes, word => do
    let quoted := manner.quoted || inQuotes
    let behind := { manner with tilde := false }
    match word with
    | [] => return []
    | .char '~' false :: rest =>
      let session ← get
      let home? := if manner.tilde then homeBehindTilde? session manner.assigns rest else none
      match home? with
      | some (home, rest) =>
        let more ← expandPieces capture fuel behind inQuotes rest
        return Run.whole (Shard.ofText true home) :: more
      | none => expandPlain capture fuel behind inQuotes word
    | .char _ false :: _ => expandPlain capture fuel behind inQuotes word
    | .char char true :: rest =>
      let more ← expandPieces capture fuel behind inQuotes rest
      return if manner.unused then more else Run.whole [.letter char true] :: more
    | .quote :: .parameter ['@'] .value :: .quote :: rest =>
      if inQuotes then
        let more ← expandPieces capture fuel behind false (word.drop 1)
        return if manner.unused then more else Run.whole [.mark] :: more
      else
        let first ← expandParameter capture fuel { behind with quoted := true } ['@'] .value
        let more ← expandPieces capture fuel behind false rest
        return first ++ more
    | .quote :: rest =>
      let more ← expandPieces capture fuel behind (!inQuotes) rest
      return if manner.unused then more else Run.whole [.mark] :: more
    | .parameter name use :: rest =>
      let first ← expandParameter capture fuel { behind with quoted := quoted } name use
      let more ← expandPieces capture fuel behind inQuotes rest
      return first ++ more
    | .output script? :: rest =>
      if manner.unused then expandPieces capture fuel behind inQuotes rest
      else
        let output ← capture script?
        let text := dropLineEnds (output.filter (· ≠ nul))
        let first : Run :=
          ⟨if quoted then .never else .atSeparators, Shard.ofText quoted text⟩
        let more ← expandPieces capture fuel behind inQuotes rest
        return first :: more
    | .arithmetic expression :: rest =>
      let inner : Manner := ⟨false, false, false, false, false, manner.unused⟩
      let runs ← expandPieces capture fuel inner false expression
      if manner.unused then expandPieces capture fuel behind inQuotes rest
      else
        let value ← arithmeticValue (Run.text runs)
        let first : Run :=
          ⟨if quoted then .never else .atSeparators,
            Shard.ofText quoted (toString value).toList⟩
        let more ← expandPieces capture fuel behind inQuotes rest
        return first :: more

/-- Expands pieces that begin with characters that are not quoted. -/
def expandPlain (capture : Capture) : Nat → Manner → Bool → Word → Action (List Run)
  | 0, _, _, _ => return []
  | fuel + 1, manner, inQuotes, word => do
    let (text, rest) := plainStart manner.assigns word
    let tilde := text.getLast?.any fun char => manner.assigns && (char = '=' || char = ':')
    let more ← expandPieces capture fuel { manner with tilde := tilde } inQuotes rest
    let cut :=
      if manner.inner && !manner.quoted && !inQuotes then Cut.atSeparators else .never
    return if manner.unused then more else ⟨cut, Shard.ofText false text⟩ :: more

/-- Expands a parameter. -/
def expandParameter (capture : Capture) : Nat → Manner → Octets → Use → Action (List Run)
  | 0, _, _, _ => return []
  | fuel + 1, manner, name, use => do
    let session ← get
    let held? := parameterValue? session manner name
    let value : Action (List Run) := do
      let session ← get
      match parameterValue? session manner name with
      | some value => return if manner.unused then [] else [valueRun session manner name value]
      | none => return []
    let checked : Action Unit := do
      if held?.isNone && !manner.unused && session.has .nounset then failUnset name unsetText
    match use with
    | .invalid word =>
      if manner.unused then expandPieces capture fuel manner false word
      else Action.fail "Bad substitution".toList
    | .value =>
      checked
      value
    | .size =>
      checked
      if manner.unused then return []
      else
        let size := digits (held?.getD []).length
        return [valueRun session { manner with full := false } [] size]
    | .fallback kind emptyToo word =>
      let isMissing :=
        match held? with
        | none => true
        | some value => emptyToo && value.isEmpty
      let inner (isUsed : Bool) : Manner :=
        { manner with tilde := true, inner := true, unused := manner.unused || !isUsed }
      let alone (isUsed : Bool) : Manner :=
        ⟨false, true, false, false, false, manner.unused || !isUsed⟩
      match kind with
      | .useWord =>
        let runs ← expandPieces capture fuel (inner isMissing) false word
        if isMissing then return runs else value
      | .useWordIfSet => expandPieces capture fuel (inner (!isMissing)) false word
      | .assignWord =>
        let runs ← expandPieces capture fuel (alone isMissing) false word
        if isMissing && !manner.unused then Action.assign name (Run.text runs)
        value
      | .fail =>
        let runs ← expandPieces capture fuel (alone isMissing) false word
        if isMissing && !manner.unused then
          let usual := if emptyToo then unsetText ++ " or null".toList else unsetText
          failUnset name (if word.isEmpty then usual else Run.text runs)
        else value
    | .trim kind pattern =>
      checked
      let isUsed := held?.isSome && !manner.unused
      let inner : Manner := ⟨false, true, false, false, false, !isUsed⟩
      let runs ← expandPieces capture fuel inner false pattern
      if !isUsed then return []
      else
        let glyphs := Pattern.ofGlyphs (Shard.glyphs (Run.shardsOf runs))
        return [valueRun session manner name (glyphs.trim kind (held?.getD []))]

end

/-! ## Words -/

/-- Expands a word to shards that are not cut. -/
def expandShards (capture : Capture) (manner : Manner) (word : Word) : Action (List Shard) := do
  let runs ← expandPieces capture wordBound manner false word
  return Run.shardsOf runs

/-- Expands a word that stays one text. -/
def expandText (capture : Capture) (manner : Manner) (word : Word) : Action Octets := do
  let shards ← expandShards capture manner word
  return Shard.text shards

/-- Expands a word that is used as a pattern. -/
def expandPattern (capture : Capture) (word : Word) : Action Pattern := do
  let shards ← expandShards capture .text word
  return Pattern.ofGlyphs (Shard.glyphs shards)

/-- Expands a word to fields. -/
def expandFields (capture : Capture) (word : Word) : Action (List Octets) := do
  let runs ← expandPieces capture wordBound .fields false word
  let session ← get
  let expands := !session.has .noglob
  return (fieldsOf session.separators none runs).flatMap (expandField session.machine.files expands)

end FixtureHarness.Shell
