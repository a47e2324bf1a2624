import FixtureHarness.Shell.Reader.Token

/-! # Reading words

A word is read character by character. What a character means depends on the quotes and on the
substitutions that are open around it, which a stack of frames remembers. A document is read as one
word whose end is a line of its own.
-/

namespace FixtureHarness.Shell

/-- How characters are taken. -/
inductive Style where
  | plain
  | doubleQuoted
  | singleQuoted
  | arithmetic
  deriving DecidableEq, Repr

/-- What a character does in a word. -/
inductive CharRole where
  | ordinary
  /-- Stands for itself wherever it is quoted. -/
  | sign
  | newline
  | backslash
  | openSingle
  | openDouble
  | closeQuote
  | dollar
  | brace
  | opening
  | closing
  | backquote
  /-- Ends a plain word. -/
  | operator
  | textEnd
  deriving DecidableEq, Repr

/-- The role of a character. -/
def Style.role (style : Style) : Option Char → CharRole
  | none => .textEnd
  | some '\n' => .newline
  | some char =>
    match style with
    | .plain =>
      match char with
      | '\\' => .backslash
      | '\'' => .openSingle
      | '"' => .openDouble
      | '`' => .backquote
      | '$' => .dollar
      | '\x7d' => .brace
      | '<' | '>' | '(' | ')' | ';' | '&' | '|' | ' ' | '\t' => .operator
      | _ => .ordinary
    | .doubleQuoted =>
      match char with
      | '\\' => .backslash
      | '"' => .closeQuote
      | '`' => .backquote
      | '$' => .dollar
      | '\x7d' => .brace
      | _ => .sign
    | .singleQuoted => if char = '\'' then .closeQuote else .sign
    | .arithmetic =>
      match char with
      | '\\' => .backslash
      | '`' => .backquote
      | '$' => .dollar
      | '\x7d' => .brace
      | '(' => .opening
      | ')' => .closing
      | _ => .ordinary

/-- What is open around a character. -/
structure Frame where
  style : Style
  /-- Whether characters are as in double quotes. -/
  doubled : Bool
  /-- How many substitutions are open. -/
  nesting : Nat
  /-- How many of them were opened in double quotes. -/
  doubledNesting : Nat
  /-- Whether double quotes are open inside a substitution. -/
  innerDouble : Bool
  /-- Whether the frame ends with its last substitution. -/
  pushed : Bool
  /-- How many parentheses are open in an arithmetic expression. -/
  level : Nat
  deriving DecidableEq, Repr

/-- A frame in which nothing is open. -/
def Frame.ofStyle (style : Style) (doubled pushed : Bool) : Frame :=
  ⟨style, doubled, 0, 0, false, pushed, 0⟩

/-- A substitution that is open, with the pieces before it. The last piece comes first. -/
inductive OpenPiece where
  | parameter (name : Octets) (use : Word → Use) (before : Word)
  | arithmetic (before : Word)

/-- A word that is being read. -/
structure Draft where
  frame : Frame
  outer : List Frame
  /-- The pieces that were read, the last first. -/
  pieces : Word
  openPieces : List OpenPiece
  /-- Whether something was quoted. -/
  quoted : Bool

namespace Draft

/-- A word of which nothing was read. -/
def ofStyle (style : Style) : Draft :=
  ⟨Frame.ofStyle style (style = .doubleQuoted) false, [], [], [], false⟩

/-- A word with one more piece. -/
def push (draft : Draft) (piece : Piece) : Draft :=
  { draft with pieces := piece :: draft.pieces }

/-- A word with one more character. -/
def pushChar (draft : Draft) (char : Char) : Draft :=
  draft.push (.char char (draft.frame.style ≠ .plain))

/-- Opens a frame. -/
def pushFrame (draft : Draft) (frame : Frame) : Draft :=
  { draft with frame := frame, outer := draft.frame :: draft.outer }

/-- Closes a frame. -/
def popFrame (draft : Draft) : Draft :=
  match draft.outer with
  | [] => draft
  | frame :: outer => { draft with frame := frame, outer := outer }

/-- Opens a substitution. -/
def openPiece (draft : Draft) (piece : OpenPiece) : Draft :=
  { draft with pieces := [], openPieces := piece :: draft.openPieces }

/-- Closes the innermost substitution. -/
def closePiece (draft : Draft) : Draft :=
  match draft.openPieces with
  | [] => draft
  | .parameter name use before :: outer =>
    { draft with
      pieces := .parameter name (use draft.pieces.reverse) :: before, openPieces := outer }
  | .arithmetic before :: outer =>
    { draft with
      pieces := .arithmetic draft.pieces.reverse :: before, openPieces := outer }

/-- Takes double quotes that open or close a part. -/
def toggleDouble (draft : Draft) : Draft :=
  if draft.frame.nesting = 0 then draft
  else { draft with frame := { draft.frame with innerDouble := !draft.frame.innerDouble } }

/-- Takes a brace, which closes a substitution if one is open. -/
def brace (draft : Draft) : Draft :=
  let frame := draft.frame
  if frame.innerDouble || frame.nesting = 0 then draft.pushChar '\x7d'
  else
    let nesting := frame.nesting - 1
    let draft := draft.closePiece
    if nesting = 0 && frame.pushed then draft.popFrame
    else
      { draft with
        frame := { frame with nesting := nesting, doubledNesting := frame.doubledNesting - 1 } }

/-- Opens the substitution of a parameter whose use needs a word. The word of a pattern is read as if
no quotes were open. -/
def openParameter (draft : Draft) (name : Octets) (use : Word → Use) (isPattern : Bool) : Draft :=
  let style :=
    if isPattern then .plain
    else if draft.frame.style = .arithmetic then .doubleQuoted
    else draft.frame.style
  let draft :=
    if style ≠ draft.frame.style || draft.frame.innerDouble then
      draft.pushFrame (Frame.ofStyle style (style ≠ .plain) true)
    else draft
  let frame := draft.frame
  let draft :=
    { draft with
      frame := { frame with
        nesting := frame.nesting + 1
        doubledNesting := frame.doubledNesting + if frame.doubled then 1 else 0 } }
  draft.openPiece (.parameter name use draft.pieces)

end Draft

/-- How far a text reaches that is read as one word. -/
inductive Reach where
  /-- To the end of a word. -/
  | word
  /-- To the end of the source, as if it were in double quotes. -/
  | source
  /-- To a line that is a mark. Tabs at the beginnings of lines are stripped on demand. -/
  | document (mark : Octets) (stripsTabs : Bool)
  deriving DecidableEq, Repr

/-- Reads what a substitution runs. A parenthesis closes it, or else the end of the text. -/
abbrev ScriptReader := Bool → Reader (Option Command)

/-- A bound on how many characters are read. -/
def readingBound : Nat := 100000000

namespace Reader

/-! ## Looking ahead -/

/-- The next character behind joined lines, which is not taken. -/
def peekJoined : Reader (Option Char) := do
  let before ← source
  let char? ← takeJoined
  restore before
  return char?

/-- Takes characters behind joined lines as long as they belong together. -/
def takeWhile (belongs : Char → Bool) : Nat → Reader Octets
  | 0 => return []
  | fuel + 1 => do
    let before ← source
    match ← takeJoined with
    | some char =>
      if belongs char then
        let rest ← takeWhile belongs fuel
        return char :: rest
      else
        restore before
        return []
    | none =>
      restore before
      return []

/-! ## Substitutions of parameters -/

/-- The name of a parameter in braces, and whether its size is wanted. There is none if the name is
wrong. -/
def parameterName : Reader (Option (Octets × Bool)) := do
  let named (first : Char) : Reader Octets := do
    if startsName first then
      let rest ← takeWhile inName readingBound
      return first :: rest
    else
      let rest ← takeWhile Char.isDigit readingBound
      return first :: rest
  let before ← source
  match ← takeJoined with
  | none =>
    restore before
    return none
  | some '\x7d' =>
    restore before
    return none
  | some '#' =>
    let behind ← source
    let first? ← takeJoined
    match first? with
    | none =>
      return some (['#'], false)
    | some first =>
      if inName first then
        let name ← named first
        return some (name, true)
      else
        let closes ← peekJoined
        if first ≠ '\x7d' && closes = some '\x7d' then
          if isSpecialName first then return some ([first], true)
          else return none
        else
          restore behind
          return some (['#'], false)
  | some first =>
    if startsName first || first.isDigit then
      let name ← named first
      return some (name, false)
    else if isSpecialName first then return some ([first], false)
    else return none

/-- What stands behind the name of a parameter in braces. -/
inductive ParameterUse where
  /-- The parameter ends. -/
  | plain
  | withWord (use : Word → Use) (isPattern : Bool)

/-- Reads how a parameter in braces is used. -/
def parameterUse (isSize : Bool) : Reader ParameterUse := do
  if isSize then
    let next? ← peekJoined
    if next? = some '\x7d' then return .withWord (fun _ => .size) false
    else return .withWord .invalid false
  else
    let before ← source
    let fallback (emptyToo : Bool) (char? : Option Char) : ParameterUse :=
      match char? with
      | some '-' => .withWord (.fallback .useWord emptyToo) false
      | some '+' => .withWord (.fallback .useWordIfSet emptyToo) false
      | some '=' => .withWord (.fallback .assignWord emptyToo) false
      | some '?' => .withWord (.fallback .fail emptyToo) false
      | some '\x7d' => if emptyToo then .withWord (fun _ => .value) false else .plain
      | _ => .withWord .invalid false
    match ← takeJoined with
    | none =>
      restore before
      return .withWord .invalid false
    | some ':' =>
      let char? ← takeJoined
      return fallback true char?
    | some '%' =>
      let isLongest ← takeIf '%'
      return .withWord (.trim (if isLongest then .longestEnd else .shortestEnd)) true
    | some '#' =>
      let isLongest ← takeIf '#'
      return .withWord (.trim (if isLongest then .longestStart else .shortestStart)) true
    | char? => return fallback false char?

/-- Reads a substitution behind a dollar sign. -/
def substitution (inner : ScriptReader) (draft : Draft) : Reader Draft := do
  let reading ← get
  let before ← source
  let next? ← takeJoined
  let alone : Reader Draft := do
    restore before
    return draft.pushChar '$'
  if reading.attention.mark then alone
  else
    match next? with
    | none => alone
    | some '(' =>
      let isArithmetic ← takeIf '('
      if isArithmetic then
        return (draft.openPiece (.arithmetic draft.pieces)).pushFrame
          (Frame.ofStyle .arithmetic true false)
      else
        let script? ← inner true
        return draft.push (.output script?)
    | some '\x7b' =>
      match ← parameterName with
      | none => return draft.openParameter [] .invalid false
      | some (name, isSize) =>
        match ← parameterUse isSize with
        | .plain => return draft.push (.parameter name .value)
        | .withWord use isPattern => return draft.openParameter name use isPattern
    | some char =>
      if startsName char then
        let rest ← takeWhile inName readingBound
        return draft.push (.parameter (char :: rest) .value)
      else if isSpecialName char then return draft.push (.parameter [char] .value)
      else alone

/-! ## Backquotes -/

/-- Reads the text between backquotes, where a backslash quotes some characters. -/
def backquoted (doubled : Bool) : Nat → Reader Octets
  | 0 => refuse .unterminatedBackquote
  | fuel + 1 => do
    match ← takeJoined with
    | none => refuse .unterminatedBackquote
    | some '`' => return []
    | some '\\' =>
      match ← takeRaw with
      | none => refuse .unterminatedBackquote
      | some char =>
        let rest ← backquoted doubled fuel
        let isEscape := ['\\', '`', '$'].contains char || (doubled && char = '"')
        return if isEscape then char :: rest else '\\' :: char :: rest
    | some '\n' =>
      nextLine
      let rest ← backquoted doubled fuel
      return '\n' :: rest
    | some char =>
      let rest ← backquoted doubled fuel
      return char :: rest

/-- Reads the script between backquotes. -/
def backquotedScript (inner : ScriptReader) (doubled : Bool) : Reader (Option Command) := do
  let text ← backquoted doubled readingBound
  let outside ← get
  set { outside with
    source := Source.ofText text, pending := [], attention := .none }
  let script? ← inner false
  modify fun inside =>
    { inside with source := outside.source, pending := outside.pending, again := false }
  return script?

/-! ## Words and documents -/

/-- Skips joined lines; the fuel bounds their number. -/
def skipJoinedLines : Nat → Reader Unit
  | 0 => return ()
  | fuel + 1 => do
    let before ← source
    if (← takeRaw) = some '\\' then
      if (← takeRaw) = some '\n' then
        nextLine
        skipJoinedLines fuel
      else restore before
    else restore before

/-- Skips tabs; the fuel bounds their number. -/
def skipTabs : Nat → Reader Unit
  | 0 => return ()
  | fuel + 1 => do
    let before ← source
    if (← takeRaw) = some '\t' then skipTabs fuel else restore before

/-- Takes a mark and the end of its line. -/
def takeMark : Octets → Reader Bool
  | [] => do
    let last? ← takeRaw
    return last? = none || last? = some '\n'
  | char :: rest => do
    if (← takeRaw) = some char then takeMark rest else return false

/-- Takes the line that ends a text if the next line does. -/
def takeEnd : Reach → Reader Bool
  | .word => return false
  | .source => return false
  | .document mark stripsTabs => do
    if stripsTabs then skipTabs readingBound
    let before ← source
    if ← takeMark mark then
      nextLine
      return true
    else
      restore before
      return false

/-- Takes the next character of a word. -/
def takeIn (style : Style) : Reader (Option Char) :=
  if style = .singleQuoted then takeRaw else takeJoined

/-- A word as far as it was read, with the place before the character that ends it. -/
structure WordEnd where
  draft : Draft
  char? : Option Char
  before : Source

/-- Takes a backslash and the character behind it. -/
def escape (isDocument : Bool) (draft : Draft) : Reader Draft := do
  let before ← source
  match ← takeRaw with
  | none =>
    restore before
    return draft.push (.char '\\' true)
  | some char =>
    let frame := draft.frame
    let isEscape :=
      !frame.doubled || ['\\', '`', '$'].contains char ||
        (char = '"' && !(isDocument && frame.nesting = 0)) ||
        (char = '\x7d' && frame.nesting ≠ 0)
    let draft := if isEscape then draft else draft.push (.char '\\' true)
    return { draft.push (.char char true) with quoted := true }

/-- Takes the end of a part in quotes. -/
def closeQuote (isDocument : Bool) (char : Char) (draft : Draft) : Draft :=
  if isDocument && draft.frame.nesting = 0 then draft.pushChar char
  else
    let frame := draft.frame
    let frame :=
      if frame.doubledNesting = 0 then { frame with style := .plain, doubled := false } else frame
    let draft := { draft with frame := frame, quoted := true }
    let draft := if char = '"' then draft.toggleDouble else draft
    if isDocument then draft else draft.push .quote

/-- Takes the beginning of a part in quotes. -/
def openQuote (isDocument : Bool) (style : Style) (draft : Draft) : Draft :=
  let frame := draft.frame
  let draft :=
    if style = .doubleQuoted then
      { draft with frame := { frame with style := style, doubled := true } }.toggleDouble
    else { draft with frame := { frame with style := style } }
  if isDocument then draft else draft.push .quote

/-- Reads a text from a character on that was taken behind a place. -/
def pieces (inner : ScriptReader) (reach : Reach) :
    Nat → Source → Option Char → Draft → Reader WordEnd
  | 0, before, char?, draft => return ⟨draft, char?, before⟩
  | fuel + 1, before, char?, draft => do
    let isDocument := reach ≠ .word
    let goOn (draft : Draft) : Reader WordEnd := do
      let before ← source
      let char? ← takeIn draft.frame.style
      pieces inner reach fuel before char? draft
    let frame := draft.frame
    match frame.style.role char?, char? with
    | .newline, _ =>
      if frame.style = .plain && frame.nesting = 0 then return ⟨draft, char?, before⟩
      else
        nextLine
        let draft := draft.pushChar '\n'
        if frame.style ≠ .singleQuoted then skipJoinedLines readingBound
        let ends ← takeEnd reach
        let before ← source
        if ends then return ⟨draft, none, before⟩
        else
          let char? ← takeRaw
          pieces inner reach fuel before char? draft
    | .ordinary, some char => goOn (draft.push (.char char false))
    | .sign, some char => goOn (draft.push (.char char true))
    | .backslash, _ =>
      let draft ← escape isDocument draft
      goOn draft
    | .openSingle, _ => goOn (openQuote isDocument .singleQuoted draft)
    | .openDouble, _ => goOn (openQuote isDocument .doubleQuoted draft)
    | .closeQuote, some char => goOn (closeQuote isDocument char draft)
    | .dollar, _ =>
      let draft ← substitution inner draft
      goOn draft
    | .brace, _ => goOn draft.brace
    | .opening, some char =>
      goOn { draft.push (.char char false) with frame := { frame with level := frame.level + 1 } }
    | .closing, some char =>
      if frame.level ≠ 0 then
        goOn { draft.push (.char char false) with frame := { frame with level := frame.level - 1 } }
      else
        if ← takeIf ')' then goOn draft.closePiece.popFrame
        else goOn (draft.push (.char char false))
    | .backquote, _ =>
      let reading ← get
      if reading.attention.mark then
        goOn { draft.push (.char '`' false) with quoted := true }
      else
        let script? ← backquotedScript inner frame.doubled
        goOn (draft.push (.output script?))
    | .operator, some char =>
      if frame.nesting = 0 then return ⟨draft, char?, before⟩
      else goOn (draft.push (.char char false))
    | _, _ => return ⟨draft, char?, before⟩

/-- Refuses a word in which something is still open. -/
def checkClosed (isDocument : Bool) (draft : Draft) : Reader Unit := do
  let frame := draft.frame
  if frame.style = .arithmetic then refuse .missingParentheses
  if frame.style ≠ .plain && !isDocument then refuse .unterminatedQuote
  if frame.nesting ≠ 0 then refuse .missingBrace

/-- Reads the operator of a redirection behind its first character. -/
def redirection (descriptor? : Option Nat) (char : Char) : Reader Unit := do
  let finish (usual : Nat) (direction : Direction) (stripsTabs : Bool) : Reader Unit :=
    modify fun reading =>
      { reading with
        last := .redirection
        descriptor := descriptor?.getD usual
        direction := direction
        stripsTabs := stripsTabs }
  if char = '>' then
    if ← takeIf '>' then finish 1 .append false
    else if ← takeIf '|' then finish 1 .overwrite false
    else if ← takeIf '&' then finish 1 .duplicate false
    else finish 1 .write false
  else
    if ← takeIf '<' then
      let stripsTabs ← takeIf '-'
      finish 0 (.document 0 true) stripsTabs
    else if ← takeIf '&' then finish 0 .duplicate false
    else if ← takeIf '>' then finish 0 .readWrite false
    else finish 0 .read false

/-- Reads a word or a redirection from a character on that was taken behind a place. -/
def wordOrRedirection (inner : ScriptReader) (before : Source) (char? : Option Char) :
    Reader Unit := do
  let reached ← pieces inner .word readingBound before char? (Draft.ofStyle .plain)
  checkClosed false reached.draft
  let word := reached.draft.pieces.reverse
  let descriptor? : Option (Option Nat) :=
    match word with
    | [] => some none
    | [.char digit false] =>
      if digit.isDigit then some (some (digit.toNat - '0'.toNat)) else none
    | _ => none
  match reached.draft.quoted, reached.char?, descriptor? with
  | false, some '>', some descriptor? => redirection descriptor? '>'
  | false, some '<', some descriptor? => redirection descriptor? '<'
  | _, _, _ =>
    restore reached.before
    modify fun reading =>
      { reading with last := .word, word := word, quoted := reached.draft.quoted }

/-- Reads a whole text as one word. -/
def wholeText (inner : ScriptReader) (reach : Reach) (style : Style) : Reader Word := do
  if style ≠ .singleQuoted then skipJoinedLines readingBound
  let draft := Draft.ofStyle style
  if ← takeEnd reach then return []
  else
    let before ← source
    let char? ← takeRaw
    let reached ← pieces inner reach readingBound before char? draft
    checkClosed true reached.draft
    return reached.draft.pieces.reverse

end Reader

end FixtureHarness.Shell
