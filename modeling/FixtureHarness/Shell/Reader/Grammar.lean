import FixtureHarness.Shell.Reader.Word

/-! # The grammar of scripts

A script is read line by line: a line is a list of commands up to a line end outside of them. Lists
join pipelines, which join commands. What is inside a command is read by a reader for commands one
level deeper, so that reading ends.
-/

namespace FixtureHarness.Shell

/-- Where a list of commands stands. -/
inductive ListPlace where
  /-- It is a line of a script. -/
  | line
  /-- It is the inside of a command and has at least one command. -/
  | body
  /-- It may be empty. -/
  | optional
  deriving DecidableEq, Repr

/-- What was read for a line. -/
inductive Line where
  | command (command? : Option Command)
  /-- The text has ended. -/
  | textEnd

/-- The builtins whose names no function can have. -/
def specialNames : List String :=
  [".", ":", "break", "continue", "eval", "exec", "exit", "export", "local", "readonly", "return",
    "set", "shift", "times", "trap", "unset"]

namespace Reader

/-- The characters of a word. -/
def charsOf (word : Word) : Octets :=
  word.filterMap fun
    | .char char _ => some char
    | _ => none

/-! ## Documents -/

/-- Reads the text of a document. -/
def document (inner : ScriptReader) (pending : PendingDocument) : Reader Unit := do
  let style := if pending.expands then Style.doubleQuoted else .singleQuoted
  let text ← wholeText inner (.document pending.mark pending.stripsTabs) style
  modify fun reading =>
    { reading with documents := reading.documents.set! pending.number text }

/-- Reads the documents that are due. -/
def documents (inner : ScriptReader) : Reader Unit := do
  let reading ← get
  set { reading with pending := [] }
  reading.pending.forM (document inner)

/-! ## Tokens -/

/-- Sets the last token. -/
def found (token : Token) : Reader Token := do
  modify fun reading => { reading with last := token }
  return token

/-- Skips the rest of a line. -/
def skipComment : Nat → Reader Unit
  | 0 => return ()
  | fuel + 1 => do
    let before ← source
    match ← takeRaw with
    | none => restore before
    | some '\n' => restore before
    | some _ => skipComment fuel

/-- Takes a token from the source. -/
def scan (inner : ScriptReader) : Nat → Reader Token
  | 0 => found .textEnd
  | fuel + 1 => do
    let before ← source
    match ← takeJoined with
    | none => found .textEnd
    | some ' ' => scan inner fuel
    | some '\t' => scan inner fuel
    | some '#' =>
      skipComment readingBound
      scan inner fuel
    | some '\n' =>
      nextLine
      found .newline
    | some '&' => if ← takeIf '&' then found .both else found .ampersand
    | some '|' => if ← takeIf '|' then found .either else found .bar
    | some ';' => if ← takeIf ';' then found .doubleSemicolon else found .semicolon
    | some '(' => found .opening
    | some ')' => found .closing
    | char? =>
      wordOrRedirection inner before char?
      let reading ← get
      return reading.last

/-- Takes the next token, which may be the last one again. -/
def nextToken (inner : ScriptReader) : Reader Token := do
  let reading ← get
  if reading.again then
    set { reading with again := false }
    return reading.last
  else scan inner readingBound

/-- Skips line ends behind a token, which the documents that are due follow. -/
def skipNewlines (inner : ScriptReader) : Nat → Token → Reader Token
  | 0, token => return token
  | fuel + 1, token => do
    if token = .newline then
      documents inner
      attend .none
      let token ← nextToken inner
      skipNewlines inner fuel token
    else return token

/-- Takes the next token as the attention says. -/
def attentive (inner : ScriptReader) (attention : Attention) : Nat → Reader Token
  | 0 => found .textEnd
  | fuel + 1 => do
    let token ← nextToken inner
    let token ← if attention.newlines then skipNewlines inner readingBound token else pure token
    let reading ← get
    let attention :=
      { attention with aliases := attention.aliases || reading.source.aliasNext }
    set { reading with
      attention := .none, source := { reading.source with aliasNext := false } }
    if token ≠ .word || reading.quoted then return token
    else
      match plainText? reading.word with
      | none => return token
      | some text =>
        let keyword? := if attention.keywords then Keyword.ofText? text else none
        match keyword? with
        | some keyword => found (.keyword keyword)
        | none =>
          if !attention.aliases || reading.source.isUsing text then return token
          else
            match reading.aliases.find? fun entry => entry.1 = text with
            | none => return token
            | some (name, value) =>
              if !value.isEmpty then
                modify fun reading =>
                  { reading with source := reading.source.push name value }
              attentive inner attention fuel

/-- Takes the next token. -/
def token (inner : ScriptReader) : Reader Token := do
  let reading ← get
  attentive inner reading.attention readingBound

/-- Takes the next token, which has to be a given one. -/
def expect (inner : ScriptReader) (expected : Token) : Reader Unit := do
  let found ← token inner
  if found ≠ expected then expecting expected

/-- The last word. -/
def lastWord : Reader Word := do
  let reading ← get
  return reading.word

/-! ## Redirections -/

/-- Reads the target of the redirection that was just read. -/
def target (inner : ScriptReader) : Reader Redirection := do
  let reading ← get
  let descriptor := reading.descriptor
  let direction := reading.direction
  let stripsTabs := reading.stripsTabs
  match direction with
  | .document _ _ =>
    attend .documentMark
    let found ← token inner
    if found ≠ .word then unexpected
    let reading ← get
    let number := reading.documents.size
    let expands := !reading.quoted
    let due : PendingDocument := ⟨number, charsOf reading.word, expands, stripsTabs⟩
    set { reading with
      documents := reading.documents.push [], pending := reading.pending ++ [due] }
    return .mk descriptor (.document number expands) []
  | _ =>
    let found ← token inner
    if found ≠ .word then unexpected
    let word ← lastWord
    return .mk descriptor direction word

/-- Reads the redirections behind a command. -/
def redirections (inner : ScriptReader) : Nat → Reader (List Redirection)
  | 0 => return []
  | fuel + 1 => do
    let found ← token inner
    if found = .redirection then
      let first ← target inner
      let rest ← redirections inner fuel
      return first :: rest
    else
      pushBack
      return []

/-! ## Pipelines and lists -/

/-- How an item of a list goes into the background. -/
def inBackground : Command → Command
  | .pipeline _ stages => .pipeline true stages
  | .redirected line body redirections => .background line body redirections
  | .subshell line body redirections => .background line (.subshell line body redirections) []
  | command => .background 0 command []

/-- Reads the other stages of a pipeline. -/
def stages (inner : ScriptReader) (command : Reader Command) : Nat → Reader (List Command)
  | 0 => return []
  | fuel + 1 => do
    attend .commandAfterLines
    let stage ← command
    let found ← token inner
    if found = .bar then
      let rest ← stages inner command fuel
      return stage :: rest
    else return [stage]

/-- Reads a pipeline. -/
def pipeline (inner : ScriptReader) (command : Reader Command) : Reader Command := do
  let first ← token inner
  let negates := first = .keyword .not
  if negates then attend .command else pushBack
  let stage ← command
  let found ← token inner
  let body ←
    if found = .bar then
      let rest ← stages inner command readingBound
      pure (Command.pipeline false (stage :: rest))
    else pure stage
  pushBack
  return if negates then .negation body else body

/-- Joins pipelines to a first one. -/
def joined (inner : ScriptReader) (command : Reader Command) (first : Command) :
    Nat → Reader Command
  | 0 => return first
  | fuel + 1 => do
    let found ← token inner
    if found = .both then
      attend .commandAfterLines
      let second ← pipeline inner command
      joined inner command (.both first second) fuel
    else if found = .either then
      attend .commandAfterLines
      let second ← pipeline inner command
      joined inner command (.either first second) fuel
    else
      pushBack
      return first

/-- Reads the rest of a list behind the commands that were read. -/
def listFrom (inner : ScriptReader) (command : Reader Command) (place : ListPlace) :
    Nat → Bool → Option Command → Reader Line
  | 0, _, before? => return .command before?
  | fuel + 1, endsAtMark, before? => do
    let ended : Reader Line := do
      documents inner
      pushBack
      modify fun reading => { reading with last := .textEnd }
      return if before?.isNone && place = .line then .textEnd else .command before?
    attend (if place = .line then .command else .commandAfterLines)
    let first ← token inner
    if first = .newline then
      documents inner
      return .command before?
    else if first = .textEnd then ended
    else
      pushBack
      if endsAtMark && first.endsList then return .command before?
      else
        let item ← pipeline inner command
        let item ← joined inner command item readingBound
        let found ← token inner
        let item := if found = .ampersand then inBackground item else item
        let all :=
          match before? with
          | none => item
          | some before => .sequence before item
        let endsAtMark := place ≠ .line
        match found with
        | .newline | .textEnd =>
          pushBack
          listFrom inner command place fuel endsAtMark (some all)
        | .ampersand | .semicolon => listFrom inner command place fuel endsAtMark (some all)
        | _ =>
          if place = .line then unexpected
          else
            pushBack
            return .command (some all)

/-- Reads a list of commands. -/
def list (inner : ScriptReader) (command : Reader Command) (place : ListPlace) :
    Reader (Option Command) := do
  match ← listFrom inner command place readingBound (place = .optional) none with
  | .command command? => return command?
  | .textEnd => return none

/-- Reads the inside of a command. -/
def body (inner : ScriptReader) (command : Reader Command) : Reader Command := do
  let command? ← list inner command .body
  return command?.getD (.simple 0 [] [] [])

/-- Reads a script up to its end, which may be a parenthesis. -/
def substituted (inner : ScriptReader) (command : Reader Command) : ScriptReader := fun closes => do
  let outside ← get
  set { outside with pending := [], attention := .none }
  let script? ← list inner command .optional
  if closes then expect inner .closing
  let behind ← source
  restore { behind with rest := [], levels := [] }
  documents inner
  restore behind
  modify fun reading =>
    { reading with pending := outside.pending, attention := outside.attention }
  return script?

/-! ## Commands -/

/-- Reads the words behind `in`. -/
def words (inner : ScriptReader) : Nat → Reader (List Word)
  | 0 => return []
  | fuel + 1 => do
    let found ← token inner
    if found = .word then
      let word ← lastWord
      let rest ← words inner fuel
      return word :: rest
    else return []

/-- Reads the patterns of a branch, which bars divide. -/
def patterns (inner : ScriptReader) : Nat → Reader (List Word)
  | 0 => return []
  | fuel + 1 => do
    let pattern ← lastWord
    let found ← token inner
    if found = .bar then
      let _ ← token inner
      let rest ← patterns inner fuel
      return pattern :: rest
    else return [pattern]

/-- Reads branches behind the first token of the first one. -/
def branches (inner : ScriptReader) (command : Reader Command) :
    Nat → Token → Reader (List (List Word × Option Command))
  | 0, _ => return []
  | fuel + 1, first => do
    if first = .keyword .esac then return []
    else
      if first = .opening then
        let _ ← token inner
      let patterns ← patterns inner readingBound
      let reading ← get
      if reading.last ≠ .closing then expecting .closing
      let consequence? ← list inner command .optional
      attend .keywordAfterLines
      let next ← token inner
      if next = .keyword .esac then return [(patterns, consequence?)]
      else if next ≠ .doubleSemicolon then expecting .doubleSemicolon
      else
        attend .keywordAfterLines
        let next ← token inner
        let rest ← branches inner command fuel next
        return (patterns, consequence?) :: rest

/-- Reads the conditions and consequences behind the first ones. -/
def alternatives (inner : ScriptReader) (command : Reader Command) :
    Nat → Reader (Option Command)
  | 0 => return none
  | fuel + 1 => do
    let found ← token inner
    if found = .keyword .elif then
      let condition ← body inner command
      expect inner (.keyword .thenDo)
      let consequence ← body inner command
      let rest ← alternatives inner command fuel
      return some (.conditional condition consequence rest)
    else if found = .keyword .otherwise then
      let rest ← body inner command
      return some rest
    else
      pushBack
      return none

/-- Reads a loop over words behind its keyword. -/
def forEach (inner : ScriptReader) (command : Reader Command) (line : Nat) : Reader Command := do
  let found ← token inner
  let reading ← get
  let name? := if found = .word && !reading.quoted then plainText? reading.word else none
  match name? with
  | none => refuse .badLoopName
  | some name =>
    if !isName name then refuse .badLoopName
    attend .commandAfterLines
    let found ← token inner
    let words ←
      if found = .keyword .inside then
        let words ← words inner readingBound
        let reading ← get
        if reading.last ≠ .newline && reading.last ≠ .semicolon then unexpected
        pure words
      else
        if found ≠ .semicolon then pushBack
        pure [argumentsWord]
    attend .commandAfterLines
    expect inner (.keyword .doing)
    let body ← body inner command
    return .forEach line name words body

/-- Reads a choice behind its keyword. -/
def choice (inner : ScriptReader) (command : Reader Command) (line : Nat) : Reader Command := do
  expect inner .word
  let subject ← lastWord
  attend .commandAfterLines
  expect inner (.keyword .inside)
  attend .keywordAfterLines
  let first ← token inner
  let branches ← branches inner command readingBound first
  return .choice line subject branches

/-- Reads the redirections behind the body of a command. -/
def withRedirections (inner : ScriptReader) (line : Nat) (body : Command) : Reader Command := do
  attend .command
  let redirections ← redirections inner readingBound
  if redirections.isEmpty then return body
  else
    match body with
    | .subshell line body _ => return .subshell line body redirections
    | body => return .redirected line body redirections

/-- The parts of a simple command that were read, the last ones first. -/
structure SimpleParts where
  assignments : List Word
  words : List Word
  redirections : List Redirection

/-- The command that the parts make. -/
def SimpleParts.command (parts : SimpleParts) (line : Nat) : Command :=
  .simple line parts.assignments.reverse parts.words.reverse parts.redirections.reverse

/-- Reads a simple command or the definition of a function. -/
def simpleFrom (inner : ScriptReader) (command : Reader Command) (line : Nat) :
    Nat → SimpleParts → Reader Command
  | 0, parts => return parts.command line
  | fuel + 1, parts => do
    let before := parts.words.isEmpty
    attend (if before then .aliasesOnly else .none)
    match ← token inner with
    | .word =>
      let word ← lastWord
      if before && (assignedName? word).isSome then
        simpleFrom inner command line fuel
          { parts with assignments := word :: parts.assignments }
      else simpleFrom inner command line fuel { parts with words := word :: parts.words }
    | .redirection =>
      let redirection ← target inner
      simpleFrom inner command line fuel
        { parts with redirections := redirection :: parts.redirections }
    | .opening =>
      match parts with
      | ⟨[], [word], []⟩ =>
        expect inner .closing
        match plainText? word with
        | none => refuse .badFunctionName
        | some name =>
          if !isName name || specialNames.contains (String.ofList name) then
            refuse .badFunctionName
          attend .commandAfterLines
          let line ← Reader.line
          let body ← command
          return .define line name body
      | parts =>
        pushBack
        return parts.command line
    | _ =>
      pushBack
      return parts.command line

/-- Reads a command with a reader for the commands inside. -/
def commandWith (command : Reader Command) (inner : ScriptReader) : Reader Command := do
  let line ← Reader.line
  match ← token inner with
  | .keyword .ifSo =>
    let condition ← body inner command
    expect inner (.keyword .thenDo)
    let consequence ← body inner command
    let alternative? ← alternatives inner command readingBound
    expect inner (.keyword .fi)
    withRedirections inner line (.conditional condition consequence alternative?)
  | .keyword .whileDo => loop line false
  | .keyword .untilDone => loop line true
  | .keyword .forEach =>
    let command ← forEach inner command line
    expect inner (.keyword .done)
    withRedirections inner line command
  | .keyword .caseOf =>
    let command ← choice inner command line
    withRedirections inner line command
  | .opening =>
    let body ← body inner command
    expect inner .closing
    withRedirections inner line (.subshell line body [])
  | .keyword .opening =>
    let body ← body inner command
    expect inner (.keyword .closing)
    withRedirections inner line body
  | .word =>
    pushBack
    let line ← Reader.line
    simpleFrom inner command line readingBound ⟨[], [], []⟩
  | .redirection =>
    pushBack
    let line ← Reader.line
    simpleFrom inner command line readingBound ⟨[], [], []⟩
  | _ => unexpected
where
  loop (line : Nat) (untilSuccess : Bool) : Reader Command := do
    let condition ← body inner command
    expect inner (.keyword .doing)
    let repeated ← body inner command
    expect inner (.keyword .done)
    withRedirections inner line (.loop untilSuccess condition repeated)

mutual

/-- Reads a command whose depth is bounded. -/
def command : Nat → Reader Command
  | 0 => refuse .tooDeep
  | depth + 1 => commandWith (command depth) (script depth)

/-- Reads the script of a substitution, whose depth is bounded. -/
def script : Nat → ScriptReader
  | 0, _ => refuse .tooDeep
  | depth + 1, closes => substituted (script depth) (command depth) closes

end

/-- A bound on the depth of commands. -/
def depthBound : Nat := 1000000

/-- Reads a line. -/
def topLine : Reader Line := do
  modify fun reading => { reading with again := false, attention := .none, pending := [] }
  listFrom (script depthBound) (command depthBound) .line readingBound false none

/-- Reads a whole text as if it were in double quotes. -/
def textWord : Reader Word :=
  wholeText (script depthBound) .source .doubleQuoted

end Reader

/-! ## Texts -/

/-- The state before a text is read. -/
def Reading.ofSource (source : Source) (aliases : List (Octets × Octets))
    (documents : Array Word) : Reading :=
  { source := source, aliases := aliases, attention := .none, again := false, last := .newline
    word := [], quoted := false, descriptor := 0, direction := .read, stripsTabs := false
    pending := [], documents := documents }

/-- Whether nothing but the end of the text was found behind a line. -/
def Reading.isAtEnd (reading : Reading) : Bool :=
  reading.again && reading.last = .textEnd

end FixtureHarness.Shell
