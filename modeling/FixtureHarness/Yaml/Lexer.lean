import FixtureHarness.Yaml.Directive
import FixtureHarness.Yaml.Scalar.Block
import FixtureHarness.Yaml.Scalar.Plain
import FixtureHarness.Yaml.Scalar.Quoted

/-! # Reading tokens

The lexer appends tokens. Whether a token is the key of a mapping shows only when a colon follows
it, so each open collection keeps a candidate; when it turns out to be a key, the tokens that say so
are put in before it. A token before a candidate cannot be used yet, which decides how many tokens
of a faulty text can be used at all.
-/

namespace FixtureHarness.Yaml

/-- A token that may turn out to be the key of a mapping. -/
structure Candidate where
  /-- Whether nothing but a key may stand where it stands. -/
  required : Bool
  /-- The number of tokens before it. -/
  number : Nat
  mark : Mark
  deriving DecidableEq, Repr

/-- The state of reading tokens. -/
structure Lexer where
  cursor : Cursor
  tokens : List Token
  /-- The indentation of the innermost block collection, `-1` outside of all. -/
  indent : Int
  /-- The indentations around it, innermost first. -/
  outerIndents : List Int
  /-- Whether a key may stand here. -/
  keyAllowed : Bool
  /-- The candidate of the innermost flow collection or of the block. -/
  candidate? : Option Candidate
  /-- The candidates around each flow collection, innermost first. -/
  outerCandidates : List (Option Candidate)
  finished : Bool
  deriving Repr

namespace Lexer

/-- The beginning of a text. -/
def start (text : List Char) : Lexer where
  cursor := ⟨text, .start⟩
  tokens := []
  indent := -1
  outerIndents := []
  keyAllowed := true
  candidate? := none
  outerCandidates := []
  finished := false

/-- A step of reading tokens. -/
abbrev Step := Except SyntaxError Lexer

/-- Whether a flow collection is open. -/
def inFlow (lexer : Lexer) : Bool :=
  !lexer.outerCandidates.isEmpty

/-- All candidates. -/
def candidates (lexer : Lexer) : List Candidate :=
  (lexer.candidate? :: lexer.outerCandidates).filterMap id

/-- The number of tokens that can be used: those before the first candidate. -/
def ready (lexer : Lexer) : Nat :=
  lexer.candidates.foldl (fun least candidate => min least candidate.number) lexer.tokens.length

/-- The mark of the cursor. -/
def mark (lexer : Lexer) : Mark :=
  lexer.cursor.mark

/-- Appends a token. -/
def push (lexer : Lexer) (token : Token) : Lexer :=
  { lexer with tokens := lexer.tokens ++ [token] }

/-- Appends a token of no width at the cursor. -/
def pushHere (lexer : Lexer) (kind : TokenKind) : Lexer :=
  lexer.push ⟨kind, lexer.mark, lexer.mark⟩

/-- Appends a token for so many characters. -/
def pushChars (lexer : Lexer) (kind : TokenKind) (count : Nat) : Lexer :=
  let cursor := lexer.cursor.skip count
  { lexer.push ⟨kind, lexer.mark, cursor.mark⟩ with cursor := cursor }

/-- Puts a token in before the tokens from a number on. -/
def insert (lexer : Lexer) (number : Nat) (token : Token) : Lexer :=
  { lexer with tokens := lexer.tokens.take number ++ token :: lexer.tokens.drop number }

/-! ## Candidates -/

/-- The complaint that a key was expected and no colon follows. -/
def missingColon (lexer : Lexer) (candidate : Candidate) : SyntaxError :=
  ⟨"could not find expected ':'", lexer.mark,
    some ⟨"while scanning a simple key", candidate.mark⟩, 0⟩

/-- The greatest number of bytes of a key. -/
def maxKeyLength : Nat := 1024

/-- Whether a candidate lies too far behind to be a key: on another line, or too many bytes ago.
-/
def isStale (lexer : Lexer) (candidate : Candidate) : Bool :=
  candidate.mark.line < lexer.mark.line ||
    candidate.mark.index + maxKeyLength < lexer.mark.index

/-- Drops a candidate that has become stale. -/
def keepFresh (lexer : Lexer) (candidate : Candidate) : Except SyntaxError (Option Candidate) :=
  if !lexer.isStale candidate then .ok (some candidate)
  else if candidate.required then .error (lexer.missingColon candidate)
  else .ok none

/-- Drops all candidates that have become stale. The outermost is looked at first. -/
def dropStale (lexer : Lexer) : Step := do
  let fresh (candidate? : Option Candidate) : Except SyntaxError (Option Candidate) :=
    match candidate? with
    | some candidate => lexer.keepFresh candidate
    | none => .ok none
  let outer ← lexer.outerCandidates.reverse.mapM fresh
  let inner ← fresh lexer.candidate?
  .ok { lexer with candidate? := inner, outerCandidates := outer.reverse }

/-- Gives up the innermost candidate. -/
def dropCandidate (lexer : Lexer) : Step :=
  match lexer.candidate? with
  | some candidate =>
    if candidate.required then .error (lexer.missingColon candidate)
    else .ok { lexer with candidate? := none }
  | none => .ok lexer

/-- Makes the next token the candidate if a key may stand here. -/
def saveCandidate (lexer : Lexer) : Step :=
  if lexer.keyAllowed then do
    let required := !lexer.inFlow && lexer.indent = lexer.mark.column
    let kept ← lexer.dropCandidate
    .ok { kept with candidate? := some ⟨required, lexer.tokens.length, lexer.mark⟩ }
  else .ok lexer

/-- Says whether a key may stand behind the next token. -/
def allowKey (allowed : Bool) (lexer : Lexer) : Lexer :=
  { lexer with keyAllowed := allowed }

/-! ## Indentation -/

/-- Opens a block collection if the column lies to the right of the indentation. Its token is put in
before the tokens from a number on. -/
def openBlock (lexer : Lexer) (column number : Nat) (kind : TokenKind) (mark : Mark) : Lexer :=
  if !lexer.inFlow && lexer.indent < column then
    { lexer.insert number ⟨kind, mark, mark⟩ with
      indent := column
      outerIndents := lexer.indent :: lexer.outerIndents }
  else lexer

/-- Opens a block collection at the cursor. -/
def openBlockHere (lexer : Lexer) (kind : TokenKind) : Lexer :=
  lexer.openBlock lexer.mark.column lexer.tokens.length kind lexer.mark

/-- Closes the block collections with one of these indentations that lie to the right of a column.
-/
def closeIndents (column : Int) : List Int → Lexer → Lexer
  | [], lexer => lexer
  | outer :: rest, lexer =>
    if column < lexer.indent then
      closeIndents column rest
        { lexer.pushHere .blockEnd with indent := outer, outerIndents := rest }
    else lexer

/-- Closes the block collections that lie to the right of a column. -/
def closeBlocks (lexer : Lexer) (column : Int) : Lexer :=
  if lexer.inFlow then lexer else closeIndents column lexer.outerIndents lexer

/-! ## Tokens -/

/-- The end of the text, which counts as the beginning of a line. -/
def fetchEnd (lexer : Lexer) : Step := do
  let mark := lexer.mark
  let mark := if mark.column = 0 then mark else ⟨mark.index, mark.line + 1, 0⟩
  let lexer := { lexer with cursor := { lexer.cursor with mark := mark } }
  let lexer ← (lexer.closeBlocks (-1)).dropCandidate
  .ok { lexer.pushHere .streamEnd with keyAllowed := false, finished := true }

/-- A directive. -/
def fetchDirective (lexer : Lexer) : Step := do
  let lexer ← (lexer.closeBlocks (-1)).dropCandidate
  let (token, cursor) ← Directive.read lexer.cursor
  .ok { (lexer.push token).allowKey false with cursor := cursor }

/-- A mark between documents. -/
def fetchDocumentMark (kind : TokenKind) (lexer : Lexer) : Step := do
  let lexer ← (lexer.closeBlocks (-1)).dropCandidate
  .ok ((lexer.pushChars kind 3).allowKey false)

/-- The beginning of a flow collection. -/
def fetchFlowStart (kind : TokenKind) (lexer : Lexer) : Step := do
  let lexer ← lexer.saveCandidate
  let lexer := lexer.pushChars kind 1
  .ok { lexer with
    candidate? := none
    outerCandidates := lexer.candidate? :: lexer.outerCandidates
    keyAllowed := true }

/-- The end of a flow collection. -/
def fetchFlowEnd (kind : TokenKind) (lexer : Lexer) : Step := do
  let lexer ← lexer.dropCandidate
  let lexer := (lexer.pushChars kind 1).allowKey false
  match lexer.outerCandidates with
  | outer :: rest => .ok { lexer with candidate? := outer, outerCandidates := rest }
  | [] => .ok lexer

/-- A comma. -/
def fetchFlowEntry (lexer : Lexer) : Step := do
  let lexer ← lexer.dropCandidate
  .ok ((lexer.pushChars .flowEntry 1).allowKey true)

/-- A hyphen before an entry. -/
def fetchBlockEntry (lexer : Lexer) : Step := do
  if !lexer.inFlow && !lexer.keyAllowed then
    lexer.cursor.fail "block sequence entries are not allowed in this context"
  else
    let lexer ← (lexer.openBlockHere .blockSequenceStart).dropCandidate
    .ok ((lexer.pushChars .blockEntry 1).allowKey true)

/-- A question mark before a key. -/
def fetchKey (lexer : Lexer) : Step := do
  if !lexer.inFlow && !lexer.keyAllowed then
    lexer.cursor.fail "mapping keys are not allowed in this context"
  else
    let lexer ← (lexer.openBlockHere .blockMappingStart).dropCandidate
    .ok ((lexer.pushChars .key 1).allowKey !lexer.inFlow)

/-- A colon before a value, which makes a key of the candidate. -/
def fetchValue (lexer : Lexer) : Step :=
  match lexer.candidate? with
  | some candidate =>
    let lexer := lexer.insert candidate.number ⟨.key, candidate.mark, candidate.mark⟩
    let lexer := lexer.openBlock candidate.mark.column candidate.number .blockMappingStart
      candidate.mark
    .ok ({ lexer.pushChars .value 1 with candidate? := none }.allowKey false)
  | none =>
    if !lexer.inFlow && !lexer.keyAllowed then
      lexer.cursor.fail "mapping values are not allowed in this context"
    else
      let lexer := lexer.openBlockHere .blockMappingStart
      .ok ((lexer.pushChars .value 1).allowKey !lexer.inFlow)

/-- A token that a reader reads and that may be a key. -/
def fetchNode (read : Scanner TokenKind) (lexer : Lexer) : Step := do
  let lexer ← lexer.saveCandidate
  let (kind, cursor) ← read lexer.cursor
  .ok { (lexer.push ⟨kind, lexer.mark, cursor.mark⟩).allowKey false with cursor := cursor }

/-- An alias. -/
def fetchAlias : Lexer → Step :=
  fetchNode fun cursor => do
    let (name, cursor) ← Property.readName "while scanning an alias" cursor
    .ok (.aliasOf name, cursor)

/-- An anchor. -/
def fetchAnchor : Lexer → Step :=
  fetchNode fun cursor => do
    let (name, cursor) ← Property.readName "while scanning an anchor" cursor
    .ok (.anchor name, cursor)

/-- A tag. -/
def fetchTag (lexer : Lexer) : Step :=
  lexer.fetchNode fun cursor => do
    let ((handle, suffix), cursor) ← Property.readTag lexer.inFlow cursor
    .ok (.tag handle suffix, cursor)

/-- A quoted scalar. -/
def fetchQuoted (quote : Char) : Lexer → Step :=
  fetchNode fun cursor => do
    let (text, cursor) ← Quoted.read quote cursor
    .ok (.scalar text .quoted, cursor)

/-- A block scalar. -/
def fetchBlockScalar (folded : Bool) (lexer : Lexer) : Step := do
  let lexer ← lexer.dropCandidate
  let (scalar, cursor) ← Block.read folded lexer.indent lexer.cursor
  let token : Token := ⟨.scalar scalar.text .block, lexer.mark, scalar.stop⟩
  .ok { (lexer.push token).allowKey true with cursor := cursor }

/-- A plain scalar. A key may follow it when it ends its line. -/
def fetchPlain (lexer : Lexer) : Step := do
  let lexer ← lexer.saveCandidate
  let (scalar, cursor) ← Plain.read lexer.inFlow (lexer.indent + 1) lexer.cursor
  let token : Token := ⟨.scalar scalar.text .plain, lexer.mark, scalar.stop⟩
  .ok { (lexer.push token).allowKey scalar.endsLine with cursor := cursor }

/-! ## The loop -/

/-- Skips a byte order mark at the beginning of a line. -/
def skipByteOrderMark (cursor : Cursor) : Cursor :=
  if cursor.mark.column = 0 && cursor.head? = some '\uFEFF' then cursor.skip 1 else cursor

/-- Skips blanks, comments, line endings and byte order marks; the fuel bounds their number. A tab
counts as a blank only where no key may stand. -/
def skipToToken : Nat → Lexer → Lexer
  | 0, lexer => lexer
  | fuel + 1, lexer =>
    let tabs := lexer.inFlow || !lexer.keyAllowed
    let cursor := (skipByteOrderMark lexer.cursor).skipWhile fun char =>
      char = ' ' || (tabs && char = '\t')
    let cursor :=
      if cursor.head? = some '#' then cursor.skipWhile fun char => !isBreak char else cursor
    if next isBreak cursor.head? then
      skipToToken fuel
        { lexer with
          cursor := cursor.skipBreak
          keyAllowed := lexer.keyAllowed || !lexer.inFlow }
    else { lexer with cursor := cursor }

/-- Whether no plain scalar may begin with a character. -/
def isIndicator (char : Char) : Bool :=
  isSpace char || "-?:,[]\x7b\x7d#&*!|>'\"%@\x60".toList.contains char

/-- Whether a plain scalar begins here. -/
def startsPlain (lexer : Lexer) : Bool :=
  let cursor := lexer.cursor
  next (fun char => !isIndicator char) cursor.head? ||
    (cursor.head? = some '-' && !next isBlank (cursor.ahead? 1)) ||
    (!lexer.inFlow && (cursor.head? = some '?' || cursor.head? = some ':') &&
      !nextOrEnd isSpace (cursor.ahead? 1))

/-- Reads the token that begins at the cursor. -/
def fetchToken (lexer : Lexer) : Step :=
  let cursor := lexer.cursor
  let spaceFollows := nextOrEnd isSpace (cursor.ahead? 1)
  let plainOrFail : Step :=
    if lexer.startsPlain then lexer.fetchPlain
    else
      cursor.failIn "while scanning for the next token" cursor.mark
        "found character that cannot start any token"
  match cursor.head? with
  | none => lexer.fetchEnd
  | some char =>
    if cursor.mark.column = 0 && char = '%' then lexer.fetchDirective
    else if cursor.atDocumentMark && char = '-' then lexer.fetchDocumentMark .documentStart
    else if cursor.atDocumentMark then lexer.fetchDocumentMark .documentEnd
    else
      match char with
      | '[' => lexer.fetchFlowStart .flowSequenceStart
      | '\x7b' => lexer.fetchFlowStart .flowMappingStart
      | ']' => lexer.fetchFlowEnd .flowSequenceEnd
      | '\x7d' => lexer.fetchFlowEnd .flowMappingEnd
      | ',' => lexer.fetchFlowEntry
      | '-' => if spaceFollows then lexer.fetchBlockEntry else plainOrFail
      | '?' => if lexer.inFlow || spaceFollows then lexer.fetchKey else plainOrFail
      | ':' => if lexer.inFlow || spaceFollows then lexer.fetchValue else plainOrFail
      | '*' => lexer.fetchAlias
      | '&' => lexer.fetchAnchor
      | '!' => lexer.fetchTag
      | '|' => if lexer.inFlow then plainOrFail else lexer.fetchBlockScalar false
      | '>' => if lexer.inFlow then plainOrFail else lexer.fetchBlockScalar true
      | '\'' => lexer.fetchQuoted '\''
      | '"' => lexer.fetchQuoted '"'
      | _ => plainOrFail

/-- Reads the next token with what lies before it. -/
def fetch (lexer : Lexer) : Step := do
  let lexer ← (skipToToken (lexer.cursor.rest.length + 1) lexer).dropStale
  let lexer ← (lexer.closeBlocks lexer.mark.column).fetchToken
  lexer.dropStale

end Lexer

/-- The tokens of a text as far as they can be used, and the error that ends them. -/
structure Tokens where
  tokens : List Token
  error? : Option SyntaxError
  deriving Repr

namespace Tokens

/-- Reads tokens to the end of the text or to an error; the fuel bounds their number. -/
def fetchAll : Nat → Lexer → Tokens
  | 0, lexer => ⟨lexer.tokens, none⟩
  | fuel + 1, lexer =>
    if lexer.finished then ⟨lexer.tokens, none⟩
    else
      match lexer.fetch with
      | .ok next => fetchAll fuel next
      | .error error => ⟨lexer.tokens.take lexer.ready, some error⟩

/-- Whether a character may stand in a text. -/
def isAllowed (char : Char) : Bool :=
  let code := char.toNat
  code = 0x09 || code = 0x0A || code = 0x0D || (0x20 ≤ code && code ≤ 0x7E) || code = 0x85 ||
    (0xA0 ≤ code && code ≤ 0xFFFD) || 0x10000 ≤ code

/-- The complaint about the first character that may not stand in a text. -/
def refusal? (text : List Char) : Option SyntaxError :=
  if text.all isAllowed then none
  else
    let before := text.takeWhile isAllowed
    some ⟨"control characters are not allowed", .start, none, Text.byteCount before⟩

/-- A text without the byte order mark that it begins with, which has no place in it. -/
def dropSignature (text : List Char) : List Char :=
  match text with
  | '\uFEFF' :: rest => rest
  | _ => text

/-- The tokens of a text. -/
def ofText (text : String) : Tokens :=
  let chars := text.toList
  match refusal? chars with
  | some error => ⟨[], some error⟩
  | none => fetchAll (chars.length + 2) (.start (dropSignature chars))

end Tokens

end FixtureHarness.Yaml
