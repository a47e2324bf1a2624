import FixtureHarness.Shell.Reader.Source

/-! # Tokens of scripts

A reader takes tokens from a source. What a word means depends on where it stands, so the grammar
says before each token whether line ends are skipped and whether keywords and aliases count.
-/

namespace FixtureHarness.Shell

/-- A word with a meaning of its own where a command begins. -/
inductive Keyword where
  | not | caseOf | doing | done | elif | otherwise | esac | fi | forEach | ifSo | inside | thenDo
  | untilDone | whileDo | opening | closing
  deriving DecidableEq, Repr

namespace Keyword

/-- The keywords with their spelling. -/
def spellings : List (Keyword × String) :=
  [(not, "!"), (caseOf, "case"), (doing, "do"), (done, "done"), (elif, "elif"),
    (otherwise, "else"), (esac, "esac"), (fi, "fi"), (forEach, "for"), (ifSo, "if"),
    (inside, "in"), (thenDo, "then"), (untilDone, "until"), (whileDo, "while"),
    (opening, "\x7b"), (closing, "\x7d")]

/-- A keyword by its spelling. -/
def ofText? (text : Octets) : Option Keyword :=
  (spellings.find? fun entry => entry.2.toList = text).map (·.1)

/-- The spelling of a keyword. -/
def spelling (keyword : Keyword) : String :=
  ((spellings.find? fun entry => entry.1 = keyword).map (·.2)).getD ""

end Keyword

/-- A token without what it carries. -/
inductive Token where
  | textEnd
  | newline
  | semicolon
  | ampersand
  | both
  | either
  | bar
  | opening
  | closing
  | doubleSemicolon
  | redirection
  | word
  | keyword (keyword : Keyword)
  deriving DecidableEq, Repr

namespace Token

/-- How a token is named in messages. -/
def name : Token → String
  | textEnd => "end of file"
  | newline => "newline"
  | semicolon => "\";\""
  | ampersand => "\"&\""
  | both => "\"&&\""
  | either => "\"||\""
  | bar => "\"|\""
  | opening => "\"(\""
  | closing => "\")\""
  | doubleSemicolon => "\";;\""
  | redirection => "redirection"
  | word => "word"
  | keyword spelt => "\"" ++ spelt.spelling ++ "\""

/-- Whether a token ends a list of commands. -/
def endsList : Token → Bool
  | textEnd | closing | doubleSemicolon => true
  | keyword spelt =>
    [Keyword.doing, .done, .elif, .otherwise, .esac, .fi, .thenDo, .closing].contains spelt
  | _ => false

end Token

/-! ## Faults -/

/-- What is wrong with the text of a script. -/
inductive SyntaxFault where
  | unexpected (token : Token)
  | expecting (token expected : Token)
  | unterminatedQuote
  | unterminatedBackquote
  | missingBrace
  | missingParentheses
  | badLoopName
  | badFunctionName
  | badDescriptor
  /-- The script is nested too deep. -/
  | tooDeep
  deriving DecidableEq, Repr

/-- The text of a fault. -/
def SyntaxFault.message : SyntaxFault → String
  | unexpected token => s!"{token.name} unexpected"
  | expecting token expected => s!"{token.name} unexpected (expecting {expected.name})"
  | unterminatedQuote => "Unterminated quoted string"
  | unterminatedBackquote => "EOF in backquote substitution"
  | missingBrace => "Missing '\x7d'"
  | missingParentheses => "Missing '))'"
  | badLoopName => "Bad for loop variable"
  | badFunctionName => "Bad function name"
  | badDescriptor => "Bad fd number"
  | tooDeep => "Nested too deep"

/-- A fault with the line that it was found in. -/
structure ReadFault where
  fault : SyntaxFault
  line : Nat
  deriving DecidableEq, Repr

/-! ## The state of reading -/

/-- What counts for the next token. -/
structure Attention where
  /-- Line ends are skipped. -/
  newlines : Bool
  keywords : Bool
  aliases : Bool
  /-- The word is the mark at the end of a document, where nothing is expanded. -/
  mark : Bool
  deriving DecidableEq, Repr

namespace Attention

/-- Nothing counts. -/
def none : Attention := ⟨false, false, false, false⟩

/-- Only aliases count. -/
def aliasesOnly : Attention := ⟨false, false, true, false⟩

/-- Keywords and aliases count. -/
def command : Attention := ⟨false, true, true, false⟩

/-- Line ends are skipped, and keywords and aliases count. -/
def commandAfterLines : Attention := ⟨true, true, true, false⟩

/-- Line ends are skipped, and keywords count. -/
def keywordAfterLines : Attention := ⟨true, true, false, false⟩

/-- The next word is the mark of a document. -/
def documentMark : Attention := ⟨false, false, false, true⟩

end Attention

/-- A document whose text follows at the next line end. -/
structure PendingDocument where
  number : Nat
  mark : Octets
  expands : Bool
  stripsTabs : Bool
  deriving DecidableEq, Repr

/-- The state of reading a script. -/
structure Reading where
  source : Source
  aliases : List (Octets × Octets)
  /-- What counts for the next token. -/
  attention : Attention
  /-- Whether the last token is to be taken again. -/
  again : Bool
  last : Token
  /-- The last word, and whether a part of it was quoted. -/
  word : Word
  quoted : Bool
  /-- The last redirection, without its target. -/
  descriptor : Nat
  direction : Direction
  stripsTabs : Bool
  pending : List PendingDocument
  /-- The documents that were read, by their number. -/
  documents : Array Word

/-- A step of reading. -/
abbrev Reader := StateT Reading (Except ReadFault)

namespace Reader

/-- Gives up at the present line. -/
def refuse {Result : Type} (fault : SyntaxFault) : Reader Result := fun reading =>
  .error ⟨fault, reading.source.line⟩

/-- Gives up at the last token. -/
def unexpected {Result : Type} : Reader Result := fun reading =>
  .error ⟨.unexpected reading.last, reading.source.line⟩

/-- Gives up at the last token, in whose place another was expected. -/
def expecting {Result : Type} (token : Token) : Reader Result := fun reading =>
  .error ⟨.expecting reading.last token, reading.source.line⟩

/-- Says what counts for the next token. -/
def attend (attention : Attention) : Reader Unit :=
  modify fun reading => { reading with attention := attention }

/-- Makes the next token the last one again. -/
def pushBack : Reader Unit :=
  modify fun reading => { reading with again := true }

/-- The number of the present line. -/
def line : Reader Nat := do
  let reading ← get
  return reading.source.line

/-! ## Characters -/

/-- Goes back to a source. -/
def restore (source : Source) : Reader Unit :=
  modify fun reading => { reading with source := source }

/-- The source as it is. -/
def source : Reader Source := do
  let reading ← get
  return reading.source

/-- Counts a line. -/
def nextLine : Reader Unit :=
  modify fun reading => { reading with source := reading.source.nextLine }

/-- Takes the next character. -/
def takeRaw : Reader (Option Char) := do
  let reading ← get
  let (char?, source) := reading.source.next
  set { reading with source := source }
  return char?

/-- Takes the next character behind joined lines; the fuel bounds their number. -/
def takeJoinedFrom : Nat → Reader (Option Char)
  | 0 => return none
  | fuel + 1 => do
    let char? ← takeRaw
    if char? = some '\\' then
      let behind ← source
      let second? ← takeRaw
      if second? = some '\n' then
        nextLine
        takeJoinedFrom fuel
      else
        restore behind
        return char?
    else return char?

/-- Takes the next character behind joined lines. -/
def takeJoined : Reader (Option Char) := do
  let source ← source
  let deeper := source.levels.foldl (fun count level => count + level.rest.length) 0
  takeJoinedFrom (source.rest.length + deeper + 1)

/-- Takes the next character behind joined lines if it is a given one. -/
def takeIf (char : Char) : Reader Bool := do
  let before ← source
  let next? ← takeJoined
  if next? = some char then return true
  else
    restore before
    return false

end Reader

end FixtureHarness.Shell
