import FixtureHarness.Yaml.Token

/-! # Events

The grammar over tokens. It is read with a stack of what is expected next, so that each step yields
one event and a faulty text still yields the events before the fault.
-/

namespace FixtureHarness.Yaml

/-- What a node may carry before its content. -/
structure Properties where
  anchor? : Option (List Char)
  tag? : Option (List Char)
  deriving DecidableEq, Repr

/-- No properties. -/
def Properties.none : Properties := ⟨.none, .none⟩

/-- One step of a document. -/
inductive EventKind where
  | documentStart
  | documentEnd
  | streamEnd
  | aliasOf (name : List Char)
  | scalar (properties : Properties) (text : List Char) (style : ScalarStyle)
  | sequenceStart (properties : Properties)
  | sequenceEnd
  | mappingStart (properties : Properties)
  | mappingEnd
  deriving DecidableEq, Repr

/-- An event and the mark at which it begins. -/
structure Event where
  kind : EventKind
  mark : Mark
  deriving DecidableEq, Repr

namespace Event

/-- A scalar of no characters. -/
def emptyScalar (mark : Mark) : Event :=
  ⟨.scalar .none [] .plain, mark⟩

end Event

/-- What is expected next. Collections keep the mark at which they began. -/
inductive Goal where
  /-- A document, which needs no mark if it is the first. -/
  | documentStart (first : Bool)
  | documentContent
  | documentEnd
  | blockNode
  | blockEntry (start : Mark)
  /-- An entry of a sequence that is not indented against its key. -/
  | plainEntry
  | blockKey (start : Mark)
  | blockValue (start : Mark)
  | flowEntry (start : Mark) (first : Bool)
  | pairKey
  | pairValue
  | pairEnd
  | flowKey (start : Mark) (first : Bool)
  | flowValue (start : Mark)
  | flowNoValue (start : Mark)
  deriving DecidableEq, Repr

/-- The state of reading events. -/
structure EventReader where
  tokens : List Token
  /-- The error behind the tokens. -/
  error? : Option SyntaxError
  /-- What is expected next, the nearest first. -/
  goals : List Goal
  /-- The handles of tags and what they stand for. -/
  handles : List (List Char × List Char)
  deriving Repr

namespace EventReader

/-- The beginning of a text. -/
def start (tokens : List Token) (error? : Option SyntaxError) : EventReader :=
  ⟨tokens, error?, [.documentStart true], []⟩

/-- A step that yields an event. -/
abbrev Step := Except SyntaxError (Event × EventReader)

/-- The error for a text whose tokens have ended. -/
def ended (reader : EventReader) : SyntaxError :=
  reader.error?.getD ⟨"did not find expected token", .start, none, 0⟩

/-- The next token. -/
def peek (reader : EventReader) : Except SyntaxError Token :=
  match reader.tokens with
  | token :: _ => .ok token
  | [] => .error reader.ended

/-- Skips a token. -/
def skip (reader : EventReader) : EventReader :=
  { reader with tokens := reader.tokens.drop 1 }

/-- Expects something next. -/
def expect (reader : EventReader) (goal : Goal) : EventReader :=
  { reader with goals := goal :: reader.goals }

/-- Yields an event. -/
def yield (reader : EventReader) (kind : EventKind) (mark : Mark) : Step :=
  .ok (⟨kind, mark⟩, reader)

/-- Yields a scalar of no characters. -/
def yieldEmpty (reader : EventReader) (mark : Mark) : Step :=
  .ok (.emptyScalar mark, reader)

/-- A problem at a token inside a collection. -/
def failAt {Result : Type} (token : Token) (problem activity : String) (start : Mark) :
    Except SyntaxError Result :=
  .error ⟨problem, token.start, some ⟨activity, start⟩, 0⟩

/-! ## Nodes -/

/-- Where a node stands. -/
structure Position where
  inBlock : Bool
  /-- Whether a sequence may begin without indentation. -/
  plainSequence : Bool

/-- The properties of a node, with the mark of the first and that of the tag. -/
structure Prelude where
  anchor? : Option (List Char)
  tag? : Option (List Char × List Char × Mark)
  start? : Option Mark

/-- Reads the properties of a node: an anchor and a tag in either order. -/
def readPrelude (reader : EventReader) : Except SyntaxError (Prelude × EventReader) := do
  let first ← reader.peek
  match first.kind with
  | .anchor name =>
    let reader := reader.skip
    let second ← reader.peek
    match second.kind with
    | .tag handle suffix =>
      .ok (⟨some name, some (handle, suffix, second.start), some first.start⟩, reader.skip)
    | _ => .ok (⟨some name, none, some first.start⟩, reader)
  | .tag handle suffix =>
    let reader := reader.skip
    let second ← reader.peek
    let tag := some (handle, suffix, first.start)
    match second.kind with
    | .anchor name => .ok (⟨some name, tag, some first.start⟩, reader.skip)
    | _ => .ok (⟨none, tag, some first.start⟩, reader)
  | _ => .ok (⟨none, none, none⟩, reader)

/-- The whole tag that a handle and a suffix stand for. -/
def wholeTag (reader : EventReader) (start : Mark) (handle suffix : List Char) (mark : Mark) :
    Except SyntaxError (List Char) :=
  if handle.isEmpty then .ok suffix
  else
    match reader.handles.find? fun entry => entry.1 = handle with
    | some entry => .ok (entry.2 ++ suffix)
    | none =>
      .error ⟨"found undefined tag handle", mark, some ⟨"while parsing a node", start⟩, 0⟩

/-- Reads the content of a node behind its properties. -/
def readContent (reader : EventReader) (position : Position) (properties : Properties)
    (start : Mark) : Step := do
  let token ← reader.peek
  let opened (goal : Goal) (kind : EventKind) : Step :=
    (reader.skip.expect goal).yield kind start
  if position.plainSequence && token.kind = .blockEntry then
    (reader.expect .plainEntry).yield (.sequenceStart properties) start
  else
    match token.kind, position.inBlock with
    | .scalar text style, _ =>
      let properties :=
        if properties.tag? = some ['!'] then { properties with tag? := none } else properties
      reader.skip.yield (.scalar properties text style) start
    | .flowSequenceStart, _ => opened (.flowEntry token.start true) (.sequenceStart properties)
    | .flowMappingStart, _ => opened (.flowKey token.start true) (.mappingStart properties)
    | .blockSequenceStart, true => opened (.blockEntry token.start) (.sequenceStart properties)
    | .blockMappingStart, true => opened (.blockKey token.start) (.mappingStart properties)
    | _, _ =>
      if properties.anchor?.isSome || properties.tag?.isSome then
        reader.yield (.scalar properties [] .plain) start
      else
        failAt token "did not find expected node content"
          (if position.inBlock then "while parsing a block node" else "while parsing a flow node")
          start

/-- Reads a node or the beginning of one. -/
def readNode (reader : EventReader) (position : Position) : Step := do
  let token ← reader.peek
  match token.kind with
  | .aliasOf name => reader.skip.yield (.aliasOf name) token.start
  | _ =>
    let (begin, reader) ← reader.readPrelude
    let start := begin.start?.getD token.start
    match begin.tag? with
    | none => reader.readContent position ⟨begin.anchor?, none⟩ start
    | some (handle, suffix, mark) =>
      let tag ← reader.wholeTag start handle suffix mark
      reader.readContent position ⟨begin.anchor?, some tag⟩ start

/-- A node in a block collection. -/
def blockNode (reader : EventReader) (goal : Goal) : Step :=
  (reader.expect goal).readNode ⟨true, false⟩

/-- A key or value in a block mapping. -/
def blockMember (reader : EventReader) (goal : Goal) : Step :=
  (reader.expect goal).readNode ⟨true, true⟩

/-- A node in a flow collection. -/
def flowNode (reader : EventReader) (goal : Goal) : Step :=
  (reader.expect goal).readNode ⟨false, false⟩

/-! ## Documents -/

/-- The handles that are always defined. -/
def standardHandles : List (List Char × List Char) :=
  [("!".toList, "!".toList), ("!!".toList, "tag:yaml.org,2002:".toList)]

/-- Reads the directives before a document; the fuel bounds their number. -/
def readDirectives : Nat → Bool → EventReader → Except SyntaxError EventReader
  | 0, _, reader => .ok reader
  | fuel + 1, versioned, reader => do
    let token ← reader.peek
    let fail (problem : String) : Except SyntaxError EventReader :=
      .error ⟨problem, token.start, none, 0⟩
    match token.kind with
    | .versionDirective major minor =>
      if versioned then fail "found duplicate %YAML directive"
      else if major ≠ 1 || (minor ≠ 1 && minor ≠ 2) then fail "found incompatible YAML document"
      else readDirectives fuel true reader.skip
    | .tagDirective handle uri =>
      if reader.handles.any fun entry => entry.1 = handle then
        fail "found duplicate %TAG directive"
      else
        readDirectives fuel versioned
          { reader.skip with handles := reader.handles ++ [(handle, uri)] }
    | _ => .ok reader

/-- Adds the handles that are defined without a directive. -/
def addStandardHandles (reader : EventReader) : EventReader :=
  { reader with handles := reader.handles ++ standardHandles }

/-- Skips the marks that end documents. -/
def skipDocumentEnds (reader : EventReader) : EventReader :=
  { reader with tokens := reader.tokens.dropWhile fun token => token.kind = .documentEnd }

/-- Whether a token begins something that only stands before a document. -/
def leadsDocument : TokenKind → Bool
  | .versionDirective .. | .tagDirective .. | .documentStart => true
  | _ => false

/-- The beginning of a document or the end of the text. -/
def documentStart (reader : EventReader) (first : Bool) : Step := do
  let reader := if first then reader else reader.skipDocumentEnds
  let token ← reader.peek
  if token.kind = .streamEnd then reader.skip.yield .streamEnd token.start
  else if first && !leadsDocument token.kind then
    ((reader.addStandardHandles.expect .documentEnd).expect .blockNode).yield .documentStart
      token.start
  else
    let reader ← readDirectives (reader.tokens.length + 1) false reader
    let reader := reader.addStandardHandles
    let mark ← reader.peek
    if mark.kind = .documentStart then
      ((reader.skip.expect .documentEnd).expect .documentContent).yield .documentStart token.start
    else .error ⟨"did not find expected <document start>", mark.start, none, 0⟩

/-- The content of a document behind its mark, which may be missing. -/
def documentContent (reader : EventReader) : Step := do
  let token ← reader.peek
  match token.kind with
  | .versionDirective .. | .tagDirective .. | .documentStart | .documentEnd | .streamEnd =>
    reader.yieldEmpty token.start
  | _ => reader.readNode ⟨true, false⟩

/-- The end of a document. -/
def documentEnd (reader : EventReader) : Step := do
  let token ← reader.peek
  let reader := if token.kind = .documentEnd then reader.skip else reader
  ({ reader with handles := [] }.expect (.documentStart false)).yield .documentEnd token.start

/-! ## Block collections -/

/-- An entry of a block sequence or its end. -/
def blockEntry (reader : EventReader) (start : Mark) : Step := do
  let token ← reader.peek
  match token.kind with
  | .blockEntry =>
    let reader := reader.skip
    let content ← reader.peek
    match content.kind with
    | .blockEntry | .blockEnd => (reader.expect (.blockEntry start)).yieldEmpty token.stop
    | _ => reader.blockNode (.blockEntry start)
  | .blockEnd => reader.skip.yield .sequenceEnd token.start
  | _ =>
    failAt token "did not find expected '-' indicator" "while parsing a block collection" start

/-- An entry of a sequence that is not indented, or its end. -/
def plainEntry (reader : EventReader) : Step := do
  let token ← reader.peek
  match token.kind with
  | .blockEntry =>
    let reader := reader.skip
    let content ← reader.peek
    match content.kind with
    | .blockEntry | .key | .value | .blockEnd => (reader.expect .plainEntry).yieldEmpty token.stop
    | _ => reader.blockNode .plainEntry
  | _ => reader.yield .sequenceEnd token.start

/-- A key of a block mapping or its end. -/
def blockKey (reader : EventReader) (start : Mark) : Step := do
  let token ← reader.peek
  match token.kind with
  | .key =>
    let reader := reader.skip
    let content ← reader.peek
    match content.kind with
    | .key | .value | .blockEnd => (reader.expect (.blockValue start)).yieldEmpty token.stop
    | _ => reader.blockMember (.blockValue start)
  | .blockEnd => reader.skip.yield .mappingEnd token.start
  | _ => failAt token "did not find expected key" "while parsing a block mapping" start

/-- A value of a block mapping. -/
def blockValue (reader : EventReader) (start : Mark) : Step := do
  let token ← reader.peek
  match token.kind with
  | .value =>
    let reader := reader.skip
    let content ← reader.peek
    match content.kind with
    | .key | .value | .blockEnd => (reader.expect (.blockKey start)).yieldEmpty token.stop
    | _ => reader.blockMember (.blockKey start)
  | _ => (reader.expect (.blockKey start)).yieldEmpty token.start

/-! ## Flow collections -/

/-- Skips the comma between the entries of a flow collection; before the first there is none. -/
def skipComma (reader : EventReader) (first : Bool) (closing : TokenKind)
    (problem activity : String) (start : Mark) : Except SyntaxError EventReader := do
  let token ← reader.peek
  if first || token.kind = closing then .ok reader
  else if token.kind = .flowEntry then .ok reader.skip
  else failAt token problem activity start

/-- An entry of a flow sequence or its end. -/
def flowEntry (reader : EventReader) (start : Mark) (first : Bool) : Step := do
  let reader ← reader.skipComma first .flowSequenceEnd "did not find expected ',' or ']'"
    "while parsing a flow sequence" start
  let token ← reader.peek
  match token.kind with
  | .key =>
    ((reader.skip.expect (.flowEntry start false)).expect .pairKey).yield (.mappingStart .none)
      token.start
  | .flowSequenceEnd => reader.skip.yield .sequenceEnd token.start
  | _ => reader.flowNode (.flowEntry start false)

/-- The key of a pair in a flow sequence. -/
def pairKey (reader : EventReader) : Step := do
  let token ← reader.peek
  match token.kind with
  | .value | .flowEntry | .flowSequenceEnd => (reader.skip.expect .pairValue).yieldEmpty token.stop
  | _ => reader.flowNode .pairValue

/-- The value of a pair in a flow sequence. -/
def pairValue (reader : EventReader) : Step := do
  let token ← reader.peek
  match token.kind with
  | .value =>
    let reader := reader.skip
    let content ← reader.peek
    match content.kind with
    | .flowEntry | .flowSequenceEnd => (reader.expect .pairEnd).yieldEmpty content.start
    | _ => reader.flowNode .pairEnd
  | _ => (reader.expect .pairEnd).yieldEmpty token.start

/-- The end of a pair in a flow sequence. -/
def pairEnd (reader : EventReader) : Step := do
  let token ← reader.peek
  reader.yield .mappingEnd token.start

/-- A key of a flow mapping or its end. -/
def flowKey (reader : EventReader) (start : Mark) (first : Bool) : Step := do
  let reader ← reader.skipComma first .flowMappingEnd "did not find expected ',' or '\x7d'"
    "while parsing a flow mapping" start
  let token ← reader.peek
  match token.kind with
  | .key =>
    let reader := reader.skip
    let content ← reader.peek
    match content.kind with
    | .value | .flowEntry | .flowMappingEnd =>
      (reader.expect (.flowValue start)).yieldEmpty content.start
    | _ => reader.flowNode (.flowValue start)
  | .flowMappingEnd => reader.skip.yield .mappingEnd token.start
  | _ => reader.flowNode (.flowNoValue start)

/-- A value of a flow mapping. -/
def flowValue (reader : EventReader) (start : Mark) : Step := do
  let token ← reader.peek
  match token.kind with
  | .value =>
    let reader := reader.skip
    let content ← reader.peek
    match content.kind with
    | .flowEntry | .flowMappingEnd =>
      (reader.expect (.flowKey start false)).yieldEmpty content.start
    | _ => reader.flowNode (.flowKey start false)
  | _ => (reader.expect (.flowKey start false)).yieldEmpty token.start

/-- The value of a key that stands alone in a flow mapping. -/
def flowNoValue (reader : EventReader) (start : Mark) : Step := do
  let token ← reader.peek
  (reader.expect (.flowKey start false)).yieldEmpty token.start

/-! ## The loop -/

/-- Yields the next event, or nothing behind the end of the text. -/
def step? (reader : EventReader) : Option Step :=
  match reader.goals with
  | [] => none
  | goal :: goals =>
    let reader := { reader with goals := goals }
    some <|
      match goal with
      | .documentStart first => reader.documentStart first
      | .documentContent => reader.documentContent
      | .documentEnd => reader.documentEnd
      | .blockNode => reader.readNode ⟨true, false⟩
      | .blockEntry start => reader.blockEntry start
      | .plainEntry => reader.plainEntry
      | .blockKey start => reader.blockKey start
      | .blockValue start => reader.blockValue start
      | .flowEntry start first => reader.flowEntry start first
      | .pairKey => reader.pairKey
      | .pairValue => reader.pairValue
      | .pairEnd => reader.pairEnd
      | .flowKey start first => reader.flowKey start first
      | .flowValue start => reader.flowValue start
      | .flowNoValue start => reader.flowNoValue start

end EventReader

/-- The events of a text and the error that ends them. -/
structure Events where
  events : List Event
  error? : Option SyntaxError
  deriving Repr

namespace Events

/-- Reads events to the end of the text or to an error; the fuel bounds their number. -/
def readAll : Nat → EventReader → Events
  | 0, _ => ⟨[], none⟩
  | fuel + 1, reader =>
    match reader.step? with
    | none => ⟨[], none⟩
    | some (.error error) => ⟨[], some error⟩
    | some (.ok (event, next)) =>
      let more := readAll fuel next
      ⟨event :: more.events, more.error?⟩

/-- The events of tokens. A token takes part in at most three events, and few belong to none. -/
def ofTokens (tokens : List Token) (error? : Option SyntaxError) : Events :=
  readAll (4 * tokens.length + 8) (.start tokens error?)

end Events

end FixtureHarness.Yaml
