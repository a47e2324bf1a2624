import FixtureHarness.Yaml.Event
import FixtureHarness.Yaml.Lexer

/-! # Nodes and documents

The events of a document as a tree. A document that breaks off in the middle keeps what was read,
with a cut where the rest is missing: who looks only at what is there never meets the cut. An anchor
is kept as a number on its node, and an alias as the number that its name had where the alias
stands.
-/

namespace FixtureHarness.Yaml

/-- A node of a document. -/
inductive Node where
  | scalar (mark : Mark) (anchor? : Option Nat) (tag? : Option (List Char)) (text : List Char)
    (style : ScalarStyle)
  | sequence (mark : Mark) (anchor? : Option Nat) (items : List Node)
  | mapping (mark : Mark) (anchor? : Option Nat) (entries : List (Node × Node))
  | aliasOf (mark : Mark) (anchor : Nat)
  /-- Where the document breaks off. -/
  | cut
  deriving Repr, Inhabited

namespace Node

/-- The number of the anchor on a node. -/
def anchor? : Node → Option Nat
  | scalar _ number _ _ _ => number
  | sequence _ number _ => number
  | mapping _ number _ => number
  | _ => none

/-- A node without content. -/
def void (mark : Mark) : Node :=
  scalar mark none none [] .plain

/-- Whether a node counts as left out: a plain scalar of no characters. -/
def isVoid : Node → Bool
  | scalar _ _ _ text style => text.isEmpty && style = .plain
  | _ => false

mutual

/-- The last node, in the order of the text, that carries an anchor. -/
def find? (anchor : Nat) : Node → Option Node
  | scalar mark number tag text style =>
    if number = some anchor then some (scalar mark number tag text style) else none
  | sequence mark number items =>
    (findInItems? anchor items).or
      (if number = some anchor then some (sequence mark number items) else none)
  | mapping mark number entries =>
    (findInEntries? anchor entries).or
      (if number = some anchor then some (mapping mark number entries) else none)
  | aliasOf _ _ => none
  | cut => none

/-- The last node with an anchor among items. -/
def findInItems? (anchor : Nat) : List Node → Option Node
  | [] => none
  | item :: rest => (findInItems? anchor rest).or (item.find? anchor)

/-- The last node with an anchor among the keys and values of entries. -/
def findInEntries? (anchor : Nat) : List (Node × Node) → Option Node
  | [] => none
  | (key, value) :: rest =>
    ((findInEntries? anchor rest).or (value.find? anchor)).or (key.find? anchor)

end

end Node

/-! ## From events -/

/-- The names of anchors with their numbers, the latest first. -/
abbrev AnchorNames := List (List Char × Nat)

namespace AnchorNames

/-- The number of different names. -/
def count (names : AnchorNames) : Nat :=
  (names.map (·.1)).eraseDups.length

/-- Gives a name the next number. -/
def define (names : AnchorNames) (name : List Char) : AnchorNames :=
  (name, names.count) :: names

/-- The number of a name. -/
def number? (names : AnchorNames) (name : List Char) : Option Nat :=
  (names.find? fun entry => entry.1 = name).map (·.2)

end AnchorNames

/-- What ends a document before its end. -/
inductive DocumentError where
  | badText (error : SyntaxError)
  | unknownAnchor (mark : Mark)
  deriving DecidableEq, Repr

/-- The state of building nodes: the events that are left, without those behind an alias of no
anchor, and the names of anchors so far. -/
structure Builder where
  events : List Event
  names : AnchorNames
  error? : Option DocumentError
  deriving Repr

namespace Builder

/-- The builder behind the first event. -/
def skip (builder : Builder) : Builder :=
  { builder with events := builder.events.drop 1 }

/-- The builder behind the beginning of a node, which may define an anchor. -/
def enter (builder : Builder) (properties : Properties) : Option Nat × Builder :=
  match properties.anchor? with
  | some name =>
    let names := builder.names.define name
    (names.number? name, { builder.skip with names := names })
  | none => (none, builder.skip)

/-- Ends the document at an alias of no anchor. -/
def stop (builder : Builder) (mark : Mark) : Builder :=
  ⟨[], builder.names, some (.unknownAnchor mark)⟩

mutual

/-- Builds a node; the fuel bounds the number of events. -/
def node : Nat → Builder → Node × Builder
  | 0, builder => (.cut, builder)
  | fuel + 1, builder =>
    match builder.events with
    | [] => (.cut, builder)
    | event :: _ =>
      match event.kind with
      | .aliasOf name =>
        match builder.names.number? name with
        | some number => (.aliasOf event.mark number, builder.skip)
        | none => (.cut, builder.stop event.mark)
      | .scalar properties text style =>
        let (number, builder) := builder.enter properties
        (.scalar event.mark number properties.tag? text style, builder)
      | .sequenceStart properties =>
        let (number, builder) := builder.enter properties
        let (nodes, builder) := items fuel builder
        (.sequence event.mark number nodes, builder)
      | .mappingStart properties =>
        let (number, builder) := builder.enter properties
        let (nodes, builder) := entries fuel builder
        (.mapping event.mark number nodes, builder)
      | _ => (.cut, builder)

/-- Builds the items of a sequence up to and with its end. -/
def items : Nat → Builder → List Node × Builder
  | 0, builder => ([.cut], builder)
  | fuel + 1, builder =>
    match builder.events with
    | [] => ([.cut], builder)
    | event :: _ =>
      if event.kind = .sequenceEnd then ([], builder.skip)
      else
        let (first, builder) := node fuel builder
        let (rest, builder) := items fuel builder
        (first :: rest, builder)

/-- Builds the entries of a mapping up to and with its end. -/
def entries : Nat → Builder → List (Node × Node) × Builder
  | 0, builder => ([(.cut, .cut)], builder)
  | fuel + 1, builder =>
    match builder.events with
    | [] => ([(.cut, .cut)], builder)
    | event :: _ =>
      if event.kind = .mappingEnd then ([], builder.skip)
      else
        let (key, builder) := node fuel builder
        let (value, builder) := node fuel builder
        let (rest, builder) := entries fuel builder
        ((key, value) :: rest, builder)

end

end Builder

/-- The first document of a text. -/
structure Document where
  root : Node
  /-- What ends the document before its end. -/
  error? : Option DocumentError
  /-- Whether anything but the end of the text follows. -/
  hasMore : Bool
  deriving Repr

namespace Document

/-- The first document of events. A text without any holds a node without content. -/
def ofEvents (events : List Event) (error? : Option SyntaxError) : Document :=
  match events with
  | [] => ⟨.cut, error?.map .badText, false⟩
  | first :: rest =>
    if first.kind = .documentStart then
      let (root, builder) := Builder.node (rest.length + 1) ⟨rest, [], none⟩
      match builder.error?, builder.events with
      | some error, _ => ⟨root, some error, true⟩
      | none, [] => ⟨root, error?.map .badText, true⟩
      | none, _ :: behind =>
        ⟨root, none, !(behind.head?.any fun event => event.kind = .streamEnd)⟩
    else ⟨.void first.mark, none, false⟩

/-- The first document of a text. -/
def ofText (text : String) : Document :=
  let tokens := Tokens.ofText text
  let events := Events.ofTokens tokens.tokens tokens.error?
  ofEvents events.events events.error?

/-- The node that a node stands for: that of an alias, or itself. -/
def target (document : Document) (node : Node) : Node :=
  match node with
  | .aliasOf _ anchor => (document.root.find? anchor).getD .cut
  | _ => node

end Document

end FixtureHarness.Yaml
