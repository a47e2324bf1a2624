import FixtureHarness.Text.Utf8
import FixtureHarness.Yaml.Cursor

/-! # Anchors, aliases and tags

The properties of a node. A tag is read as a handle, which a directive may define, and a suffix; an
escaped octet in it counts as the character that the octets encode.
-/

namespace FixtureHarness.Yaml.Property

/-! ## Anchors and aliases -/

/-- Whether a character may follow the name of an anchor or alias. -/
def endsName (char : Char) : Bool :=
  isSpace char || char = '?' || char = ':' || char = ',' || char = ']' || char = '\x7d' ||
    char = '%' || char = '@' || char = '\x60'

/-- Reads the name of an anchor or alias behind its first character. -/
def readName (activity : String) : Scanner (List Char) := fun cursor =>
  let (name, behind) := (cursor.skip 1).span isWordChar
  if name.isEmpty || !nextOrEnd endsName behind.head? then
    behind.failIn activity cursor.mark "did not find expected alphabetic or numeric character"
  else .ok (name, behind)

/-! ## Tags -/

/-- Where a tag stands: on a node or in a directive. -/
inductive Place where
  | node
  | directive
  deriving DecidableEq, Repr

namespace Place

/-- What is being read when a handle is at fault. -/
def handleActivity : Place → String
  | node => "while scanning a tag"
  | directive => "while scanning a tag directive"

/-- What is being read when a tag is at fault. -/
def uriActivity : Place → String
  | node => "while parsing a tag"
  | directive => "while parsing a %TAG directive"

end Place

/-- Whether a character may stand in any part of a tag. -/
def isUriChar (char : Char) : Bool :=
  isWordChar char || ";/?:@&=+$.%!~*'()".toList.contains char

/-- Whether a character may stand in a whole tag or a prefix. -/
def isWholeUriChar (char : Char) : Bool :=
  isUriChar char || char = ',' || char = '[' || char = ']'

/-- The number of octets of the character that begins with this octet. -/
def octetCount? (octet : Nat) : Option Nat :=
  if octet < 0x80 then some 1
  else if octet / 0x20 = 6 then some 2
  else if octet / 0x10 = 14 then some 3
  else if octet / 0x08 = 30 then some 4
  else none

/-- Reads one escaped octet. -/
def readOctet (place : Place) (start : Mark) : Scanner Nat := fun cursor =>
  match cursor.rest.take 3 with
  | ['%', high, low] =>
    match hexValue? high, hexValue? low with
    | some high, some low => .ok (high * 16 + low, cursor.skip 3)
    | _, _ => cursor.failIn place.uriActivity start "did not find URI escaped octet"
  | _ => cursor.failIn place.uriActivity start "did not find URI escaped octet"

/-- Reads the octets that go on with a character. -/
def readTrailing (place : Place) (start : Mark) : Nat → Scanner (List UInt8)
  | 0, cursor => .ok ([], cursor)
  | count + 1, cursor => do
    let (octet, behind) ← readOctet place start cursor
    if octet / 0x40 ≠ 2 then
      cursor.failIn place.uriActivity start "found an incorrect trailing UTF-8 octet"
    else
      let (octets, behind) ← readTrailing place start count behind
      .ok (UInt8.ofNat octet :: octets, behind)

/-- Reads a character written as escaped octets. -/
def readEscaped (place : Place) (start : Mark) : Scanner (List Char) := fun cursor => do
  let (octet, behind) ← readOctet place start cursor
  match octetCount? octet with
  | none => cursor.failIn place.uriActivity start "found an incorrect leading UTF-8 octet"
  | some count =>
    let (octets, behind) ← readTrailing place start (count - 1) behind
    .ok (Utf8.decodeLossy (UInt8.ofNat octet :: octets), behind)

/-- Reads the characters of a tag that belong to a class; the fuel bounds their number. -/
def readUriChars (place : Place) (start : Mark) (isMember : Char → Bool) :
    Nat → Scanner (List Char)
  | 0, cursor => .ok ([], cursor)
  | fuel + 1, cursor =>
    match cursor.head? with
    | none => .ok ([], cursor)
    | some char =>
      if !isMember char then .ok ([], cursor)
      else do
        let (chars, cursor) ←
          if char = '%' then readEscaped place start cursor else .ok ([char], cursor.skip 1)
        let (more, cursor) ← readUriChars place start isMember fuel cursor
        .ok (chars ++ more, cursor)

/-- What counts of a part of a tag: the characters before the first NUL. -/
def counted (part : List Char) : List Char :=
  part.takeWhile (· ≠ '\x00')

/-- Reads the part of a tag behind a head that was read before; together they may not be empty. -/
def readUri (place : Place) (start : Mark) (isMember : Char → Bool) (head : List Char) :
    Scanner (List Char) := fun cursor => do
  let (uri, behind) ← readUriChars place start isMember (cursor.rest.length + 1) cursor
  if head.isEmpty && uri.isEmpty then
    behind.failIn place.uriActivity start "did not find expected tag URI"
  else .ok (counted (head.drop 1 ++ uri), behind)

/-- Reads a handle: an exclamation mark, a word, and in a directive a second mark unless the word is
empty. -/
def readHandle (place : Place) (start : Mark) : Scanner (List Char) := fun cursor =>
  if cursor.head? ≠ some '!' then
    cursor.failIn place.handleActivity start "did not find expected '!'"
  else
    let (word, behind) := (cursor.skip 1).span isWordChar
    if behind.head? = some '!' then .ok ('!' :: word ++ ['!'], behind.skip 1)
    else if place = .directive && !word.isEmpty then
      behind.failIn "while parsing a tag directive" start "did not find expected '!'"
    else .ok ('!' :: word, behind)

/-- Reads the handle and the suffix of a tag. The tag `!` alone has no handle. -/
def readTagParts : Scanner (List Char × List Char) := fun cursor => do
  let start := cursor.mark
  if cursor.ahead? 1 = some '<' then
    let (uri, cursor) ← readUri .node start isWholeUriChar [] (cursor.skip 2)
    if cursor.head? = some '>' then .ok (([], uri), cursor.skip 1)
    else cursor.failIn "while scanning a tag" start "did not find the expected '>'"
  else
    let (handle, cursor) ← readHandle .node start cursor
    if 2 ≤ handle.length && handle.getLast? = some '!' then
      let (suffix, cursor) ← readUri .node start isUriChar [] cursor
      .ok ((handle, suffix), cursor)
    else
      let (suffix, cursor) ← readUri .node start isUriChar handle cursor
      if suffix.isEmpty then .ok (([], ['!']), cursor) else .ok ((['!'], suffix), cursor)

/-- Reads a tag, which has to end before a space, or before a comma inside flow collections. -/
def readTag (inFlow : Bool) : Scanner (List Char × List Char) := fun cursor => do
  let (parts, behind) ← readTagParts cursor
  if nextOrEnd isSpace behind.head? || (inFlow && behind.head? = some ',') then .ok (parts, behind)
  else
    behind.failIn "while scanning a tag" cursor.mark
      "did not find expected whitespace or line break"

end FixtureHarness.Yaml.Property
