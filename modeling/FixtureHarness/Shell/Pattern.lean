import FixtureHarness.Shell.Script

/-! # Patterns

A pattern matches a whole text: `?` stands for any character, `*` for any number of them, and
brackets for a set. A character that is quoted stands for itself.
-/

namespace FixtureHarness.Shell

/-- A character of a word after its expansion. -/
structure Glyph where
  char : Char
  quoted : Bool
  deriving DecidableEq, Repr

namespace Glyph

/-- Whether a glyph is a sign of patterns. -/
def isSign (sign : Char) (glyph : Glyph) : Bool :=
  glyph.char = sign && !glyph.quoted

/-- The text of glyphs. -/
def text (glyphs : List Glyph) : Octets :=
  glyphs.map (·.char)

/-- Whether glyphs begin with unquoted characters. -/
def beginsWith : Octets → List Glyph → Bool
  | [], _ => true
  | _ :: _, [] => false
  | char :: chars, glyph :: glyphs => glyph.isSign char && beginsWith chars glyphs

end Glyph

/-- A pattern. -/
abbrev Pattern := List Glyph

namespace Pattern

/-- The pattern that glyphs stand for: an unquoted backslash quotes what follows it. -/
def ofGlyphs : List Glyph → Pattern
  | [] => []
  | [glyph] => [glyph]
  | glyph :: next :: rest =>
    if glyph.isSign '\\' then ⟨next.char, true⟩ :: ofGlyphs rest
    else glyph :: ofGlyphs (next :: rest)

/-! ## Sets -/

/-- A number of an octet by which ranges are ordered: octets beyond ASCII come before it. -/
def rank (char : Char) : Int :=
  if char.toNat < 128 then char.toNat else (char.toNat : Int) - 256

/-- The named sets. -/
def namedSets : List (String × (Char → Bool)) :=
  let isPunctuation (char : Char) : Bool := '!' ≤ char && char ≤ '~' && !char.isAlphanum
  [(":alnum:]", Char.isAlphanum), (":alpha:]", Char.isAlpha),
    (":blank:]", fun char => char = ' ' || char = '\t'),
    (":cntrl:]", fun char => char < ' ' || char = '\x7f'), (":digit:]", Char.isDigit),
    (":graph:]", fun char => '!' ≤ char && char ≤ '~'), (":lower:]", Char.isLower),
    (":print:]", fun char => ' ' ≤ char && char ≤ '~'), (":punct:]", isPunctuation),
    (":space:]", fun char => char = ' ' || ('\t' ≤ char && char ≤ '\r')),
    (":upper:]", Char.isUpper),
    (":xdigit:]", fun char => char.isDigit || ('a' ≤ char && char ≤ 'f') ||
      ('A' ≤ char && char ≤ 'F'))]

/-- The named set whose name glyphs begin with, and the glyphs behind it. -/
def namedSet? (glyphs : List Glyph) : Option ((Char → Bool) × List Glyph) :=
  (namedSets.find? fun entry => Glyph.beginsWith entry.1.toList glyphs).map fun entry =>
    (entry.2, glyphs.drop entry.1.length)

/-- Whether a character is in the set behind an opening bracket, and what follows the set. A closing
bracket that comes first belongs to the set. There is no answer if the set has no end. -/
def inSet (char : Char) : Nat → Bool → List Glyph → Option (Bool × Pattern)
  | 0, _, _ => none
  | _, _, [] => none
  | fuel + 1, isFirst, glyph :: rest =>
    if glyph.isSign ']' && !isFirst then some (false, rest)
    else
      let among (holds : Bool) (rest : List Glyph) : Option (Bool × Pattern) :=
        (inSet char fuel false rest).map fun (others, rest) => (holds || others, rest)
      match if glyph.isSign '[' then namedSet? rest else none with
      | some (holds, rest) => among (holds char) rest
      | none =>
        match rest with
        | dash :: last :: behind =>
          if dash.isSign '-' && !last.isSign ']' then
            among (decide (rank glyph.char ≤ rank char) && decide (rank char ≤ rank last.char))
              behind
          else among (char = glyph.char) rest
        | _ => among (char = glyph.char) rest

/-- Whether a character is in the set behind an opening bracket, which an exclamation mark negates,
and what follows the set. -/
def inBrackets (char : Char) (glyphs : List Glyph) : Option (Bool × Pattern) :=
  match glyphs with
  | [] => none
  | first :: rest =>
    if first.isSign '!' then
      (inSet char (rest.length + 1) true rest).map fun (holds, rest) => (!holds, rest)
    else inSet char (glyphs.length + 1) true glyphs

/-! ## Matching -/

/-- Whether a pattern matches a whole text. The fuel bounds the length of both. -/
def matchesWithin : Nat → Pattern → Octets → Bool
  | 0, _, _ => false
  | _, [], text => text.isEmpty
  | fuel + 1, glyph :: rest, text =>
    if glyph.isSign '*' then
      matchesWithin fuel rest text ||
        match text with
        | [] => false
        | _ :: behind => matchesWithin fuel (glyph :: rest) behind
    else
      match text with
      | [] => false
      | char :: behind =>
        if glyph.isSign '?' then matchesWithin fuel rest behind
        else
          match if glyph.isSign '[' then inBrackets char rest else none with
          | some (holds, rest) => holds && matchesWithin fuel rest behind
          | none => char = glyph.char && matchesWithin fuel rest behind

/-- Whether a pattern matches a whole text, which a NUL ends. -/
def isMatch (pattern : Pattern) (text : Octets) : Bool :=
  let text := text.takeWhile (· ≠ '\x00')
  matchesWithin (pattern.length + text.length + 1) pattern text

/-! ## Trimming -/

/-- How much of the start of a value a pattern takes, trying the given lengths in turn. -/
def startSize? (pattern : Pattern) (value : Octets) (sizes : List Nat) : Option Nat :=
  sizes.find? fun size => pattern.isMatch (value.take size)

/-- How much of the end of a value a pattern takes, trying the given lengths in turn. -/
def endSize? (pattern : Pattern) (value : Octets) (sizes : List Nat) : Option Nat :=
  sizes.find? fun size => pattern.isMatch (value.drop (value.length - size))

/-- A value without what a pattern takes away. -/
def trim (kind : Trim) (pattern : Pattern) (value : Octets) : Octets :=
  let sizes := List.range (value.length + 1)
  let dropEnd (size : Nat) := value.take (value.length - size)
  match kind with
  | .shortestStart => value.drop ((pattern.startSize? value sizes).getD 0)
  | .longestStart => value.drop ((pattern.startSize? value sizes.reverse).getD 0)
  | .shortestEnd => dropEnd ((pattern.endSize? value sizes).getD 0)
  | .longestEnd => dropEnd ((pattern.endSize? value sizes.reverse).getD 0)

end Pattern

end FixtureHarness.Shell
