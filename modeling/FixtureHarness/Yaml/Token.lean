import FixtureHarness.Yaml.Mark

/-! # Tokens

The words of a YAML text. Indentation shows as tokens that open and close block collections.
-/

namespace FixtureHarness.Yaml

/-- How a scalar was written. -/
inductive ScalarStyle where
  | plain
  | quoted
  | block
  deriving DecidableEq, Repr

/-- What a token is. -/
inductive TokenKind where
  | streamEnd
  | versionDirective (major minor : Nat)
  | tagDirective (handle uri : List Char)
  | documentStart
  | documentEnd
  | blockSequenceStart
  | blockMappingStart
  | blockEnd
  | flowSequenceStart
  | flowSequenceEnd
  | flowMappingStart
  | flowMappingEnd
  | blockEntry
  | flowEntry
  | key
  | value
  | aliasOf (name : List Char)
  | anchor (name : List Char)
  | tag (handle suffix : List Char)
  | scalar (text : List Char) (style : ScalarStyle)
  deriving DecidableEq, Repr

/-- A token between two marks. -/
structure Token where
  kind : TokenKind
  start : Mark
  stop : Mark
  deriving DecidableEq, Repr

end FixtureHarness.Yaml
