import FixtureHarness.Shell.Script

/-! # Sources

A source is the text of scripts that is still to be read. The text of an alias stands before the rest
in a level of its own; an alias is in use until the character behind its text was taken.
-/

namespace FixtureHarness.Shell

/-- The text of an alias that is being read. -/
structure AliasLevel where
  name : Octets
  rest : Octets
  /-- The last character that was taken. -/
  last? : Option Char
  /-- The aliases that were read to their end just before. -/
  retired : List Octets
  deriving DecidableEq, Repr

/-- The text that is still to be read. -/
structure Source where
  rest : Octets
  /-- The aliases that are being read, the innermost first. -/
  levels : List AliasLevel
  /-- The aliases that were just read to their end. -/
  retired : List Octets
  /-- The number of the present line. -/
  line : Nat
  /-- Whether the next word may be an alias, because the last alias ended in a blank. -/
  aliasNext : Bool
  deriving DecidableEq, Repr

namespace Source

/-- The source of a text. -/
def ofText (text : Octets) : Source :=
  ⟨text, [], [], 1, false⟩

/-- Takes a character off the innermost level that has one. -/
def take (rest : Octets) (line : Nat) (aliasNext : Bool) (retired : List Octets) :
    List AliasLevel → Option Char × Source
  | [] =>
    match rest with
    | [] => (none, ⟨[], [], retired, line, aliasNext⟩)
    | char :: rest => (some char, ⟨rest, [], retired, line, aliasNext⟩)
  | level :: outer =>
    match level.rest with
    | char :: more =>
      let level := { level with rest := more, last? := some char }
      (some char, ⟨rest, level :: outer, retired, line, aliasNext⟩)
    | [] =>
      let blank := level.last? = some ' ' || level.last? = some '\t'
      take rest line (aliasNext || blank) (level.name :: level.retired) outer

/-- Takes the next character. -/
def next (source : Source) : Option Char × Source :=
  take source.rest source.line source.aliasNext [] source.levels

/-- Whether the text of an alias is being read. -/
def isUsing (source : Source) (name : Octets) : Bool :=
  source.retired.contains name ||
    source.levels.any fun level => level.name = name || level.retired.contains name

/-- Puts the text of an alias before the rest. -/
def push (source : Source) (name text : Octets) : Source :=
  { source with levels := ⟨name, text, none, source.retired⟩ :: source.levels, retired := [] }

/-- A source at the next line. -/
def nextLine (source : Source) : Source :=
  { source with line := source.line + 1 }

end Source

end FixtureHarness.Shell
