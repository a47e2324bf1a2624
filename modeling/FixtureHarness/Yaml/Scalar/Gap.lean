import FixtureHarness.Yaml.Cursor

/-! # Gaps inside flow scalars

Between the words of a plain or quoted scalar there may be blanks and line endings. Blanks inside a
line stay as they are; a single line ending counts as a space, and of several the first is dropped.
-/

namespace FixtureHarness.Yaml

/-- A gap between the words of a scalar. -/
structure Gap where
  /-- The blanks, as long as there is no line ending. -/
  blanks : List Char
  /-- Whether there is a line ending. -/
  broken : Bool
  /-- The first line ending. -/
  first : List Char
  /-- The other line endings. -/
  others : List Char
  deriving DecidableEq, Repr

namespace Gap

/-- No gap. -/
def none : Gap := ⟨[], false, [], []⟩

/-- The gap behind a line ending that was escaped and does not count. -/
def escaped : Gap := ⟨[], true, [], []⟩

/-- What a gap counts as in the text of a scalar. -/
def text (gap : Gap) : List Char :=
  if !gap.broken then gap.blanks
  else if gap.first = ['\n'] then
    if gap.others.isEmpty then [' '] else gap.others
  else gap.first ++ gap.others

/-- A gap with one more blank. -/
def addBlank (gap : Gap) (char : Char) : Gap :=
  if gap.broken then gap else { gap with blanks := gap.blanks ++ [char] }

/-- A gap with one more line ending. -/
def addBreak (gap : Gap) (ending : List Char) : Gap :=
  if gap.broken then { gap with others := gap.others ++ ending }
  else ⟨[], true, ending, gap.others⟩

/-- Reads a gap to its end; the fuel bounds its length. A tab is refused where `refusesTab` says so
of the gap before it and the cursor. -/
def read (refusesTab : Gap → Cursor → Option SyntaxError) : Nat → Gap → Scanner Gap
  | 0, gap, cursor => .ok (gap, cursor)
  | fuel + 1, gap, cursor =>
    match cursor.head? with
    | some char =>
      if isBlank char then
        match refusesTab gap cursor with
        | some error => .error error
        | .none => read refusesTab fuel (gap.addBlank char) (cursor.skip 1)
      else if isBreak char then
        read refusesTab fuel (gap.addBreak cursor.breakText) cursor.skipBreak
      else .ok (gap, cursor)
    | .none => .ok (gap, cursor)

end Gap

end FixtureHarness.Yaml
