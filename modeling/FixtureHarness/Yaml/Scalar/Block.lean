import FixtureHarness.Yaml.Cursor

/-! # Block scalars

Behind `|` the indented lines that follow are taken as they are, behind `>` they are folded. The
header may fix the indentation and say which of the last line endings are kept.
-/

namespace FixtureHarness.Yaml.Block

/-- What is being read. -/
def activity : String := "while scanning a block scalar"

/-- Which line endings at the end of a scalar are kept. -/
inductive Chomping where
  | strip
  | clip
  | keep
  deriving DecidableEq, Repr

/-- Reads a chomping indicator, if there is one. -/
def readChomping? (cursor : Cursor) : Option (Chomping × Cursor) :=
  match cursor.head? with
  | some '+' => some (.keep, cursor.skip 1)
  | some '-' => some (.strip, cursor.skip 1)
  | _ => none

/-- Reads an indentation indicator, zero if there is none. -/
def readIncrement (start : Mark) : Scanner Nat := fun cursor =>
  match cursor.head? with
  | some char =>
    if char = '0' then cursor.failIn activity start "found an indentation indicator equal to 0"
    else if '1' ≤ char ∧ char ≤ '9' then .ok (char.toNat - 0x30, cursor.skip 1)
    else .ok (0, cursor)
  | none => .ok (0, cursor)

/-- Reads the header behind its first character, with the line it ends. -/
def readHeader (start : Mark) : Scanner (Chomping × Nat) := fun cursor => do
  let (chomping, increment, cursor) ←
    match readChomping? cursor with
    | some (chomping, cursor) => do
      let (increment, cursor) ← readIncrement start cursor
      .ok (chomping, increment, cursor)
    | none => do
      let (increment, behind) ← readIncrement start cursor
      if increment = 0 then .ok (Chomping.clip, 0, behind)
      else
        match readChomping? behind with
        | some (chomping, behind) => .ok (chomping, increment, behind)
        | none => .ok (.clip, increment, behind)
  let cursor := cursor.skipComment
  match cursor.head? with
  | none => .ok ((chomping, increment), cursor)
  | some char =>
    if isBreak char then .ok ((chomping, increment), cursor.skipBreak)
    else cursor.failIn activity start "did not find expected comment or line break"

/-- Empty lines: their endings, the mark behind the last of them and the greatest column reached. -/
structure EmptyLines where
  endings : List Char
  stop : Mark
  width : Nat

/-- Skips indentation, which has no bound while it is being detected. -/
def skipIndent (indent? : Option Nat) (cursor : Cursor) : Cursor :=
  let spaces := (cursor.rest.takeWhile (· = ' ')).length
  match indent? with
  | none => cursor.skip spaces
  | some indent => cursor.skip (min spaces (indent - cursor.mark.column))

/-- Reads empty lines and the indentation behind them; the fuel bounds their number. -/
def readEmptyLines (start : Mark) (indent? : Option Nat) :
    Nat → EmptyLines → Scanner EmptyLines
  | 0, lines, cursor => .ok (lines, cursor)
  | fuel + 1, lines, cursor =>
    let cursor := skipIndent indent? cursor
    let lines := { lines with width := max lines.width cursor.mark.column }
    let shallow :=
      match indent? with
      | none => true
      | some indent => cursor.mark.column < indent
    match cursor.head? with
    | none => .ok (lines, cursor)
    | some char =>
      if shallow && char = '\t' then
        cursor.failIn activity start
          "found a tab character where an indentation space is expected"
      else if isBreak char then
        let behind := cursor.skipBreak
        readEmptyLines start indent? fuel
          { lines with endings := lines.endings ++ cursor.breakText, stop := behind.mark } behind
      else .ok (lines, cursor)

/-- A block scalar while it is read. -/
structure Draft where
  text : List Char
  /-- The ending of the last line. -/
  ending : List Char
  /-- The endings of the empty lines behind it. -/
  trailing : List Char
  /-- Whether the last line begins with a blank. -/
  blankStart : Bool
  stop : Mark

namespace Draft

/-- What lies between the last line and the next, which may begin with a blank. -/
def joint (draft : Draft) (folded blankNext : Bool) : List Char :=
  let ending :=
    if folded && draft.ending = ['\n'] && !draft.blankStart && !blankNext then
      if draft.trailing.isEmpty then [' '] else []
    else draft.ending
  ending ++ draft.trailing

/-- The whole text, with the line endings that are kept at its end. -/
def finish (draft : Draft) (chomping : Chomping) : List Char :=
  match chomping with
  | .strip => draft.text
  | .clip => draft.text ++ draft.ending
  | .keep => draft.text ++ draft.ending ++ draft.trailing

end Draft

/-- Reads the lines of a scalar; the fuel bounds their number. -/
def readLines (folded : Bool) (start : Mark) (indent : Nat) : Nat → Draft → Scanner Draft
  | 0, draft, cursor => .ok (draft, cursor)
  | fuel + 1, draft, cursor =>
    if cursor.mark.column ≠ indent || cursor.rest.isEmpty then .ok (draft, cursor)
    else do
      let blank := next isBlank cursor.head?
      let (line, behind) := cursor.span fun char => !isBreak char
      let after := if behind.rest.isEmpty then behind else behind.skipBreak
      let (empty, cursor) ← readEmptyLines start (some indent) (after.rest.length + 1)
        ⟨[], after.mark, 0⟩ after
      readLines folded start indent fuel
        ⟨draft.text ++ draft.joint folded blank ++ line, behind.breakText, empty.endings, blank,
          empty.stop⟩ cursor

/-- A block scalar: its text and the mark behind it. -/
structure Scalar where
  text : List Char
  stop : Mark

/-- Reads a block scalar from its first character on. `outer` is the indentation around it. -/
def read (folded : Bool) (outer : Int) : Scanner Scalar := fun cursor => do
  let start := cursor.mark
  let ((chomping, increment), cursor) ← readHeader start (cursor.skip 1)
  let fixed? : Option Nat :=
    if increment = 0 then none
    else some (if 0 ≤ outer then outer.toNat + increment else increment)
  let (empty, cursor) ← readEmptyLines start fixed? (cursor.rest.length + 1)
    ⟨[], cursor.mark, 0⟩ cursor
  let indent := fixed?.getD (max empty.width (max (outer + 1).toNat 1))
  let (draft, cursor) ← readLines folded start indent (cursor.rest.length + 1)
    ⟨[], [], empty.endings, false, empty.stop⟩ cursor
  .ok (⟨draft.finish chomping, draft.stop⟩, cursor)

end FixtureHarness.Yaml.Block
