import FixtureHarness.Shell.Tool.Grep.Finder

/-! # Showing what was selected

Before a line stand the name of its file, its number and its offset, as far as they are wanted. Lines
around selected ones are shown with a dash in place of the colon, and a separator stands between
groups of lines that do not follow each other.
-/

namespace FixtureHarness.Shell.Grep

/-- A line of a file. -/
structure Line where
  text : Octets
  number : Nat
  /-- How many bytes stand before the line. -/
  offset : Nat
  selected : Bool
  deriving DecidableEq, Repr

/-- The lines of a text. None is selected. -/
def linesOf (lineEnd : Char) (text : Octets) : List Line :=
  let pieces := Text.splitAt lineEnd text
  let pieces := if pieces.getLast? = some [] then pieces.dropLast else pieces
  let step (state : List Line × Nat × Nat) (piece : Octets) : List Line × Nat × Nat :=
    (⟨piece, state.2.1, state.2.2, false⟩ :: state.1, state.2.1 + 1,
      state.2.2 + piece.length + 1)
  (pieces.foldl step ([], 1, 0)).1.reverse

/-- How the lines of one file are shown. -/
structure Display where
  settings : Settings
  finder : Finder
  /-- The name of the file. -/
  name : Octets
  showsName : Bool
  /-- How many columns numbers take. -/
  width : Nat

namespace Display

/-- A text in a color. -/
def paint (display : Display) (color : String) (text : Octets) : Octets :=
  if display.settings.colored then
    "\x1b[".toList ++ color.toList ++ "m\x1b[K".toList ++ text ++ "\x1b[m\x1b[K".toList
  else text

/-- A mark between the parts of a line. -/
def mark (display : Display) (char : Char) : Octets :=
  display.paint "36" [char]

/-- The name of the file. -/
def shownName (display : Display) : Octets :=
  display.paint "35" display.name

/-- The name of the file with what separates it from what follows. -/
def leadingName (display : Display) (char : Char) : Octets :=
  if !display.showsName then []
  else if display.settings.nulNames then display.shownName ++ ['\x00']
  else display.shownName ++ display.mark char

/-- A number, right in its columns. -/
def shownNumber (display : Display) (number : Nat) (char : Char) : Octets :=
  let digits := Nat.toDigits 10 number
  let padded := List.replicate (display.width - digits.length) ' ' ++ digits
  display.paint "32" padded ++ display.mark char

/-- What stands before a text of a line. -/
def heading (display : Display) (line : Line) (offset : Nat) (char : Char) (isEmpty : Bool) :
    Octets :=
  let settings := display.settings
  let hasHeading := display.showsName || settings.numbers || settings.offsets
  display.leadingName char ++
    (if settings.numbers then display.shownNumber line.number char else []) ++
    (if settings.offsets then display.shownNumber offset char else []) ++
    (if settings.tabs && hasHeading && !isEmpty then ['\t'] else [])

/-- Only what matches in a line. -/
def onlyMatches (display : Display) (line : Line) : Octets :=
  let char := if display.settings.inverted then '-' else ':'
  (display.finder.matchesIn line.text).flatMap fun found =>
    display.heading line (line.offset + found.start) char false ++
      display.paint "01;31" found.text ++ [display.settings.lineEnd]

/-- A text from an offset on, with some matches in color. -/
def highlighted (display : Display) : Nat → Octets → List Regex.Match → Octets
  | _, text, [] => text
  | offset, text, found :: rest =>
    text.take (found.start - offset) ++ display.paint "01;31" found.text ++
      highlighted display found.stop.offset (text.drop (found.stop.offset - offset)) rest

/-- A line, whether it was selected or stands around one that was. -/
def line (display : Display) (line : Line) : Octets :=
  let settings := display.settings
  let matching := line.selected != settings.inverted
  if settings.onlyMatching then if matching then display.onlyMatches line else []
  else
    let text :=
      if settings.colored && matching then
        display.highlighted 0 line.text (display.finder.matchesIn line.text)
      else line.text
    display.heading line line.offset (if line.selected then ':' else '-') line.text.isEmpty ++
      text ++ [settings.lineEnd]

/-! ## Lines around -/

/-- The number of lines that are shown before a selected one. -/
def linesBefore (display : Display) : Nat :=
  ((display.settings.before?).or display.settings.around?).getD 0

/-- The number of lines that are shown behind a selected one. -/
def linesAfter (display : Display) : Nat :=
  ((display.settings.after?).or display.settings.around?).getD 0

/-- Whether lines around selected ones are asked for, if only none of them. -/
def hasContext (display : Display) : Bool :=
  display.settings.around?.isSome || display.settings.before?.isSome ||
    display.settings.after?.isSome

/-- Whether one of the next lines is selected. -/
def selectedWithin (count : Nat) (lines : List Line) : Bool :=
  (lines.take count).any fun line => line.selected

/-- The groups of lines that follow each other and are shown. `left` says how many lines more are
shown because of a selected one before them. -/
def groups (display : Display) : Nat → List Line → List (List Line)
  | _, [] => []
  | left, line :: rest =>
    let left := if line.selected then display.linesAfter + 1 else left
    if left = 0 && !selectedWithin display.linesBefore rest then groups display 0 rest
    else
      let isLast :=
        match rest with
        | [] => true
        | next :: more =>
          !(next.selected || 1 < left || selectedWithin display.linesBefore more)
      if isLast then [line] :: groups display (left - 1) rest
      else
        match groups display (left - 1) rest with
        | [] => [[line]]
        | group :: others => (line :: group) :: others

/-- The line between groups. -/
def separator (display : Display) : Octets :=
  match display.hasContext, display.settings.separator? with
  | true, some separator => display.paint "36" separator ++ ['\n']
  | _, _ => []

/-- The groups of lines of a file, with separators. A separator stands before the first as well if
something was selected in files before. -/
def lines (display : Display) (isFirst : Bool) (lines : List Line) : Octets :=
  let shown := (display.groups 0 lines).map fun group => group.flatMap display.line
  match shown with
  | [] => []
  | first :: rest =>
    (if isFirst then [] else display.separator) ++ first ++
      rest.flatMap fun group => display.separator ++ group

end Display

end FixtureHarness.Shell.Grep
