import FixtureHarness.Shell.Pattern
import FixtureHarness.Shell.Tool.Grep.Settings

/-! # Names of files to search

Names are taken or left by patterns. Where directories are entered, what is in them is searched in
the order of names.
-/

namespace FixtureHarness.Shell.Grep

/-- Whether a pattern matches a name, or what stands behind one of its slashes. -/
def NameRule.fits (rule : NameRule) (isOperand : Bool) (name : Octets) : Bool :=
  let pattern := Pattern.ofGlyphs (rule.pattern.map fun char => ⟨char, false⟩)
  let parts := (List.range name.length).filterMap fun index =>
    match name.drop index with
    | '/' :: next :: rest => if next = '/' then none else some (next :: rest)
    | _ => none
  pattern.isMatch name || (isOperand && parts.any pattern.isMatch)

/-- Whether rules leave a name out. The last rule that fits decides; if none does, the first rule
says what happens to all others. -/
def leavesOut (rules : List NameRule) (isOperand : Bool) (name : Octets) : Bool :=
  match rules.reverse.find? fun rule => rule.fits isOperand name with
  | some rule => !rule.includes
  | none => rules.head?.any fun rule => rule.includes

/-- Whether a file is left out. -/
def Settings.skipsFile (settings : Settings) (isOperand : Bool) (name : Octets) : Bool :=
  leavesOut settings.fileRules isOperand name

/-- Whether a directory is left out. -/
def Settings.skipsDirectory (settings : Settings) (isOperand : Bool) (name : Octets) : Bool :=
  leavesOut settings.directoryRules isOperand name

/-- One name behind another. -/
def below (name part : Octets) : Octets :=
  if name.getLast? = some '/' then name ++ part else name ++ '/' :: part

/-- The names in a directory, in order. -/
def namesIn (files : FileTree) (location : Location) : List (List Char) :=
  let inside := files.entries.filterMap fun entry =>
    if entry.1.length = location.length + 1 && location.isPrefixOf entry.1 then entry.1.getLast?
    else none
  inside.mergeSort fun left right => String.ofList left ≤ String.ofList right

/-- The files in a directory and in those below it. -/
def filesBelow (settings : Settings) (files : FileTree) :
    Nat → Location → Octets → List Octets
  | 0, _, _ => []
  | fuel + 1, location, name =>
    (namesIn files location).flatMap fun part =>
      let partName := Octets.ofString (String.ofList part)
      let inner := location ++ [part]
      if files.hasDirectory inner then
        if settings.skipsDirectory false partName then []
        else filesBelow settings files fuel inner (below name partName)
      else if settings.skipsFile false partName then []
      else [below name partName]

/-- Something to search. -/
structure Source where
  /-- The name it is opened by. -/
  name : Octets
  /-- The name it is shown by. -/
  shownName : Octets
  /-- Whether it was found in a directory. -/
  isInside : Bool
  deriving DecidableEq, Repr

/-- What is to be searched for an operand. -/
def sourcesOf (settings : Settings) (files : FileTree) (name : Octets) : List Source :=
  if name = ['-'] then
    [⟨name, settings.label?.getD "(standard input)".toList, false⟩]
  else
    match files.locate (pathOf name) with
    | .error _ => [⟨name, name, false⟩]
    | .ok location =>
      if files.hasDirectory location then
        if settings.skipsDirectory true name then []
        else
          match settings.directories with
          | .read => [⟨name, name, false⟩]
          | .skipped => []
          | .entered =>
            (filesBelow settings files (files.entries.length + 1) location name).map fun inner =>
              ⟨inner, inner, true⟩
      else if settings.skipsFile true name then []
      else [⟨name, name, false⟩]

/-- What is to be searched without operands: standard input, or the working directory if directories
are entered. -/
def defaultSources (settings : Settings) (files : FileTree) : List Source :=
  if settings.directories = .entered then
    (filesBelow settings files (files.entries.length + 1) files.working ['.']).map fun inner =>
      ⟨inner, inner.drop 2, true⟩
  else sourcesOf settings files ['-']

end FixtureHarness.Shell.Grep
