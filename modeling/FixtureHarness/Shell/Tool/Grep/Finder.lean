import FixtureHarness.Shell.Tool.Grep.Settings
import FixtureHarness.Text.Regex.Perl.Reader
import FixtureHarness.Text.Regex.Posix

/-! # What patterns find

Patterns become expressions: one that selects lines, and one that says which parts of them match.
The two are different only for oddly written patterns.
-/

namespace FixtureHarness.Shell.Grep

/-- What is looked for in lines. -/
structure Finder where
  /-- Matches somewhere in the lines that are selected. -/
  selecting : Regex
  /-- Matches the parts of lines that are shown. -/
  showing : Regex
  preference : Regex.Preference

namespace Finder

/-- Whether a line matches. -/
def fits (finder : Finder) (line : Octets) : Bool :=
  finder.selecting.occursIn line

/-- The matches from a place on that are not empty. -/
def matchesFrom (finder : Finder) : Nat → TextPlace → List Regex.Match
  | 0, _ => []
  | fuel + 1, place =>
    match finder.showing.find? finder.preference place with
    | none => []
    | some found =>
      if found.text.isEmpty then
        match found.stop.next? with
        | none => []
        | some (_, next) => matchesFrom finder fuel next
      else found :: matchesFrom finder fuel found.stop

/-- The matches in a line that are not empty. -/
def matchesIn (finder : Finder) (line : Octets) : List Regex.Match :=
  finder.matchesFrom (line.length + 1) (TextPlace.start line)

end Finder

/-- The text about a basic or extended expression that cannot be read. -/
def faultText : Regex.Fault → String
  | .bareBracket => "Invalid regular expression"
  | .unclosedBracket => "Unmatched [, [^, [:, [., or [="
  | .badRange => "Invalid range end"
  | .badClassName => "Invalid character class name"
  | .badCharacterName => "Invalid collation character"
  | .trailingBackslash => "Trailing backslash"
  | .badReference => "Invalid back reference"
  | .unclosedGroup => "Unmatched ( or \\("
  | .unopenedGroup => "Unmatched ) or \\)"
  | .unclosedBounds => "Unmatched \\\x7b"
  | .badBounds => "Invalid content of \\\x7b\\\x7d"
  | .tooManyTimes => "Regular expression too big"

/-- An expression that has to match a word or a line if the settings ask for that. -/
def bounded (settings : Settings) (expression : Regex) : Regex :=
  if settings.wholeLines then
    .sequence (.edge .textStart) (.sequence expression (.edge .textEnd))
  else if settings.wholeWords then
    .sequence (.edge .noWordBefore) (.sequence expression (.edge .noWordBehind))
  else expression

/-- The finder of some expressions. -/
def finderOf (settings : Settings) (selecting showing : List Regex) : Finder :=
  let whole (expressions : List Regex) : Regex :=
    (bounded settings ((Regex.anyOf? expressions).getD .nothing)).forgetful
  let showing := whole showing
  let selecting := whole selecting
  ⟨if showing.references.isEmpty then selecting else showing, showing, .longest⟩

/-- What patterns come to. -/
structure Search where
  finder? : Option Finder
  /-- What is to be said about the patterns, without the name of the tool. -/
  messages : List Octets

namespace Search

/-- The search for fixed texts. -/
def ofFixed (settings : Settings) (patterns : List PatternLine) : Search :=
  let one (char : Char) : Regex :=
    .one (if settings.anyCase then (CharSet.single char).withBothCases else .single char)
  let expressions := patterns.map fun pattern => Regex.chain (pattern.text.map one)
  ⟨some (finderOf settings expressions expressions), []⟩

/-- The message about a bad pattern. -/
def complaint (pattern : PatternLine) (fault : Regex.Fault) : Octets :=
  let origin := pattern.origin?.map fun (name, line) =>
    name ++ ':' :: (toString line).toList ++ ": ".toList
  origin.getD [] ++ (faultText fault).toList

/-- The remarks up to the first that forbids the search, and whether there is such a one. -/
def splitRemarks : List Regex.Posix.Remark → List Octets × Bool
  | [] => ([], false)
  | .bareClass :: _ => (["character class syntax is [[:space:]], not [:space:]".toList], true)
  | .atStart sign :: rest =>
    let (messages, forbidden) := splitRemarks rest
    (("warning: ".toList ++ sign.toList ++ " at start of expression".toList) :: messages,
      forbidden)

/-- The search for basic or extended expressions. All that is wrong with any of them is told. -/
def ofPosix (settings : Settings) (dialect : Regex.Posix.Dialect) (patterns : List PatternLine) :
    Search :=
  let read (purpose : Regex.Posix.Purpose) (pattern : PatternLine) :=
    Regex.Posix.read ⟨dialect, settings.anyCase, purpose⟩ pattern.text
  let complaints := patterns.filterMap fun pattern =>
    match read .showing pattern with
    | .error fault => some (complaint pattern fault)
    | .ok _ => none
  if !complaints.isEmpty then ⟨none, complaints⟩
  else
    let outcomes (purpose : Regex.Posix.Purpose) : List Regex.Posix.Outcome :=
      patterns.filterMap fun pattern =>
        (read purpose pattern).toOption.or (read .showing pattern).toOption
    let (messages, forbidden) :=
      splitRemarks ((outcomes .selecting).flatMap fun outcome => outcome.remarks)
    if forbidden then ⟨none, messages⟩
    else
      let expressions (purpose : Regex.Posix.Purpose) : List Regex :=
        (outcomes purpose).map fun outcome => outcome.expression
      ⟨some (finderOf settings (expressions .selecting) (expressions .showing)), messages⟩

/-- The search for a Perl expression. -/
def ofPerl (settings : Settings) (patterns : List PatternLine) : Search :=
  match patterns with
  | [pattern] =>
    match Regex.Perl.read settings.anyCase pattern.text with
    | .error fault => ⟨none, [fault.message.toList]⟩
    | .ok expression =>
      let expression := (bounded settings expression).forgetful
      ⟨some ⟨expression, expression, .first⟩, []⟩
  | _ => ⟨none, ["the -P option only supports a single pattern".toList]⟩

/-- Leaves out patterns that were given before. -/
def distinct (patterns : List PatternLine) : List PatternLine :=
  let step (kept : List PatternLine) (pattern : PatternLine) : List PatternLine :=
    if kept.any fun other => other.text = pattern.text then kept else pattern :: kept
  (patterns.foldl step []).reverse

/-- The search for some patterns. -/
def ofPatterns (settings : Settings) (patterns : List PatternLine) : Search :=
  let patterns := distinct patterns
  match settings.matcher?.getD .basic with
  | .basic => ofPosix settings .basic patterns
  | .extended => ofPosix settings .extended patterns
  | .fixed => ofFixed settings patterns
  | .perl => ofPerl settings patterns

end Search

end FixtureHarness.Shell.Grep
