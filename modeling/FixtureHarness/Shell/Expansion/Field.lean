import FixtureHarness.Shell.Pattern
import FixtureHarness.Shell.Session

/-! # Fields

An expanded word is a row of runs. A run says whether it is cut into fields, and its shards are
characters that remember whether they were quoted, and marks where quotes stood, which keep a field
from being dropped. Fields with signs of patterns become the names of files.
-/

namespace FixtureHarness.Shell

/-- A part of an expanded word. -/
inductive Shard where
  | letter (char : Char) (quoted : Bool)
  /-- Quotes stood here. -/
  | mark
  deriving DecidableEq, Repr

/-- How a part of an expanded word is cut into fields. -/
inductive Cut where
  | never
  /-- At the separators and at NUL. -/
  | atSeparators
  /-- At NUL only. -/
  | atNul
  deriving DecidableEq, Repr

/-- Shards that are cut in the same way. -/
structure Run where
  cut : Cut
  shards : List Shard
  deriving DecidableEq, Repr

/-- The character between the arguments where each is a field. -/
def nul : Char := '\x00'

namespace Shard

/-- The shards of a text. -/
def ofText (quoted : Bool) (text : Octets) : List Shard :=
  text.map fun char => .letter char quoted

/-- The characters of shards, each with whether it was quoted. -/
def glyphs (shards : List Shard) : List Glyph :=
  shards.filterMap fun
    | .letter char quoted => some ⟨char, quoted⟩
    | .mark => none

/-- The text of shards. -/
def text (shards : List Shard) : Octets :=
  Glyph.text (glyphs shards)

end Shard

namespace Run

/-- The shards of runs. -/
def shardsOf (runs : List Run) : List Shard :=
  runs.flatMap (·.shards)

/-- The text of runs. -/
def text (runs : List Run) : Octets :=
  Shard.text (shardsOf runs)

/-- A run that is not cut. -/
def whole (shards : List Shard) : Run := ⟨.never, shards⟩

end Run

/-! ## Cutting -/

/-- Fields that are being cut. -/
structure Cutting where
  /-- The fields that have ended, the last first. -/
  ended : List (List Shard)
  /-- The shards of the present field, the last first. -/
  present : List Shard
  /-- How many fields may still end. Without a number all may. The last field takes all that is left
  but white space at its end and a single separator. -/
  room? : Option Nat
  /-- How many shards of the last field are kept if nothing else follows. -/
  kept? : Option Nat
  /-- Whether white space has just ended a field. -/
  afterSpace : Bool
  /-- Whether the run before was cut at NUL only. -/
  afterNulRun : Bool
  /-- Whether the present run is cut at NUL only. -/
  inNulRun : Bool
  deriving Repr

namespace Cutting

/-- No field was cut yet. -/
def start (room? : Option Nat) : Cutting :=
  ⟨[], [], room?, none, false, false, false⟩

/-- Ends the present field. -/
def finish (cutting : Cutting) : Cutting :=
  { cutting with ended := cutting.present.reverse :: cutting.ended, present := [] }

/-- Adds to the present field. -/
def keep (cutting : Cutting) (shard : Shard) : Cutting :=
  { cutting with present := shard :: cutting.present }

/-- Takes a shard of the last field. -/
def takeLast (cutting : Cutting) (shard : Shard) (separates isSpace : Bool) : Cutting :=
  if isSpace then
    { cutting with kept? := some (cutting.kept?.getD cutting.present.length) }.keep shard
  else
    { cutting with
      kept? := if separates && cutting.afterSpace then cutting.kept? else none
      afterSpace := false }.keep shard

/-- Takes a shard that may separate fields. -/
def take (separators : Octets) (cutting : Cutting) (shard : Shard) : Cutting :=
  let (separates, isSpace) :=
    match shard with
    | .mark => (false, false)
    | .letter char _ =>
      let separates := char = nul || (!cutting.inNulRun && separators.contains char)
      (separates, separates && (char = nul || usualSeparators.contains char))
  if cutting.room? = some 0 then cutting.takeLast shard separates isSpace
  else if cutting.afterSpace && separates then { cutting with afterSpace := isSpace }
  else if separates then
    let afterSpace := isSpace && !cutting.afterNulRun && !cutting.inNulRun
    if cutting.present.isEmpty && afterSpace then { cutting with afterSpace := false }
    else
      let cutting :=
        { cutting with room? := cutting.room?.map (· - 1), afterSpace := afterSpace }
      if cutting.room? = some 0 then
        { cutting with kept? := some cutting.present.length }.keep shard
      else cutting.finish
  else { cutting with afterSpace := false }.keep shard

/-- Takes a run. -/
def takeRun (separators : Octets) (cutting : Cutting) (run : Run) : Cutting :=
  match run.cut with
  | .never => { cutting with present := run.shards.reverse ++ cutting.present }
  | cut =>
    let cutting :=
      { cutting with
        afterNulRun := cutting.inNulRun, inNulRun := cut = .atNul, afterSpace := false }
    run.shards.foldl (take separators) cutting

/-- The fields when nothing is left. -/
def fields (cutting : Cutting) : List (List Shard) :=
  let last :=
    match cutting.kept? with
    | some count => cutting.present.drop (cutting.present.length - count)
    | none => cutting.present
  let last? :=
    if cutting.inNulRun then [cutting.present.reverse]
    else if last.isEmpty then []
    else [last.reverse]
  cutting.ended.reverse ++ last?

end Cutting

/-- The fields of an expanded word, at most so many if a number is given. -/
def fieldsOf (separators : Octets) (room? : Option Nat) (runs : List Run) : List (List Shard) :=
  (runs.foldl (Cutting.takeRun separators) (Cutting.start room?)).fields

/-! ## Names of files -/

/-- Whether a closing bracket stands behind an opening one and at least one more character. -/
def closesBracket : List Glyph → Bool
  | [] => false
  | [_] => false
  | glyph :: next :: rest =>
    glyph.char ≠ '/' && (next.isSign ']' || closesBracket (next :: rest))

/-- Whether a part of a field has signs of patterns. -/
def hasSigns : List Glyph → Bool
  | [] => false
  | glyph :: rest =>
    glyph.isSign '*' || glyph.isSign '?' || hasSigns rest ||
      (glyph.isSign '[' &&
        closesBracket (if rest.head?.any (·.isSign '!') then rest.drop 1 else rest))

/-- Splits a field at its slashes. -/
def splitField : List Glyph → List (List Glyph)
  | [] => [[]]
  | glyph :: rest =>
    if glyph.char = '/' then [] :: splitField rest
    else
      match splitField rest with
      | [] => [[glyph]]
      | part :: others => (glyph :: part) :: others

/-- The names in a directory, with those of itself and the one above. -/
def namesIn (files : FileTree) (directory : Octets) : List Octets :=
  let path := if directory.isEmpty then ⟨"."⟩ else pathOf directory
  match files.locate path with
  | .error _ => []
  | .ok location =>
    if !files.hasDirectory location then []
    else
      let names := files.entries.filterMap fun entry =>
        if entry.1.dropLast = location && entry.1.length = location.length + 1 then
          entry.1.getLast?.map fun name => Octets.ofString (String.ofList name)
        else none
      ['.'] :: ['.', '.'] :: names

/-- The names in a directory that a pattern matches. Hidden ones need a dot in front. -/
def namesFor (files : FileTree) (directory : Octets) (pattern : Pattern) : List Octets :=
  let showsHidden := pattern.head?.any fun glyph => glyph.char = '.'
  (namesIn files directory).filter fun name =>
    (showsHidden || name.head? ≠ some '.') && pattern.isMatch name

/-- The paths of files that the parts of a field stand for behind the beginning of a path. Whether a
part had signs of patterns before says whether a path without them counts. -/
def pathsFor (files : FileTree) : List (List Glyph) → Bool → Octets → List Octets
  | [], _, _ => []
  | [part], hadSigns, start =>
    if hasSigns part then (namesFor files start part).map (start ++ ·)
    else
      let path := start ++ Glyph.text part
      if hadSigns && (files.find? (pathOf path)).isSome then [path] else []
  | part :: rest, hadSigns, start =>
    if hasSigns part then
      (namesFor files start part).flatMap fun name =>
        pathsFor files rest true (start ++ name ++ ['/'])
    else pathsFor files rest hadSigns (start ++ Glyph.text part ++ ['/'])

/-- The paths of files that a field stands for, sorted, or its text if there are none. -/
def expandField (files : FileTree) (expands : Bool) (field : List Shard) : List Octets :=
  let found :=
    if expands then pathsFor files (splitField (Pattern.ofGlyphs (Shard.glyphs field))) false []
    else []
  if found.isEmpty then [Shard.text field]
  else found.mergeSort fun left right => String.ofList left ≤ String.ofList right

end FixtureHarness.Shell
