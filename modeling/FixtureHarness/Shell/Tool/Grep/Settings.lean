import FixtureHarness.Shell.Tool.Option
import FixtureHarness.Text.CharSet
import FixtureHarness.Text.Lines

/-! # Settings of the tool that selects lines

The options of a call are taken one after the other, and the first bad one ends it.
-/

namespace FixtureHarness.Shell.Grep

/-- What an option is for. -/
inductive Key where
  | basic
  | extended
  | fixed
  | perl
  | matcher
  | pattern
  | patternFile
  | anyCase
  | exactCase
  | wholeWords
  | wholeLines
  | inverted
  | maxCount
  | byteOffsets
  | lineNumbers
  | unbuffered
  | withNames
  | withoutNames
  | label
  | onlyMatching
  | quiet
  | silent
  | binaryFiles
  | binaryAsText
  | binarySkipped
  | binaryMode
  | unixOffsets
  | directories
  | devices
  | recursive
  | including
  | excluding
  | excludingFrom
  | excludingDirectory
  | namesOfOthers
  | namesOfMatching
  | counts
  | initialTab
  | nulNames
  | nulLines
  | linesBefore
  | linesAfter
  | linesAround
  | digit (char : Char)
  | separator
  | noSeparator
  | color
  | help
  | version
  deriving DecidableEq, Repr

/-- The options of the tool. -/
def optionRules : List (OptionRule Key) :=
  let digits := "0123456789".toList.map fun char => OptionRule.letter char (Key.digit char)
  digits ++
    [.plain 'G' "basic-regexp" .basic, .plain 'E' "extended-regexp" .extended,
      .word "fixed-regexp" .fixed, .plain 'F' "fixed-strings" .fixed,
      .plain 'P' "perl-regexp" .perl, .valued 'A' "after-context" .linesAfter,
      .valued 'B' "before-context" .linesBefore, ⟨.binaryFiles, none, some "binary-files", .always⟩,
      .plain 'U' "binary" .binaryMode, .plain 'b' "byte-offset" .byteOffsets,
      .valued 'C' "context" .linesAround, ⟨.color, none, some "color", .optionally⟩,
      ⟨.color, none, some "colour", .optionally⟩, .plain 'c' "count" .counts,
      .valued 'D' "devices" .devices, .valued 'd' "directories" .directories,
      ⟨.excluding, none, some "exclude", .always⟩,
      ⟨.excludingFrom, none, some "exclude-from", .always⟩,
      ⟨.excludingDirectory, none, some "exclude-dir", .always⟩, .valued 'f' "file" .patternFile,
      .plain 'l' "files-with-matches" .namesOfMatching,
      .plain 'L' "files-without-match" .namesOfOthers,
      ⟨.separator, none, some "group-separator", .always⟩, .word "help" .help,
      ⟨.including, none, some "include", .always⟩, .plain 'i' "ignore-case" .anyCase,
      .letter 'y' .anyCase, .word "no-ignore-case" .exactCase, .plain 'T' "initial-tab" .initialTab,
      ⟨.label, none, some "label", .always⟩, .word "line-buffered" .unbuffered,
      .plain 'n' "line-number" .lineNumbers, .plain 'x' "line-regexp" .wholeLines,
      .valued 'm' "max-count" .maxCount, .plain 'h' "no-filename" .withoutNames,
      .word "no-group-separator" .noSeparator, .plain 's' "no-messages" .silent,
      .plain 'Z' "null" .nulNames, .plain 'z' "null-data" .nulLines,
      .plain 'o' "only-matching" .onlyMatching, .plain 'q' "quiet" .quiet,
      .plain 'r' "recursive" .recursive, .plain 'R' "dereference-recursive" .recursive,
      .valued 'e' "regexp" .pattern, .plain 'v' "invert-match" .inverted, .word "silent" .quiet,
      .plain 'a' "text" .binaryAsText, .letter 'I' .binarySkipped,
      .plain 'u' "unix-byte-offsets" .unixOffsets, .plain 'V' "version" .version,
      .plain 'H' "with-filename" .withNames, .plain 'w' "word-regexp" .wholeWords,
      ⟨.matcher, some 'X', none, .always⟩]

/-- How patterns are written. -/
inductive Matcher where
  | basic
  | extended
  | fixed
  | perl
  deriving DecidableEq, Repr

/-- Which names of files are shown in place of lines. -/
inductive Listing where
  | nothing
  | matching
  | others
  deriving DecidableEq, Repr

/-- What becomes of files with NUL in them. -/
inductive BinaryRule where
  /-- It is only said that they match. -/
  | reported
  | text
  | skipped
  deriving DecidableEq, Repr

/-- What becomes of directories. -/
inductive DirectoryRule where
  | read
  | skipped
  | entered
  deriving DecidableEq, Repr

/-- A pattern, with the file and line that it comes from if that is no argument. -/
structure PatternLine where
  text : Octets
  origin? : Option (Octets × Nat)
  deriving DecidableEq, Repr

/-- A rule about the names of files that are searched. -/
structure NameRule where
  pattern : Octets
  includes : Bool
  deriving DecidableEq, Repr

/-- What is looked for, where, and how it is shown. -/
structure Settings where
  matcher? : Option Matcher
  /-- The patterns of options. -/
  patterns? : Option (List PatternLine)
  anyCase : Bool
  wholeWords : Bool
  wholeLines : Bool
  inverted : Bool
  /-- The greatest number of lines that are selected in a file. -/
  limit? : Option Nat
  counts : Bool
  listing : Listing
  quiet : Bool
  onlyMatching : Bool
  numbers : Bool
  offsets : Bool
  /-- Whether a tab stands before each line. -/
  tabs : Bool
  names? : Option Bool
  label? : Option Octets
  nulNames : Bool
  nulLines : Bool
  silent : Bool
  binary : BinaryRule
  directories : DirectoryRule
  colored : Bool
  before? : Option Nat
  after? : Option Nat
  around? : Option Nat
  separator? : Option Octets
  fileRules : List NameRule
  directoryRules : List NameRule
  /-- The digits of the argument that is being read, with its place. -/
  digits? : Option (Nat × Octets)
  /-- What is to be said about the options, last first. -/
  warnings : List String
  showsHelp : Bool

namespace Settings

/-- The settings without any option. -/
def plain : Settings where
  matcher? := none
  patterns? := none
  anyCase := false
  wholeWords := false
  wholeLines := false
  inverted := false
  limit? := none
  counts := false
  listing := .nothing
  quiet := false
  onlyMatching := false
  numbers := false
  offsets := false
  tabs := false
  names? := none
  label? := none
  nulNames := false
  nulLines := false
  silent := false
  binary := .reported
  directories := .read
  colored := false
  before? := none
  after? := none
  around? := none
  separator? := some "--".toList
  fileRules := []
  directoryRules := []
  digits? := none
  warnings := []
  showsHelp := false

/-- The character that ends lines. -/
def lineEnd (settings : Settings) : Char :=
  if settings.nulLines then '\x00' else '\n'

end Settings

/-- Why a call ends before anything is searched. -/
structure Refusal where
  /-- The lines about it. The first goes behind the name of the tool. -/
  text : Octets
  showsUsage : Bool
  exitCode : Nat
  deriving DecidableEq, Repr

/-- The refusal of a value. -/
def refuse {Result : Type} (text : Octets) : Except Refusal Result :=
  .error ⟨text, false, 2⟩

/-! ## Values -/

/-- Reads a whole number, with a sign if need be. -/
def readNumber? (text : Octets) : Option Int :=
  let body := text.dropWhile CharSet.space.contains
  let isNegative := body.head? = some '-'
  let digits := if isNegative || body.head? = some '+' then body.drop 1 else body
  if digits.isEmpty || !digits.all Char.isDigit then none
  else
    let value := digits.foldl (fun value char => value * 10 + (char.toNat - '0'.toNat)) 0
    some (if isNegative then -(value : Int) else value)

/-- Reads a number of lines. -/
def readLineCount (text : Octets) : Except Refusal Nat :=
  match readNumber? text with
  | some (.ofNat count) => .ok count
  | _ => refuse (text ++ ": invalid context length argument".toList)

/-- Reads the greatest number of lines that are selected. -/
def readMaxCount (text : Octets) : Except Refusal (Option Nat) :=
  match readNumber? text with
  | some (.ofNat count) => .ok (some count)
  | some (.negSucc _) => .ok none
  | none => refuse "invalid max count".toList

/-- Reads what becomes of directories. -/
def readDirectoryRule (text : Octets) : Except Refusal DirectoryRule :=
  let known := [("read", DirectoryRule.read), ("recurse", .entered), ("skip", .skipped)]
  let fits := known.filter fun entry => text.isPrefixOf entry.1.toList
  match fits with
  | [(_, rule)] => .ok rule
  | _ =>
    let kind := if fits.isEmpty then "invalid" else "ambiguous"
    .error ⟨kind.toList ++ " argument ".toList ++ quotedText text ++
      (" for '--directories'\nValid arguments are:\n  - 'read'\n  - 'recurse'\n  - 'skip'").toList,
      true, 1⟩

/-- Reads how patterns are written. -/
def readMatcher (text : Octets) : Except Refusal Matcher :=
  match String.ofList text with
  | "grep" => .ok .basic
  | "egrep" => .ok .extended
  | "awk" => .ok .extended
  | "gawk" => .ok .extended
  | "posixawk" => .ok .extended
  | "fgrep" => .ok .fixed
  | "perl" => .ok .perl
  | _ => refuse ("invalid matcher ".toList ++ text)

/-- Sets how patterns are written, which cannot be changed. -/
def setMatcher (settings : Settings) (matcher : Matcher) : Except Refusal Settings :=
  if settings.matcher?.all (· = matcher) then .ok { settings with matcher? := some matcher }
  else refuse "conflicting matchers specified".toList

/-- Sets whether matches are colored. -/
def setColor (settings : Settings) (value? : Option Octets) : Settings :=
  match value?.map String.ofList with
  | none => { settings with colored := false }
  | some value =>
    if ["always", "yes", "force"].contains value then { settings with colored := true }
    else if ["never", "no", "none", "auto", "tty", "if-tty"].contains value then
      { settings with colored := false }
    else { settings with showsHelp := true }

/-- Adds patterns. -/
def addPatterns (settings : Settings) (patterns : List PatternLine) : Settings :=
  { settings with patterns? := some (settings.patterns?.getD [] ++ patterns) }

/-- The patterns of an argument, one on a line. -/
def patternsOfText (text : Octets) : List PatternLine :=
  (Text.splitAt '\n' text).map fun line => ⟨line, none⟩

/-- The patterns of a file, one on a line. -/
def patternsOfFile (name content : Octets) : List PatternLine :=
  let pieces := Text.splitAt '\n' content
  let lines := if pieces.getLast? = some [] then pieces.dropLast else pieces
  let step (state : List PatternLine × Nat) (line : Octets) : List PatternLine × Nat :=
    (⟨line, some (name, state.2)⟩ :: state.1, state.2 + 1)
  (lines.foldl step ([], 1)).1.reverse

/-- The content of a file, or of standard input. -/
def contentOf (invocation : Invocation) (name : Octets) (machine : Machine) :
    Except String (Octets × Machine) :=
  if name = ['-'] then
    match invocation.descriptors.stream? 0 with
    | none => .error badDescriptor
    | some number => machine.drain number
  else if name = Machine.nothingName then .ok ([], machine)
  else
    match machine.files.read (pathOf name) with
    | .error fault => .error (Shell.faultText fault)
    | .ok content => .ok (Octets.ofBytes content, machine)

/-- The content of a file that has to be there. -/
def requiredContent (invocation : Invocation) (name : Octets) (machine : Machine) :
    Except Refusal (Octets × Machine) :=
  match contentOf invocation name machine with
  | .ok read => .ok read
  | .error fault => refuse (name ++ ": ".toList ++ fault.toList)

/-- A name without slashes at its end. -/
def withoutFinalSlashes (name : Octets) : Octets :=
  let trimmed := (name.reverse.dropWhile (· = '/')).reverse
  if trimmed.isEmpty then name.take 1 else trimmed

/-! ## Options -/

/-- Takes a digit of a number of lines. -/
def takeDigit (char : Char) (place : Nat) (settings : Settings) : Except Refusal Settings := do
  let digits :=
    match settings.digits? with
    | some (other, digits) => if other = place then digits ++ [char] else [char]
    | none => [char]
  let count ← readLineCount digits
  .ok { settings with around? := some count, digits? := some (place, digits) }

/-- Takes an option that says how something is done. -/
def takePlain (key : Key) (settings : Settings) : Settings :=
  match key with
  | .anyCase => { settings with anyCase := true }
  | .exactCase => { settings with anyCase := false }
  | .wholeWords => { settings with wholeWords := true }
  | .wholeLines => { settings with wholeLines := true }
  | .inverted => { settings with inverted := true }
  | .byteOffsets => { settings with offsets := true }
  | .lineNumbers => { settings with numbers := true }
  | .withNames => { settings with names? := some true }
  | .withoutNames => { settings with names? := some false }
  | .onlyMatching => { settings with onlyMatching := true }
  | .quiet => { settings with quiet := true }
  | .silent => { settings with silent := true }
  | .binaryAsText => { settings with binary := .text }
  | .binarySkipped => { settings with binary := .skipped }
  | .unixOffsets =>
    { settings with
      warnings := "warning: --unix-byte-offsets (-u) is obsolete" :: settings.warnings }
  | .recursive => { settings with directories := .entered }
  | .namesOfOthers => { settings with listing := .others }
  | .namesOfMatching => { settings with listing := .matching }
  | .counts => { settings with counts := true }
  | .initialTab => { settings with tabs := true }
  | .nulNames => { settings with nulNames := true }
  | .nulLines => { settings with nulLines := true }
  | .noSeparator => { settings with separator? := none }
  | .help => { settings with showsHelp := true }
  | .version => { settings with showsHelp := true }
  | _ => settings

/-- Takes an option with a value. -/
def takeValued (key : Key) (value : Octets) (settings : Settings) : Except Refusal Settings :=
  match key with
  | .matcher => do
    let matcher ← readMatcher value
    setMatcher settings matcher
  | .pattern => .ok (addPatterns settings (patternsOfText value))
  | .maxCount => do
    let limit? ← readMaxCount value
    .ok { settings with limit? := limit? }
  | .label => .ok { settings with label? := some value }
  | .binaryFiles =>
    match String.ofList value with
    | "binary" => .ok { settings with binary := .reported }
    | "text" => .ok { settings with binary := .text }
    | "without-match" => .ok { settings with binary := .skipped }
    | _ => refuse "unknown binary-files type".toList
  | .directories => do
    let rule ← readDirectoryRule value
    .ok { settings with directories := rule }
  | .devices =>
    if value = "read".toList || value = "skip".toList then .ok settings
    else refuse "unknown devices method".toList
  | .including =>
    .ok { settings with fileRules := settings.fileRules ++ [⟨value, true⟩] }
  | .excluding =>
    .ok { settings with fileRules := settings.fileRules ++ [⟨value, false⟩] }
  | .excludingDirectory =>
    let rule : NameRule := ⟨withoutFinalSlashes value, false⟩
    .ok { settings with directoryRules := settings.directoryRules ++ [rule] }
  | .linesBefore => do
    let count ← readLineCount value
    .ok { settings with before? := some count }
  | .linesAfter => do
    let count ← readLineCount value
    .ok { settings with after? := some count }
  | .linesAround => do
    let count ← readLineCount value
    .ok { settings with around? := some count }
  | .separator => .ok { settings with separator? := some value }
  | _ => .ok settings

/-- Takes an option. Files with patterns are read at once. -/
def takeOption (invocation : Invocation) (option : GivenOption Key)
    (state : Settings × Machine) : Except Refusal (Settings × Machine) := do
  let (settings, machine) := state
  let keep (result : Except Refusal Settings) : Except Refusal (Settings × Machine) :=
    result.map fun settings => (settings, machine)
  let forgotten := { settings with digits? := none }
  match option.key, option.value? with
  | .digit char, _ => keep (takeDigit char option.place settings)
  | .basic, _ => keep (setMatcher forgotten .basic)
  | .extended, _ => keep (setMatcher forgotten .extended)
  | .fixed, _ => keep (setMatcher forgotten .fixed)
  | .perl, _ => keep (setMatcher forgotten .perl)
  | .color, value? => .ok (setColor forgotten value?, machine)
  | .patternFile, some name => do
    let (content, machine) ← requiredContent invocation name machine
    .ok (addPatterns forgotten (patternsOfFile name content), machine)
  | .excludingFrom, some name => do
    let (content, machine) ← requiredContent invocation name machine
    let names := (Text.splitAt '\n' content).filter fun line => !line.isEmpty
    let rules := names.map fun line => (⟨line, false⟩ : NameRule)
    .ok ({ forgotten with fileRules := forgotten.fileRules ++ rules }, machine)
  | key, some value => keep (takeValued key value forgotten)
  | key, none => .ok (takePlain key forgotten, machine)

/-- Takes option after option. Returns how far that got. -/
def takeOptions (invocation : Invocation) :
    List (GivenOption Key) → Settings × Machine → (Settings × Machine) × Option Refusal
  | [], state => (state, none)
  | option :: rest, state =>
    match takeOption invocation option state with
    | .ok state => takeOptions invocation rest state
    | .error refusal => (state, some refusal)

end FixtureHarness.Shell.Grep
