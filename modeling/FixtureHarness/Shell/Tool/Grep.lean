import FixtureHarness.Shell.Tool.Grep.Display
import FixtureHarness.Shell.Tool.Grep.Names

/-! # The tool that selects lines by expressions

Files are searched one after the other. A file with NUL in it is no text: of it only is said that it
matches, unless the settings want otherwise.
-/

namespace FixtureHarness.Shell.Grep

/-- What the search of files has led to. -/
structure Tally where
  selected : Bool
  failed : Bool
  /-- Whether something could not be printed. -/
  unprinted : Bool
  /-- Whether lines of a file before were selected. -/
  hasShown : Bool
  deriving DecidableEq, Repr

namespace Tally

/-- Nothing has been searched. -/
def fresh : Tally := ⟨false, false, false, false⟩

/-- Notes that a file could not be searched. -/
def fail (tally : Tally) : Tally :=
  { tally with failed := true }

end Tally

/-- A search that is going on. -/
structure Task where
  invocation : Invocation
  settings : Settings
  finder : Finder
  /-- Whether the names of files are shown, also of those that are operands. -/
  showsNames : Bool

namespace Task

/-- Whether nothing of the lines is shown, whatever they are. -/
def isBrief (task : Task) : Bool :=
  task.settings.quiet || task.settings.listing ≠ .nothing || task.settings.counts

/-- What standard output is connected to. -/
def output? (task : Task) (machine : Machine) : Option Stream :=
  (task.invocation.descriptors.stream? 1).map machine.stream

/-- Whether the first line that is selected ends the search. -/
def endsEarly (task : Task) (machine : Machine) : Bool :=
  task.settings.quiet ||
    match task.output? machine with
    | some (.nothing _) => true
    | _ => false

/-- Whether a name leads to the file that output goes to. -/
def isOutput (task : Task) (source : Source) (machine : Machine) : Bool :=
  let location? : Option Location :=
    if source.name = ['-'] then
      match (task.invocation.descriptors.stream? 0).map machine.stream with
      | some (.file location ..) => some location
      | _ => none
    else (machine.files.locate (pathOf source.name)).toOption
  match task.output? machine, location? with
  | some (.file location ..), some other => location = other
  | _, _ => false

/-- Complains about a file, unless complaints are unwanted. -/
def complain (task : Task) (source : Source) (text : String) (machine : Machine) : Machine :=
  if task.settings.silent then machine
  else task.invocation.complain (source.shownName ++ ": ".toList ++ text.toList) machine

/-- Marks the lines that are selected, at most as many as settings allow. -/
def select (task : Task) (limit? : Option Nat) : List Line → List Line
  | [] => []
  | line :: rest =>
    if limit? = some 0 then line :: rest
    else if task.finder.fits line.text != task.settings.inverted then
      { line with selected := true } :: select task (limit?.map (· - 1)) rest
    else line :: select task limit? rest

/-- The number of columns that numbers about a file of some size take, if tabs are wanted. -/
def width (task : Task) (size? : Option Nat) : Nat :=
  let greatest := ((size?.map (· + if task.settings.numbers then 1 else 0))).getD (Nat.pow 2 64 - 1)
  if task.settings.tabs then (Nat.toDigits 10 greatest).length else 0

/-- The size of a source, if it is a file. -/
def size? (task : Task) (source : Source) (content : Octets) (machine : Machine) : Option Nat :=
  if source.name = ['-'] then
    match (task.invocation.descriptors.stream? 0).map machine.stream with
    | some (.file location ..) => some (Machine.contentAt machine.files location).length
    | _ => none
  else some content.length

/-- How the lines of a source are shown. -/
def display (task : Task) (source : Source) (size? : Option Nat) : Display where
  settings := task.settings
  finder := task.finder
  name := source.shownName
  showsName := task.showsNames || (source.isInside && task.settings.names? ≠ some false)
  width := task.width size?

/-- Whether a file counts as no text. -/
def isBinary (task : Task) (content : Octets) : Bool :=
  task.settings.binary ≠ .text && !task.settings.nulLines && content.contains '\x00'

/-- The lines of a file. In a file that is no text NUL ends lines too. -/
def lines (task : Task) (content : Octets) : List Line :=
  if task.isBinary content then
    if task.settings.binary = .skipped then []
    else
      linesOf '\n' (content.map fun char => if char = '\x00' then '\n' else char)
  else linesOf task.settings.lineEnd content

/-- What is shown of a file whose lines were searched. -/
def report (task : Task) (display : Display) (tally : Tally) (lines : List Line) : Octets :=
  let settings := task.settings
  let count := lines.countP fun line => line.selected
  let name := display.shownName ++ [if settings.nulNames then '\x00' else '\n']
  if settings.quiet then []
  else
    match settings.listing with
    | .matching => if count = 0 then [] else name
    | .others => if count = 0 then name else []
    | .nothing =>
      if settings.counts then display.leadingName ':' ++ Nat.toDigits 10 count ++ ['\n']
      else display.lines (!tally.hasShown) lines

/-- Goes back in standard input behind the last line that was selected, if no more were wanted. -/
def giveBack (task : Task) (source : Source) (content : Octets) (lines : List Line)
    (machine : Machine) : Machine :=
  let selected := lines.filter fun line => line.selected
  match task.invocation.descriptors.stream? 0, selected.getLast? with
  | some number, some last =>
    if source.name = ['-'] && task.settings.limit? = some selected.length then
      let used := min content.length (last.offset + last.text.length + 1)
      match machine.stream number with
      | .file location position access =>
        machine.setStream number (.file location (position - (content.length - used)) access)
      | _ => machine
    else machine
  | _, _ => machine

/-- Takes what one file has led to. -/
def note (task : Task) (lines : List Line) (text : Octets) (tally : Tally) : Tally :=
  let any := lines.any fun line => line.selected
  { tally with
    selected := tally.selected || (any != (task.settings.listing = .others))
    unprinted := tally.unprinted || (!text.isEmpty && !task.invocation.canPrint)
    hasShown := tally.hasShown || any }

/-- Searches a content. -/
def searchContent (task : Task) (source : Source) (content : Octets) (tally : Tally)
    (machine : Machine) : Machine × Tally :=
  let lines := task.select task.settings.limit? (task.lines content)
  let display := task.display source (task.size? source content machine)
  let any := lines.any fun line => line.selected
  if task.isBinary content && !task.isBrief then
    let machine :=
      if any then
        task.invocation.complain (source.shownName ++ ": binary file matches".toList) machine
      else machine
    (machine, task.note lines [] tally)
  else
    let text := task.report display tally lines
    (task.invocation.print text (task.giveBack source content lines machine),
      task.note lines text tally)

/-- Searches one file. -/
def searchSource (task : Task) (source : Source) (tally : Tally) (machine : Machine) :
    Machine × Tally :=
  let isCounted := task.settings.limit?.all (1 < ·)
  if !task.isBrief && isCounted && task.isOutput source machine then
    (task.complain source "input file is also the output" machine, tally.fail)
  else
    match contentOf task.invocation source.name machine with
    | .ok (content, machine) => task.searchContent source content tally machine
    | .error fault =>
      let machine := task.complain source fault machine
      if fault = Shell.faultText .isADirectory then task.searchContent source [] tally.fail machine
      else (machine, tally.fail)

/-- Searches one file after the other. -/
def searchAll (task : Task) : List Source → Tally → Machine → Machine × Tally
  | [], tally, machine => (machine, tally)
  | source :: rest, tally, machine =>
    let endsEarly := task.endsEarly machine
    let (machine, tally) := task.searchSource source tally machine
    if endsEarly && tally.selected then (machine, { tally with failed := false })
    else searchAll task rest tally machine

/-- The exit code of a search. -/
def finish (task : Task) (tally : Tally) (machine : Machine) : Machine × Nat :=
  if tally.unprinted then
    (task.invocation.complain ("write error: " ++ badDescriptor).toList machine, 2)
  else if tally.failed then (machine, 2)
  else (machine, if tally.selected then 0 else 1)

end Task

/-! ## Calls -/

/-- The line that shows how the tool is called. -/
def usage (invocation : Invocation) : Octets :=
  "Usage: ".toList ++ invocation.name ++ " [OPTION]... PATTERNS [FILE]...".toList

/-- Tells how the tool is called. -/
def showUsage (invocation : Invocation) (machine : Machine) : Machine :=
  invocation.remark invocation.helpHint (invocation.remark (usage invocation) machine)

/-- Writes what is to be said before the search. -/
def complainAll (invocation : Invocation) (texts : List Octets) (machine : Machine) : Machine :=
  texts.foldl (fun machine text => invocation.complain text machine) machine

/-- Ends a call that cannot be searched for. -/
def refuseCall (invocation : Invocation) (refusal : Refusal) (machine : Machine) :
    Machine × Nat :=
  let machine := invocation.complain refusal.text machine
  (if refusal.showsUsage then showUsage invocation machine else machine, refusal.exitCode)

/-- The patterns of a call and its other operands. Without any pattern in files the empty one is
looked for, and what it matches is not wanted. -/
def patternsOf? (settings : Settings) (operands : List Octets) :
    Option (Settings × List PatternLine × List Octets) :=
  match settings.patterns?, operands with
  | some [], _ =>
    let settings :=
      { settings with
        inverted := !settings.inverted, wholeLines := false, wholeWords := false }
    some (settings, [⟨[], none⟩], operands)
  | some patterns, _ => some (settings, patterns, operands)
  | none, pattern :: operands => some (settings, patternsOfText pattern, operands)
  | none, [] => none

/-- Whether it is clear from the settings that nothing can be selected. -/
def isHopeless (settings : Settings) (patterns : List PatternLine) : Bool :=
  let matchesAll := patterns.all (·.text.isEmpty)
  let excludesAll :=
    matchesAll && settings.inverted && !settings.wholeLines && !settings.wholeWords
  settings.listing ≠ .others && (settings.limit? = some 0 || excludesAll)

/-- Searches for some patterns. -/
def search (invocation : Invocation) (settings : Settings) (patterns : List PatternLine)
    (names : List Octets) (machine : Machine) : Machine × Nat :=
  let found := Search.ofPatterns settings patterns
  let machine := complainAll invocation found.messages machine
  match found.finder? with
  | none => (machine, 2)
  | some finder =>
    let showsNames := settings.names?.getD (2 ≤ names.length)
    let task : Task := ⟨invocation, settings, finder, showsNames⟩
    let sources :=
      if names.isEmpty then defaultSources settings machine.files
      else names.flatMap (sourcesOf settings machine.files)
    let (machine, tally) := task.searchAll sources .fresh machine
    task.finish tally machine

/-- Searches the operands behind the pattern, or standard input if there are none. -/
def run : Tool := fun invocation machine =>
  let given := invocation.read optionRules
  let ((settings, machine), refusal?) :=
    takeOptions invocation given.options (Settings.plain, machine)
  let warnings := settings.warnings.reverse.map String.toList
  let machine := complainAll invocation warnings machine
  match refusal?, given.fault? with
  | some refusal, _ => refuseCall invocation refusal machine
  | none, some fault => refuseCall invocation ⟨fault, true, 2⟩ machine
  | none, none =>
    if settings.showsHelp then (machine, 0)
    else
      match patternsOf? settings given.operands with
      | none => (showUsage invocation machine, 2)
      | some (settings, patterns, names) =>
        if isHopeless settings patterns then (machine, 1)
        else search invocation settings patterns names machine

end FixtureHarness.Shell.Grep
