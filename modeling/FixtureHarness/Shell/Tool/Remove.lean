import FixtureHarness.Shell.Tool.Option

/-! # The tool that removes files

Directories are removed only on demand, with all that is in them or if they are empty. Before
something is removed the tool can ask, and takes nothing but a line that begins with `y` for consent.
-/

namespace FixtureHarness.Shell.Remove

/-- What an option is for. -/
inductive Key where
  | force
  | askAlways
  | askOnce
  | interactive
  | oneFileSystem
  | noPreserveRoot
  | preserveRoot
  | presumeTerminal
  | recursive
  | emptyDirectories
  | verbose
  | help
  | version
  deriving DecidableEq, Repr

/-- The options of the tool. -/
def optionRules : List (OptionRule Key) :=
  [.plain 'f' "force" .force, .letter 'i' .askAlways, .letter 'I' .askOnce,
    ⟨.interactive, none, some "interactive", .optionally⟩,
    .word "one-file-system" .oneFileSystem, .word "no-preserve-root" .noPreserveRoot,
    ⟨.preserveRoot, none, some "preserve-root", .optionally⟩,
    .word "-presume-input-tty" .presumeTerminal, .plain 'r' "recursive" .recursive,
    .letter 'R' .recursive, .plain 'd' "dir" .emptyDirectories, .plain 'v' "verbose" .verbose,
    .word "help" .help, .word "version" .version]

/-- When the tool asks. -/
inductive Asking where
  | never
  /-- Once, if there is much to remove. -/
  | once
  | always
  deriving DecidableEq, Repr

/-- How names are removed. -/
structure Manner where
  /-- Whether nothing is said about what is not there. -/
  ignoresMissing : Bool
  asking : Asking
  recursive : Bool
  emptyDirectories : Bool
  verbose : Bool
  preservesRoot : Bool
  showsHelp : Bool
  deriving DecidableEq, Repr

namespace Manner

/-- The manner without options. -/
def plain : Manner := ⟨false, .never, false, false, false, true, false⟩

/-- The manner when asking was set. -/
def ask (manner : Manner) (asking : Asking) : Manner :=
  { manner with asking := asking, ignoresMissing := false }

end Manner

/-- The refusal of a value, with the hint to the help if that is wanted. -/
structure Refusal where
  text : Octets
  hints : Bool

/-- The value of an option about when to ask. -/
def askingOf (value : Octets) : Except Refusal (Manner → Manner) :=
  let known : List (String × Asking) :=
    [("never", .never), ("no", .never), ("none", .never), ("once", .once), ("always", .always),
      ("yes", .always)]
  let fits := known.filter fun entry => value.isPrefixOf entry.1.toList
  let whole? := fits.find? fun entry => entry.1 = String.ofList value
  match whole?.or fits.head? with
  | some (_, asking) =>
    if whole?.isSome || fits.all fun entry => entry.2 = asking then
      .ok fun manner =>
        if asking = .never then { manner with asking := .never } else manner.ask asking
    else .error ⟨"ambiguous argument ".toList ++ quotedText value ++ choices, true⟩
  | none => .error ⟨"invalid argument ".toList ++ quotedText value ++ choices, true⟩
where
  /-- The values that can be chosen from. -/
  choices : Octets :=
    (" for '--interactive'\nValid arguments are:\n  - 'never', 'no', 'none'\n  - 'once'\n" ++
      "  - 'always', 'yes'").toList

/-- Takes an option. -/
def takeOption (arguments : List Octets) (manner : Manner) (option : GivenOption Key) :
    Except Refusal Manner :=
  match option.key, option.value? with
  | .force, _ => .ok { manner with asking := .never, ignoresMissing := true }
  | .askAlways, _ => .ok (manner.ask .always)
  | .askOnce, _ => .ok (manner.ask .once)
  | .interactive, none => .ok (manner.ask .always)
  | .interactive, some value => do
    let change ← askingOf value
    .ok (change manner)
  | .noPreserveRoot, _ =>
    if arguments.contains "--no-preserve-root".toList then
      .ok { manner with preservesRoot := false }
    else .error ⟨"you may not abbreviate the --no-preserve-root option".toList, false⟩
  | .preserveRoot, none => .ok { manner with preservesRoot := true }
  | .preserveRoot, some value =>
    if value = "all".toList then .ok { manner with preservesRoot := true }
    else
      .error ⟨"unrecognized --preserve-root argument: ".toList ++ quotedName value, false⟩
  | .recursive, _ => .ok { manner with recursive := true }
  | .emptyDirectories, _ => .ok { manner with emptyDirectories := true }
  | .verbose, _ => .ok { manner with verbose := true }
  | .help, _ => .ok { manner with showsHelp := true }
  | .version, _ => .ok { manner with showsHelp := true }
  | _, _ => .ok manner

/-! ## Asking -/

/-- Asks, and reads the answer from standard input. -/
def ask (invocation : Invocation) (question : Octets) (machine : Machine) : Bool × Machine :=
  let text := invocation.name ++ ": ".toList ++ question ++ "? ".toList
  let machine := machine.write invocation.descriptors 2 text
  match invocation.descriptors.stream? 0 with
  | none => (false, machine)
  | some number =>
    match machine.remaining number with
    | .error _ => (false, machine)
    | .ok rest =>
      let line := rest.takeWhile (· ≠ '\n')
      let consents := line.head?.any fun char => char = 'y' || char = 'Y'
      (consents, machine.advance number (min rest.length (line.length + 1)))

/-- A call that removes names. -/
structure Task where
  invocation : Invocation
  manner : Manner

namespace Task

/-- Asks whether to do something, if the manner is to ask about everything. -/
def consents (task : Task) (question : String) (name : Octets) (machine : Machine) :
    Bool × Machine :=
  if task.manner.asking = .always then
    ask task.invocation (question.toList ++ quotedName name) machine
  else (true, machine)

/-- Complains that a name cannot be removed. -/
def cannot (task : Task) (name : Octets) (fault : String) (machine : Machine) : Machine :=
  task.invocation.complain
    ("cannot remove ".toList ++ quotedName name ++ ": ".toList ++ fault.toList) machine

/-- Tells what was removed, if that is wanted. -/
def tell (task : Task) (kind : String) (name : Octets) (machine : Machine) : Machine :=
  if task.manner.verbose then
    task.invocation.print (kind.toList ++ quotedName name ++ ['\n']) machine
  else machine

/-! ## Removing -/

/-- The names in a directory, in order. -/
def namesIn (files : FileTree) (location : Location) : List (List Char) :=
  let inside := files.entries.filterMap fun entry =>
    if entry.1.length = location.length + 1 && location.isPrefixOf entry.1 then entry.1.getLast?
    else none
  inside.mergeSort fun left right => String.ofList left ≤ String.ofList right

/-- Removes a file. -/
def removeFile (task : Task) (name : Octets) (location : Location) (machine : Machine) :
    Machine :=
  let isEmpty := (Machine.contentAt machine.files location).isEmpty
  let kind := if isEmpty then "regular empty file " else "regular file "
  let (consents, machine) := task.consents ("remove " ++ kind) name machine
  if consents then task.tell "removed " name (machine.removeEntry location) else machine

/-- Removes a directory that should be empty. Returns whether it failed. -/
def removeDirectory (task : Task) (name : Octets) (location : Location) (machine : Machine) :
    Machine × Bool :=
  if (namesIn machine.files location).isEmpty then
    (task.tell "removed directory " name (machine.removeEntry location), false)
  else (task.cannot name "Directory not empty" machine, true)

/-- Removes what is in a directory, and then the directory. Returns whether something failed. -/
def removeTree (task : Task) :
    Nat → Octets → Location → Machine → Machine × Bool
  | 0, _, _, machine => (machine, true)
  | fuel + 1, name, location, machine =>
    if !machine.files.hasDirectory location then
      (task.removeFile name location machine, false)
    else
      let parts := namesIn machine.files location
      let question := if parts.isEmpty then "remove directory " else "descend into directory "
      let (consents, machine) := task.consents question name machine
      if !consents then (machine, false)
      else if parts.isEmpty then task.removeDirectory name location machine
      else
        let step (state : Machine × Bool) (part : List Char) : Machine × Bool :=
          let partName := Octets.ofString (String.ofList part)
          let inner := if name.getLast? = some '/' then name ++ partName
            else name ++ '/' :: partName
          let (machine, failed) := removeTree task fuel inner (location ++ [part]) state.1
          (machine, state.2 || failed)
        let (machine, failed) := parts.foldl step (machine, false)
        let (consents, machine) := task.consents "remove directory " name machine
        if !consents then (machine, failed)
        else
          let (machine, failedHere) := task.removeDirectory name location machine
          (machine, failed || failedHere)

/-- Whether a name ends in a component that is never removed with its content. -/
def endsInDots (name : Octets) : Bool :=
  let trimmed := (name.reverse.dropWhile (· = '/')).reverse
  let last := (trimmed.reverse.takeWhile (· ≠ '/')).reverse
  last = ['.'] || last = ['.', '.']

/-- A name with at most one slash at its end. -/
def withOneSlash (name : Octets) : Octets :=
  let trimmed := (name.reverse.dropWhile (· = '/')).reverse
  if name.getLast? = some '/' && !trimmed.isEmpty then trimmed ++ ['/'] else name

/-- Refuses to remove everything. -/
def refuseRoot (task : Task) (name : Octets) (machine : Machine) : Machine :=
  let same := if name = ['/'] then [] else " (same as '/')".toList
  task.invocation.complain "use --no-preserve-root to override this failsafe".toList
    (task.invocation.complain
      ("it is dangerous to operate recursively on ".toList ++ quotedName name ++ same) machine)

/-- Removes what a name leads to. Returns whether that failed. -/
def removeName (task : Task) (name : Octets) (machine : Machine) : Machine × Bool :=
  let manner := task.manner
  if manner.recursive && endsInDots name then
    let text := "refusing to remove '.' or '..' directory: skipping ".toList ++ quotedName name
    (task.invocation.complain text machine, true)
  else
    match machine.files.locate (pathOf name) with
    | .error fault =>
      if manner.ignoresMissing && (fault = .notFound || fault = .notADirectory) then
        (machine, false)
      else (task.cannot name (faultText fault) machine, true)
    | .ok location =>
      let name := withOneSlash name
      if !machine.files.hasDirectory location then
        (task.removeFile name location machine, false)
      else if manner.recursive then
        if location.isEmpty && manner.preservesRoot then (task.refuseRoot name machine, true)
        else task.removeTree (machine.files.entries.length + 1) name location machine
      else if !manner.emptyDirectories then
        (task.cannot name (faultText .isADirectory) machine, true)
      else if (namesIn machine.files location).isEmpty then
        task.removeTree 1 name location machine
      else (task.cannot name "Directory not empty" machine, true)

/-- Removes one name after the other. -/
def removeAll (task : Task) (names : List Octets) (machine : Machine) : Machine × Nat :=
  let step (state : Machine × Bool) (name : Octets) : Machine × Bool :=
    let (machine, failed) := task.removeName name state.1
    (machine, state.2 || failed)
  let (machine, failed) := names.foldl step (machine, false)
  (machine, if failed then 1 else 0)

/-- The question before much is removed, if there is one. -/
def question? (task : Task) (names : List Octets) : Option Octets :=
  let count := (toString names.length).toList
  let noun := if names.length = 1 then " argument" else " arguments"
  if task.manner.asking ≠ .once then none
  else if task.manner.recursive then
    some ("remove ".toList ++ count ++ noun.toList ++ " recursively".toList)
  else if 3 < names.length then some ("remove ".toList ++ count ++ noun.toList)
  else none

/-- Removes names, after a question if there is much to remove. -/
def run (task : Task) (names : List Octets) (machine : Machine) : Machine × Nat :=
  match task.question? names with
  | none => task.removeAll names machine
  | some question =>
    let (consents, machine) := ask task.invocation question machine
    if consents then task.removeAll names machine else (machine, 0)

end Task

/-! ## Calls -/

/-- Refuses bad options. If a file is named like one, it is said how to remove it. -/
def refuseOptions (invocation : Invocation) (fault : Octets) (machine : Machine) : Machine :=
  let machine := invocation.complain fault machine
  let isDashed (argument : Octets) : Bool :=
    2 ≤ argument.length && argument.head? = some '-' &&
      (machine.files.find? (pathOf argument)).isSome
  let machine :=
    match invocation.arguments.find? isDashed with
    | some name =>
      invocation.remark
        ("Try '".toList ++ invocation.name ++ " ./".toList ++ shownWord name ++
          "' to remove the file ".toList ++ quotedName name ++ ['.']) machine
    | none => machine
  invocation.remark invocation.helpHint machine

/-- Removes the operands. -/
def run : Tool := fun invocation machine =>
  let given := invocation.read optionRules
  match given.options.foldlM (takeOption invocation.arguments) Manner.plain with
  | .error refusal =>
    let machine := invocation.complain refusal.text machine
    (if refusal.hints then invocation.remark invocation.helpHint machine else machine, 1)
  | .ok manner =>
    match given.fault? with
    | some fault => (refuseOptions invocation fault machine, 1)
    | none =>
      if manner.showsHelp then (machine, 0)
      else if given.operands.isEmpty then
        if manner.ignoresMissing then (machine, 0)
        else (invocation.refuse "missing operand".toList machine, 1)
      else Task.run ⟨invocation, manner⟩ given.operands machine

end FixtureHarness.Shell.Remove
