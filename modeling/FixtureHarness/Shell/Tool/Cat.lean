import FixtureHarness.Shell.Tool.Option

/-! # The tool that prints files one after the other -/

namespace FixtureHarness.Shell.Cat

/-- What an option is for. -/
inductive Key where
  | showAll
  | numberFilled
  | showEndsAndHidden
  | showEnds
  | number
  | squeeze
  | showTabsAndHidden
  | showTabs
  | unbuffered
  | showHidden
  | help
  | version
  deriving DecidableEq, Repr

/-- The options of the tool. -/
def optionRules : List (OptionRule Key) :=
  [.plain 'b' "number-nonblank" .numberFilled, .plain 'n' "number" .number,
    .plain 's' "squeeze-blank" .squeeze, .plain 'v' "show-nonprinting" .showHidden,
    .plain 'E' "show-ends" .showEnds, .plain 'T' "show-tabs" .showTabs,
    .plain 'A' "show-all" .showAll, .letter 'e' .showEndsAndHidden,
    .letter 't' .showTabsAndHidden, .letter 'u' .unbuffered, .word "help" .help,
    .word "version" .version]

/-- How files are shown. -/
structure Manner where
  numbers : Bool
  numbersBlank : Bool
  squeezes : Bool
  showsEnds : Bool
  showsTabs : Bool
  showsHidden : Bool
  deriving DecidableEq, Repr

/-- The manner that options ask for. -/
def manner (given : Given Key) : Manner where
  numbers := given.has .number || given.has .numberFilled
  numbersBlank := !given.has .numberFilled
  squeezes := given.has .squeeze
  showsEnds := given.has .showEnds || given.has .showAll || given.has .showEndsAndHidden
  showsTabs := given.has .showTabs || given.has .showAll || given.has .showTabsAndHidden
  showsHidden :=
    given.has .showHidden || given.has .showAll || given.has .showEndsAndHidden ||
      given.has .showTabsAndHidden

/-- What the lines before leave behind. -/
structure LineState where
  /-- The number of the last numbered line. -/
  number : Nat
  /-- How many line ends came directly one after the other. -/
  lineEnds : Nat
  /-- Whether a carriage return is still to be shown, in a form that depends on what follows. -/
  pendingReturn : Bool
  deriving DecidableEq, Repr

/-- What the first line finds. -/
def LineState.start : LineState := ⟨0, 1, false⟩

/-- A character below 128 in a visible form. -/
def visible (char : Char) : Octets :=
  if char < ' ' then ['^', Char.ofNat (char.toNat + 64)]
  else if char = '\x7f' then ['^', '?']
  else [char]

/-- A character inside a line as it is shown. -/
def shown (manner : Manner) (char : Char) : Octets :=
  if char = '\t' then if manner.showsTabs then ['^', 'I'] else ['\t']
  else if !manner.showsHidden then [char]
  else if char.toNat < 128 then visible char
  else 'M' :: '-' :: visible (Char.ofNat (char.toNat - 128))

/-- The number of a line, right in six columns. -/
def numberText (number : Nat) : Octets :=
  let digits := Nat.toDigits 10 number
  List.replicate (6 - digits.length) ' ' ++ digits ++ ['\t']

/-- Shows a text. A carriage return is shown as such where the ends of lines are shown and one
follows. -/
def render (manner : Manner) : LineState → Octets → Octets × LineState
  | state, [] => ([], state)
  | state, char :: rest =>
    let held (form : Octets) : Octets := if state.pendingReturn then form else []
    if char = '\n' then
      if manner.squeezes && state.lineEnds ≥ 2 then render manner state rest
      else
        let counts := manner.numbers && manner.numbersBlank && state.lineEnds ≥ 1
        let number := if counts then state.number + 1 else state.number
        let (more, last) := render manner ⟨number, state.lineEnds + 1, false⟩ rest
        ((if counts then numberText number else []) ++ held ['^', 'M'] ++
          (if manner.showsEnds then ['$'] else []) ++ '\n' :: more, last)
    else
      let counts := manner.numbers && state.lineEnds ≥ 1
      let number := if counts then state.number + 1 else state.number
      let holds := char = '\r' && manner.showsEnds && !manner.showsHidden
      let (more, last) := render manner ⟨number, 0, holds⟩ rest
      (held ['\r'] ++ (if counts then numberText number else []) ++
        (if holds then [] else shown manner char) ++ more, last)

/-- Whether a file that is read from some position on is the one that output goes to, and output
would never end. -/
def feedsItself (invocation : Invocation) (location : Location) (position : Nat)
    (machine : Machine) : Bool :=
  match (invocation.descriptors.stream? 1).map machine.stream with
  | some (.file other outPosition access) =>
    let size := (Machine.contentAt machine.files location).length
    other = location && position < (if access.appends then size else outPosition)
  | _ => false

/-- What is wrong with printing something into itself. -/
def selfFault : String := "input file is output file"

/-- The content of an operand, or what is wrong with it. -/
def contentOf (invocation : Invocation) (name : Octets) (machine : Machine) :
    Except String (Octets × Machine) :=
  if name = ['-'] then
    match invocation.descriptors.stream? 0 with
    | none => .error badDescriptor
    | some number =>
      match machine.stream number with
      | .file location position _ =>
        if feedsItself invocation location position machine then .error selfFault
        else machine.drain number
      | _ => machine.drain number
  else if name = Machine.nothingName then .ok ([], machine)
  else
    match machine.files.locate (pathOf name) with
    | .error fault => .error (faultText fault)
    | .ok location =>
      if feedsItself invocation location 0 machine then .error selfFault
      else
        match machine.files.read (pathOf name) with
        | .error fault => .error (faultText fault)
        | .ok content => .ok (Octets.ofBytes content, machine)

/-- Prints one file after the other. -/
def printFiles (invocation : Invocation) (manner : Manner) :
    List Octets → LineState → Nat → Machine → Machine × Nat
  | [], state, exitCode, machine =>
    (if state.pendingReturn then invocation.print ['\r'] machine else machine, exitCode)
  | name :: rest, state, exitCode, machine =>
    match contentOf invocation name machine with
    | .ok (content, machine) =>
      let (text, state) := render manner state content
      printFiles invocation manner rest state exitCode (invocation.print text machine)
    | .error fault =>
      printFiles invocation manner rest state 1
        (invocation.complain (shownName name ++ (": " ++ fault).toList) machine)

/-- Prints the operands, or standard input if there are none. -/
def run : Tool := fun invocation machine =>
  let given := invocation.read optionRules
  match given.fault? with
  | some text => (invocation.refuse text machine, 1)
  | none =>
    if given.has .help || given.has .version then (machine, 0)
    else if !invocation.canPrint then
      (invocation.complain ("standard output: " ++ badDescriptor).toList machine, 1)
    else
      let names := if given.operands.isEmpty then [['-']] else given.operands
      let (machine, exitCode) := printFiles invocation (manner given) names .start 0 machine
      if names.contains ['-'] && (invocation.descriptors.stream? 0).isNone then
        (invocation.complain ("closing standard input: " ++ badDescriptor).toList machine, 1)
      else (machine, exitCode)

end FixtureHarness.Shell.Cat
