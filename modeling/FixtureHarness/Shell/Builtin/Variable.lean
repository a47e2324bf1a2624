import FixtureHarness.Shell.Builtin.Basic
import FixtureHarness.Shell.Expansion.Field

/-! # Builtins for options, arguments, variables and aliases -/

namespace FixtureHarness.Shell.Builtin

/-! ## Options and arguments -/

/-- Sets the arguments of the shell. -/
def setArguments (arguments : List Octets) : Action Unit :=
  Action.change fun session =>
    { session with arguments := arguments, optionPlace := ⟨1, none⟩ }

/-- The text behind a name up to a column. -/
def column (width : Nat) (text : Octets) : Octets :=
  text ++ List.replicate (width - text.length) ' '

/-- Shows all options, in words or as commands. -/
def showOptions (inWords : Bool) : Action Unit := do
  let session ← get
  if inWords then Action.printLine "Current option settings".toList
  ShellOption.table.forM fun entry =>
    let isOn := session.has entry.1
    let name := entry.2.1.toList
    Action.printLine
      (if inWords then column 16 name ++ (if isOn then "on" else "off").toList
      else (if isOn then "set -o " else "set +o ").toList ++ name)

/-- Turns an option on or off. -/
def setOption (option : ShellOption) (isOn : Bool) : Action Unit := do
  Action.change fun session =>
    { session with options := ShellOption.set session.options option isOn }
  if option = .monitor && isOn then
    Action.warn "can't access tty; job control turned off".toList
    Action.change fun session =>
      { session with options := ShellOption.set session.options option false }

/-- Turns the option with a letter on or off. -/
def setLetter (letter : Char) (isOn : Bool) : Action Unit :=
  match ShellOption.ofLetter? letter with
  | some option => setOption option isOn
  | none => Action.fail ("Illegal option -".toList ++ [letter])

/-- Turns the option with a name on or off, or shows all options. -/
def setNamed (name? : Option Octets) (isOn : Bool) : Action Unit :=
  match name? with
  | none => showOptions isOn
  | some name =>
    match ShellOption.ofName? name with
    | some option => setOption option isOn
    | none => Action.fail ("Illegal option -o ".toList ++ name)

/-- Follows the letters of an argument. Gives the arguments that are left. -/
def setLetters (isOn : Bool) : Octets → List Octets → Action (List Octets)
  | [], arguments => return arguments
  | 'o' :: letters, arguments => do
    setNamed arguments.head? isOn
    setLetters isOn letters (arguments.drop 1)
  | letter :: letters, arguments => do
    setLetter letter isOn
    setLetters isOn letters arguments

/-- Follows the arguments that set options; the fuel bounds their number. Gives the arguments that
are left. -/
def followOptions : Nat → List Octets → Action (List Octets)
  | 0, arguments => return arguments
  | fuel + 1, arguments => do
    match arguments with
    | ['-'] :: arguments =>
      Action.change fun session =>
        { session with
          options := session.options.filter fun option =>
            option ≠ .xtrace && option ≠ .verbose }
      return arguments
    | ['-', '-'] :: arguments =>
      if arguments.isEmpty then setArguments []
      return arguments
    | ('-' :: letters) :: arguments =>
      let arguments ← setLetters true letters arguments
      followOptions fuel arguments
    | ('+' :: letters) :: arguments =>
      let arguments ← setLetters false letters arguments
      followOptions fuel arguments
    | arguments => return arguments

/-- Sets options and arguments, or shows all variables. -/
def set : Builtin := fun arguments => do
  if arguments.isEmpty then
    let session ← get
    (session.bindings.sorted fun held => held.value?.isSome).forM fun entry =>
      Action.print (variableLine [] entry.1 entry.2.value?)
  else
    let arguments ← followOptions (arguments.length + 1) arguments
    if !arguments.isEmpty then setArguments arguments
  return 0

/-- Takes arguments off the beginning. -/
def shift : Builtin := fun arguments => do
  let count ←
    match arguments with
    | [] => pure 1
    | argument :: _ => Action.natural argument
  let session ← get
  if session.arguments.length < count then Action.fail "can't shift that many".toList
  else
    setArguments (session.arguments.drop count)
    return 0

/-! ## Options of scripts -/

/-- What the next option of a script is. -/
structure NextOption where
  /-- There are no more options. -/
  isEnd : Bool
  letter : Char
  /-- The place behind. -/
  place : OptionPlace

/-- Sets the variable for the value of an option. -/
def setOptionValue (value? : Option Octets) : Action Unit :=
  match value? with
  | some value => Action.assign "OPTARG".toList value
  | none => Action.unset "OPTARG".toList

/-- Complains about an option in a script, or tells in the variable for values. -/
def refuseOption (isQuiet : Bool) (letter : Char) (text : String) : Action Unit := do
  if isQuiet then setOptionValue (some [letter])
  else
    Action.printError (text.toList.flatMap fun char => if char = '*' then [letter] else [char])
    setOptionValue none

/-- Finds the next option among arguments. -/
def nextOption (allowed : Octets) (arguments : List Octets) (place : OptionPlace) :
    Action NextOption := do
  let current :=
    match place.offset? with
    | some offset =>
      if place.index ≤ 1 then []
      else ((arguments[place.index - 2]?).getD []).drop offset
    | none => []
  let letters? : Option (Octets × Nat) :=
    if !current.isEmpty then some (current, place.index)
    else
      match arguments[place.index - 1]? with
      | some ('-' :: letter :: letters) => some (letter :: letters, place.index + 1)
      | _ => none
  match letters? with
  | none => return ⟨true, '?', ⟨place.index, none⟩⟩
  | some (['-'], index) =>
    if current.isEmpty then return ⟨true, '?', ⟨index, none⟩⟩ else found ['-'] index
  | some (letters, index) => found letters index
where
  /-- Takes a letter off the letters of the argument before an index. -/
  found (letters : Octets) (index : Nat) : Action NextOption := do
    let isQuiet := allowed.head? = some ':'
    let letter := letters.head?.getD '?'
    let rest := letters.drop 1
    let behind : OptionPlace :=
      ⟨index, some (((arguments[index - 2]?).getD []).length - rest.length)⟩
    match optionKind? letter allowed with
    | none =>
      refuseOption isQuiet letter "Illegal option -*\n"
      return ⟨false, '?', behind⟩
    | some false =>
      setOptionValue (some [])
      return ⟨false, letter, behind⟩
    | some true =>
      if !rest.isEmpty then
        setOptionValue (some rest)
        return ⟨false, letter, ⟨index, none⟩⟩
      else
        match arguments[index - 1]? with
        | some value =>
          setOptionValue (some value)
          return ⟨false, letter, ⟨index + 1, none⟩⟩
        | none =>
          refuseOption isQuiet letter "No arg for -* option\n"
          return ⟨false, if isQuiet then ':' else '?', ⟨index, none⟩⟩

/-- Reads the next option of a script into variables. -/
def getopts : Builtin := fun arguments => do
  match arguments with
  | allowed :: name :: given => do
    let session ← get
    let among := if given.isEmpty then session.arguments else given
    let place :=
      if among.length + 1 < session.optionPlace.index then ⟨1, none⟩ else session.optionPlace
    let next ← nextOption allowed among place
    let session ← get
    let exports := ((session.bindings.held? "OPTIND".toList).map (·.exported)).getD false
    let index : Variable := ⟨some (digits next.place.index), exports, false, true⟩
    Action.change fun session =>
      { session with bindings := session.bindings.put "OPTIND".toList index }
    Action.assign name [next.letter]
    Action.change fun session => { session with optionPlace := next.place }
    return if next.isEnd then 1 else 0
  | _ => Action.fail "Usage: getopts optstring var [arg...]".toList

/-! ## Variables -/

/-- Marks variables. -/
def markAll (exports : Bool) : List Octets → Action Unit
  | [] => return ()
  | argument :: rest => do
    let (name, value?) := Action.splitAssignment argument
    let session ← get
    match value?, session.bindings.held? name with
    | none, some held =>
      let marked := if exports then { held with exported := true }
        else { held with readOnly := true }
      Action.change fun session =>
        { session with bindings := session.bindings.put name marked }
    | _, _ => Action.setMarked name value? exports (!exports) false
    markAll exports rest

/-- Marks variables, or shows those that are marked. -/
def mark (exports : Bool) : Builtin := fun arguments => do
  let (choices, names) ← options "p" arguments
  if choices.isEmpty && !names.isEmpty then markAll exports names
  else
    let session ← get
    let start := if exports then "export " else "readonly "
    let isMarked (held : Variable) : Bool := if exports then held.exported else held.readOnly
    (session.bindings.sorted isMarked).forM fun entry =>
      Action.print (variableLine start.toList entry.1 entry.2.value?)
  return 0

/-- Removes variables or functions. -/
def unset : Builtin := fun arguments => do
  let (choices, names) ← options "vf" arguments
  let isFunction := (choices.getLast?.map (·.letter)) = some 'f'
  names.forM fun name =>
    if isFunction then
      Action.change fun session =>
        { session with
          functions := session.functions.filter fun entry => entry.1 ≠ name }
    else Action.unset name
  return 0

/-- Makes variables local to the function that is being called. -/
def makeLocal : Builtin := fun arguments => do
  let session ← get
  if session.locals.isEmpty then Action.fail "not in a function".toList
  else
    let (_, names) ← options "" arguments
    names.forM fun argument => Action.makeLocal argument false
    return 0

/-! ## Reading -/

/-- What was read of a line. -/
structure ReadLine where
  /-- The characters, some of which stand for themselves. -/
  runs : List Run
  /-- How many characters were taken. -/
  taken : Nat
  /-- Whether the line had an end. -/
  ended : Bool

/-- The runs of characters that each either may separate fields or not. -/
def runsOf : List (Char × Bool) → List Run
  | [] => [⟨.atSeparators, []⟩]
  | (char, escaped) :: rest =>
    let shard := Shard.letter char escaped
    match runsOf rest with
    | run :: others =>
      if escaped then ⟨.atSeparators, []⟩ :: Run.whole [shard] :: run :: others
      else { run with shards := shard :: run.shards } :: others
    | [] => []

/-- Reads the characters of a line. A backslash joins lines and escapes, unless it stands for itself.
-/
def lineChars (raw : Bool) : Octets → List (Char × Bool) × Nat × Bool
  | [] => ([], 0, false)
  | '\n' :: _ => ([], 1, true)
  | '\\' :: rest =>
    if raw then
      let (line, taken, ended) := lineChars raw rest
      (('\\', false) :: line, taken + 1, ended)
    else
      match rest with
      | [] => ([], 1, false)
      | char :: rest =>
        let (line, taken, ended) := lineChars raw rest
        (if char = '\n' then line else (char, true) :: line, taken + 2, ended)
  | char :: rest =>
    let (line, taken, ended) := lineChars raw rest
    (if char = nul then line else (char, false) :: line, taken + 1, ended)

/-- Gives variables the fields of a line. -/
def assignFields : List Octets → List (List Shard) → Action Unit
  | [], _ => return ()
  | name :: names, fields => do
    Action.assign name (Shard.text (fields.head?.getD []))
    assignFields names (fields.drop 1)

/-- Reads a line from standard input into variables. -/
def read : Builtin := fun arguments => do
  let (choices, names) ← options "p:r" arguments
  let raw := choices.any fun choice => choice.letter = 'r'
  if names.isEmpty then Action.fail "arg count".toList
  else
    let session ← get
    let stream? := session.descriptors.stream? 0
    let content :=
      match stream? with
      | none => []
      | some number =>
        match session.machine.remaining number with
        | .ok content => content
        | .error _ => []
    let (line, taken, ended) := lineChars raw content
    Action.onMachine fun machine =>
      match stream? with
      | some number => machine.advance number taken
      | none => machine
    assignFields names (fieldsOf session.separators (some names.length) (runsOf line))
    return if ended then 0 else 1

/-! ## Aliases -/

/-- The line that shows an alias. -/
def aliasLine (entry : Octets × Octets) : Octets :=
  variableLine [] entry.1 (some entry.2)

/-- Puts an alias in place of the one of its name, or behind all. -/
def putAlias (name value : Octets) : List (Octets × Octets) → List (Octets × Octets)
  | [] => [(name, value)]
  | entry :: rest =>
    if entry.1 = name then (name, value) :: rest else entry :: putAlias name value rest

/-- The number of rows of the table of aliases. -/
def aliasRows : Nat := 39

/-- Sets or shows aliases. -/
def setAliases : List Octets → Action Nat
  | [] => return 0
  | argument :: rest => do
    let session ← get
    let tail := argument.drop 1
    let nameTail := tail.takeWhile (· ≠ '=')
    let status ←
      if nameTail.length < tail.length then
        let name := argument.take 1 ++ nameTail
        let value := tail.drop (nameTail.length + 1)
        Action.change fun session =>
          { session with aliases := putAlias name value session.aliases }
        pure 0
      else
        match session.aliases.find? fun entry => entry.1 = argument with
        | some entry =>
          Action.print (aliasLine entry)
          pure 0
        | none =>
          Action.printError ("alias: ".toList ++ argument ++ " not found\n".toList)
          pure 1
    let more ← setAliases rest
    return max status more

/-- Sets or shows aliases, or shows all. -/
def makeAlias : Builtin := fun arguments => do
  if arguments.isEmpty then
    let session ← get
    (byRows aliasRows session.aliases).forM fun entry => Action.print (aliasLine entry)
    return 0
  else setAliases arguments

/-- Removes aliases. -/
def removeAliases : List Octets → Action Nat
  | [] => return 0
  | name :: rest => do
    let session ← get
    let status ←
      if session.aliases.any fun entry => entry.1 = name then
        Action.change fun session =>
          { session with aliases := session.aliases.filter fun entry => entry.1 ≠ name }
        pure 0
      else
        Action.printError ("unalias: ".toList ++ name ++ " not found\n".toList)
        pure 1
    let more ← removeAliases rest
    return max status more

/-- Removes aliases, or all of them. -/
def unalias : Builtin := fun arguments => do
  let (choices, names) ← options "a" arguments
  if !choices.isEmpty then
    Action.change fun session => { session with aliases := [] }
    return 0
  else removeAliases names

end FixtureHarness.Shell.Builtin
