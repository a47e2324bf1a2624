import FixtureHarness.CommandLine.Options
import FixtureHarness.Text.Lines

/-! # Reading command lines

The options before a command and those behind it are read apart, each at most once; behind the
command they win. An option whose value is the next argument is settled only when something else
comes, so the faults of a command line are found in that order.
-/

namespace FixtureHarness.CommandLine

/-- The reading of a command line, which may end in a fault or before the end in a request. -/
inductive Stop where
  | usage (error : UsageError)
  | request (request : Request)
  deriving DecidableEq, Repr

/-- The result of reading a part of a command line. -/
abbrev Reading (Result : Type) := Except Stop Result

/-- Ends the reading in a fault. -/
def refuse {Result : Type} (error : UsageError) : Reading Result :=
  .error (.usage error)

/-- What was given on one side of the command. -/
structure Given where
  /-- The options that are settled, with their values. -/
  settled : List (Opt × String)
  /-- The last option, with its value if it has come. -/
  pending? : Option (Opt × Option String)
  names : List String
  deriving DecidableEq, Repr

namespace Given

/-- Nothing given. -/
def empty : Given := ⟨[], none, []⟩

/-- The value of an option that is settled. -/
def value? (given : Given) (option : Opt) : Option String :=
  (given.settled.find? fun entry => entry.1 = option).map (·.2)

/-- Whether an option is settled. -/
def has (given : Given) (option : Opt) : Bool :=
  (given.value? option).isSome

/-- Checks the value of an option. -/
def checkValue (option : Opt) (value : String) : Reading Unit :=
  match option.kind? with
  | some .path => if value.isEmpty then refuse (.missingValue option) else .ok ()
  | some .format =>
    match ReportFormat.ofName? value with
    | some _ => .ok ()
    | none => refuse (.invalidValue value option (ReportFormat.unknownMessage value))
  | _ => .ok ()

/-- Settles an option with its value. -/
def add (given : Given) (option : Opt) (value : String) : Reading Given :=
  if given.has option then refuse (.repeatedOption option)
  else do
    checkValue option value
    .ok { given with settled := given.settled ++ [(option, value)] }

/-- Settles the last option. -/
def settle (given : Given) : Reading Given :=
  match given.pending? with
  | none => .ok given
  | some (option, none) => refuse (.missingValue option)
  | some (option, some value) => { given with pending? := none }.add option value

/-- Whether the last option waits for its value. -/
def isWaiting (given : Given) : Bool :=
  match given.pending? with
  | some (_, none) => true
  | _ => false

/-- Gives the last option its value. -/
def supply (given : Given) (value : String) : Given :=
  match given.pending? with
  | some (option, none) => { given with pending? := some (option, some value) }
  | _ => given

/-- Takes a flag. Help and version end the reading. -/
def takeFlag (given : Given) (flag : Opt) : Reading Given := do
  let given ← given.settle
  match flag with
  | .help => .error (.request .showHelp)
  | .version => .error (.request .showVersion)
  | _ => given.add flag ""

/-- Takes an option with a value that is written to it, or one that has still to come. -/
def takeOption (given : Given) (option : Opt) : Option String → Reading Given
  | some value => do (← given.settle).add option value
  | none => do
    let given ← given.settle
    .ok { given with pending? := some (option, none) }

end Given

/-! ## Arguments -/

/-- The name and the value of an argument behind its two hyphens. -/
def splitLong (text : List Char) : String × Option String :=
  let name := text.takeWhile (· ≠ '=')
  match text.drop name.length with
  | [] => (String.ofList name, none)
  | _ :: value => (String.ofList name, some (String.ofList value))

/-- Takes an argument that begins with two hyphens. -/
def takeLong (known : List Opt) (given : Given) (text : List Char) : Reading Given :=
  let (name, value?) := splitLong text
  match known.find? fun option => option.long = name with
  | none => refuse (.unexpectedArgument ("--" ++ name))
  | some option =>
    if option.kind?.isSome then given.takeOption option value?
    else
      match value? with
      | some value => refuse (.unneededValue value option)
      | none => given.takeFlag option

/-- The value that is written to a short option. -/
def attachedValue? : List Char → Option String
  | [] => none
  | '=' :: rest => some (String.ofList rest)
  | text => some (String.ofList text)

/-- Takes the letters of an argument that begins with one hyphen. -/
def takeShort (known : List Opt) : Given → List Char → Reading Given
  | given, [] => .ok given
  | given, letter :: rest =>
    match known.find? fun option => option.short? = some letter with
    | none => refuse (.unexpectedArgument ("-" ++ String.singleton letter))
    | some option =>
      if option.kind?.isSome then given.takeOption option (attachedValue? rest)
      else do takeShort known (← given.takeFlag option) rest

/-- What an argument looks like. -/
inductive Shape where
  | ending
  | long (text : List Char)
  | short (text : List Char)
  | plain
  deriving DecidableEq, Repr

/-- What an argument looks like; a hyphen alone is plain. -/
def shapeOf (argument : String) : Shape :=
  match argument.toList with
  | ['-', '-'] => .ending
  | '-' :: '-' :: rest => .long rest
  | ['-'] => .plain
  | '-' :: rest => .short rest
  | _ => .plain

/-! ## Behind the command -/

/-- Takes a name. -/
def takeName (arity : CommandName.Arity) (given : Given) (name : String) : Reading Given :=
  let room :=
    match arity with
    | .none => false
    | .one => given.names.isEmpty
    | .many => true
  if room then do
    let given ← given.settle
    .ok { given with names := given.names ++ [name] }
  else refuse (.unexpectedArgument name)

/-- Reads the arguments behind a command. `open` says whether options may still come. -/
def readTail (command : CommandName) : Bool → Given → List String → Reading Given
  | _, given, [] => given.settle
  | false, given, argument :: rest => do
    readTail command false (← takeName command.arity given argument) rest
  | true, given, argument :: rest =>
    let known := optionsOf (some command)
    match shapeOf argument with
    | .ending => readTail command false given rest
    | .long text => do readTail command true (← takeLong known given text) rest
    | .short text => do readTail command true (← takeShort known given text) rest
    | .plain =>
      if given.isWaiting then readTail command true (given.supply argument) rest
      else do readTail command true (← takeName command.arity given argument) rest

/-! ## Before the command -/

/-- What the environment says about the configuration file. -/
structure Environment where
  config? : Option String
  /-- The specification of the log filter. -/
  filter? : Option String
  deriving DecidableEq, Repr

/-- Completes what was given by the environment. -/
def addEnvironment (environment : Environment) (given : Given) : Reading Given :=
  match environment.config? with
  | some value => if given.has .config then .ok given else given.add .config value
  | none => .ok given

/-- The command behind its options. -/
def commandOf (command : CommandName) (given : Given) : Reading Command :=
  match command with
  | .run =>
    let format := (given.value? .output).bind ReportFormat.ofName?
    .ok (.run given.names (format.getD .text) ((given.value? .suite).getD "transformer"))
  | .resolve =>
    match given.names with
    | [] => refuse .missingName
    | name :: _ => .ok (.resolve name (given.has .write))
  | .list => .ok .list
  | .check => .ok .check

/-- The request that both sides of a command make. -/
def requestOf (environment : Environment) (before behind : Given) (command : Command) : Request :=
  let value? (option : Opt) := (behind.value? option).or (before.value? option)
  let config? := (value? .config).or environment.config?
  .perform
    { config? := config?.map Path.mk
      root? := (value? .root).map Path.mk
      fixtureDirectory? := (value? .fixtureDirectory).map Path.mk
      program? := value? .runner }
    (before.has .verbose || behind.has .verbose) command

/-- Reads a command with all behind it. -/
def readCommand (environment : Environment) (before : Given) (name : CommandName)
    (rest : List String) : Reading Request := do
  let behind ← readTail name true .empty rest
  let _ ← addEnvironment environment behind
  let command ← commandOf name behind
  let before ← before.settle
  let _ ← addEnvironment environment before
  .ok (requestOf environment before behind command)

/-- Reads a request for help, which may name a command. No command has commands of its own. -/
def readHelp : List String → Reading Request
  | [] => .ok .showHelp
  | name :: rest =>
    if (CommandName.ofText? name).isSome || name = "help" then
      match rest with
      | [] => .ok .showHelp
      | inner :: _ => refuse (.unknownCommand inner)
    else refuse (.unknownCommand name)

/-- Reads the end of a command line without a command. -/
def readEnd (environment : Environment) (given : Given) : Reading Request := do
  let given ← given.settle
  let given ← addEnvironment environment given
  refuse (if given.settled.isEmpty then .noArguments else .missingCommand)

/-- Refuses an argument that is no command. -/
def refuseCommand (isOpen : Bool) (name : String) : Reading Request :=
  if !isOpen && ((CommandName.ofText? name).isSome || name = "help") then
    refuse (.unexpectedArgument name)
  else refuse (.unknownCommand name)

/-- Reads the arguments up to a command and then the command. -/
def readHead (environment : Environment) : Given → List String → Reading Request
  | given, [] => readEnd environment given
  | given, argument :: rest =>
    let known := optionsOf none
    match shapeOf argument with
    | .ending =>
      match rest with
      | [] => readEnd environment given
      | name :: _ => refuseCommand false name
    | .long text => do readHead environment (← takeLong known given text) rest
    | .short text => do readHead environment (← takeShort known given text) rest
    | .plain =>
      if given.isWaiting then readHead environment (given.supply argument) rest
      else
        match CommandName.ofText? argument with
        | some name => readCommand environment given name rest
        | none => if argument = "help" then readHelp rest else refuseCommand true argument

/-- Reads a command line. -/
def read (environment : Environment) (arguments : List String) : Except UsageError Request :=
  match readHead environment .empty arguments with
  | .ok request => .ok request
  | .error (.request request) => .ok request
  | .error (.usage error) => .error error

end FixtureHarness.CommandLine
