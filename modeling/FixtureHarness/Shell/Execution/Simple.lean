import FixtureHarness.Shell.Builtin.Directory
import FixtureHarness.Shell.Builtin.Print
import FixtureHarness.Shell.Builtin.Process
import FixtureHarness.Shell.Builtin.Test
import FixtureHarness.Shell.Execution.Process

/-! # Simple commands

The words of a simple command become fields, the first of which names a function, a builtin or a
program. Assignments in front of it hold while it runs, and for good if there is no name or a special
builtin.
-/

namespace FixtureHarness.Shell

namespace Action

/-! ## Programs -/

/-- The call of a program by its path. A file without a first line that names a program is read by the
shell. -/
def launchAt (files : FileTree) (name path : Octets) (arguments : List Octets) :
    Except LaunchFault Launch :=
  match installedAt? path with
  | some program => .ok ⟨program, name, arguments⟩
  | none =>
    match launchPath files maxInterpreters path arguments with
    | .error .notExecutable => .ok ⟨.shell, "/bin/sh".toList, path :: arguments⟩
    | result => result

/-- Whether a fault says that there is no file. -/
def isAbsence : LaunchFault → Bool
  | .notFound | .notADirectory => true
  | _ => false

/-- The first of some paths that can be launched, or the last fault that says more than that there is
no file. -/
def launchFirst (files : FileTree) (name : Octets) (arguments : List Octets)
    (fault : LaunchFault) : List Octets → Except LaunchFault Launch
  | [] => .error fault
  | path :: rest =>
    match launchAt files name path arguments with
    | .ok found => .ok found
    | .error other =>
      launchFirst files name arguments (if isAbsence other then fault else other) rest

/-- What a shell tells about a program that it cannot launch. -/
def launchText (fault : LaunchFault) : Octets :=
  if isAbsence fault then "not found".toList
  else (fault.message.toList.takeWhile (· ≠ '(')).dropLast

/-- The status for a program that cannot be launched. -/
def launchStatus : LaunchFault → Nat
  | .notFound | .notADirectory | .nameTooLong | .tooManyLinks => 127
  | _ => 126

/-- Puts a program in the place of the shell. -/
def replaceBy (kernel : Kernel) (path : Octets) (name : Octets) (arguments : List Octets) :
    Action Nat := do
  let session ← get
  let files := session.machine.files
  let paths := if name.contains '/' then [name] else candidates path name
  match launchFirst files name arguments .notFound paths with
  | .ok found =>
    let (machine, ending) := kernel.program found session
    set { session with machine := machine }
    stop (.replaced ending)
  | .error fault =>
    setStatus (launchStatus fault)
    warn (name ++ ':' :: ' ' :: launchText fault)
    stop .finished

/-! ## Builtins that run commands -/

/-- Runs its arguments as a script. -/
def evaluate (kernel : Kernel) (flags : Flags) (arguments : List Octets) : Action Nat :=
  if arguments.isEmpty then return 0
  else kernel.text flags.inside (List.intercalate [' '] arguments)

/-- The path of a script along the search path. -/
def scriptPath? (session : Session) (name : Octets) : Option Octets :=
  if name.contains '/' then some name
  else
    let isFile (path : Octets) : Bool :=
      match systemPlace? path, session.machine.files.locate (pathOf path) with
      | some (.program _), _ => true
      | _, .ok location =>
        match session.machine.files.lookup? location with
        | some (.file ..) => true
        | _ => false
      | _, .error _ => false
    (candidates (searchPath session) name).find? isFile

/-- The content of a script. A directory has none. -/
def readScript (path : Octets) : Action Octets := do
  let session ← get
  match session.machine.openForReading path with
  | .error fault => failOpening false path fault
  | .ok (machine, number) =>
    return match machine.remaining number with
      | .ok content => content
      | .error _ => []

/-- Runs the script in a file. -/
def source (kernel : Kernel) (arguments : List Octets) : Action Nat := do
  let (_, names) ← Builtin.options "" arguments
  match names with
  | [] => return 0
  | name :: _ =>
    let session ← get
    match scriptPath? session name with
    | none => fail (name ++ ": not found".toList)
    | some path =>
      let content ← readScript path
      change fun session => { session with command? := some path }
      kernel.script content

/-- Puts a program in the place of the shell, if one is named. -/
def execute (kernel : Kernel) (arguments : List Octets) : Action Nat := do
  match arguments with
  | [] => return 0
  | name :: arguments =>
    let session ← get
    replaceBy kernel (searchPath session) name arguments

/-! ## Builtins that change the flow -/

/-- Leaves loops or goes to their next turn. -/
def skipLoops (skip : Nat → Skip) (arguments : List Octets) : Action Nat := do
  let count ←
    match arguments with
    | [] => pure 1
    | argument :: _ => do
      let count ← natural argument
      if count = 0 then fail ("Illegal number: ".toList ++ argument) else pure count
  change fun session =>
    let loops := min count session.loops
    if loops = 0 then session else { session with skip := skip loops }
  return 0

/-- Returns from a function or a script. -/
def returnWith (arguments : List Octets) : Action Nat := do
  match arguments with
  | [] =>
    change fun session => { session with skip := .back false }
    let session ← get
    return session.status
  | argument :: _ =>
    change fun session => { session with skip := .back true }
    natural argument

/-- Ends the shell. -/
def exitWith (arguments : List Octets) : Action Nat := do
  match arguments with
  | [] => stop .exit
  | argument :: _ =>
    let status ← natural argument
    change fun session => { session with savedStatus? := some status }
    stop .exit

/-- Runs a builtin by its name. -/
def builtin (kernel : Kernel) (flags : Flags) (name : Octets) : Builtin :=
  match String.ofList name with
  | "." => source kernel
  | "eval" => evaluate kernel flags
  | "exec" => execute kernel
  | "break" => skipLoops .leave
  | "continue" => skipLoops .again
  | "return" => returnWith
  | "exit" => exitWith
  | "export" => Builtin.mark true
  | "readonly" => Builtin.mark false
  | "local" => Builtin.makeLocal
  | "set" => Builtin.set
  | "shift" => Builtin.shift
  | "times" => Builtin.times
  | "trap" => Builtin.trap
  | "unset" => Builtin.unset
  | "[" => Builtin.bracket
  | "test" => Builtin.test
  | "alias" => Builtin.makeAlias
  | "unalias" => Builtin.unalias
  | "bg" => Builtin.resume
  | "fg" => Builtin.resume
  | "cd" => Builtin.cd
  | "chdir" => Builtin.cd
  | "command" => Builtin.command
  | "echo" => Builtin.echo
  | "getopts" => Builtin.getopts
  | "hash" => Builtin.hash
  | "jobs" => Builtin.jobs
  | "kill" => Builtin.kill
  | "printf" => Builtin.printf
  | "pwd" => Builtin.pwd
  | "read" => Builtin.read
  | "type" => Builtin.type
  | "ulimit" => Builtin.ulimit
  | "umask" => Builtin.umask
  | "wait" => Builtin.wait
  | "false" => fun _ => return 1
  | _ => fun _ => return 0

/-- Runs a step as a builtin with a name: what it prints appears at its end. -/
def runAsBuiltin (name? : Option Octets) (step : Action Nat) : Action Unit := do
  let outside ← get
  set { outside with command? := name?, printed := [] }
  let run : Action Unit := do
    let status ← step
    if ← flush then setStatus status
    else
      warn ((name?.getD []) ++ ": I/O error".toList)
      setStatus (Nat.lor status 1)
  thenAlways run (change fun session =>
    { session with command? := outside.command?, printed := outside.printed })

/-- Runs a builtin. A fault ends the shell only if the builtin is special. -/
def runBuiltin (kernel : Kernel) (flags : Flags) (isSpecial : Bool) (name : Octets)
    (arguments : List Octets) : Action Unit := do
  match ← attempt (runAsBuiltin (some name) (builtin kernel flags name arguments)) with
  | .ok () => return ()
  | .error .fault => if isSpecial then stop .fault
  | .error cause => stop cause

/-! ## Functions -/

/-- How deep functions can call each other. -/
def maxCalls : Nat := 1000

/-- Calls a function. -/
def call (kernel : Kernel) (flags : Flags) (definition : Definition)
    (arguments : List Octets) : Action Unit := do
  let before ← get
  set { before with calls := before.calls + 1 }
  if maxCalls ≤ before.calls then
    fail ("Maximum function recursion depth (".toList ++ digits maxCalls ++
      ") reached".toList)
  change fun session =>
    { session with arguments := arguments, optionPlace := ⟨1, none⟩, loops := 0 }
  let run : Action Unit := do
    let _ ← kernel.command flags.inside (some definition.body)
  thenAlways run (change fun session =>
    { session with
      arguments := before.arguments, optionPlace := before.optionPlace, loops := before.loops
      calls := session.calls - 1
      skip := match session.skip with
        | .back _ => .nothing
        | skip => skip })

/-! ## Words -/

/-- What the words of a command have become. -/
structure Head where
  /-- The fields in front of the command name, which say how it is looked for. -/
  before : List Octets
  /-- The command name and the fields behind it. -/
  fields : List Octets
  /-- The words that were not expanded yet. -/
  rest : List Word
  /-- The search path to use in place of the usual one. -/
  searchPath? : Option Octets
  skipsFunctions : Bool
  /-- Whether the first builtin is special. There is none if a function or program comes first. -/
  isSpecial? : Option Bool
  found : Found

/-- Expands words until there is a field. -/
def firstFields (capture : Capture) : List Word → Action (List Octets × List Word)
  | [] => return ([], [])
  | word :: rest => do
    let fields ← expandFields capture word
    if fields.isEmpty then firstFields capture rest else return (fields, rest)

/-- Expands words until there is a field with a number. -/
def withField (capture : Capture) (index : Nat) (head : Head) : Action Head := do
  if index < head.fields.length then return head
  else
    let (more, rest) ← firstFields capture head.rest
    return { head with fields := head.fields ++ more, rest := rest }

/-- Passes over the options from a field on that say how the name behind them is looked for; the fuel
bounds their number. Gives the number of that name, or nothing if the options ask for something else.
-/
def passOptions (capture : Capture) : Nat → Nat → Head → Action (Head × Option Nat)
  | 0, _, head => return (head, none)
  | fuel + 1, index, head => do
    let head ← withField capture index head
    match head.fields[index]? with
    | none => return (head, none)
    | some ['-', '-'] =>
      let head ← withField capture (index + 1) head
      return (head, if index + 1 < head.fields.length then some (index + 1) else none)
    | some ('-' :: letter :: letters) =>
      let head :=
        if letter = 'p' then { head with searchPath? := some usualSearchPath } else head
      if (letter :: letters).all (· = 'p') then passOptions capture fuel (index + 1) head
      else return (head, none)
    | some _ => return (head, some index)

/-- Finds what a command name stands for, behind names that say how to look for it; the fuel bounds
their number. -/
def findHead (capture : Capture) : Nat → Head → Action Head
  | 0, head => return head
  | fuel + 1, head => do
    match head.fields with
    | [] => return head
    | name :: _ =>
      let session ← get
      let function? :=
        if head.skipsFunctions || name.contains '/' then none
        else session.functions.find? fun entry => entry.1 = name
      match function? with
      | some (_, definition) => return { head with found := .function definition }
      | none =>
        if name.contains '/' || !isBuiltin name then return { head with found := .nothing }
        else
          let head :=
            { head with
              found := .builtin, isSpecial? := head.isSpecial?.or (some (isSpecial name)) }
          if name ≠ "command".toList then return head
          else
            match ← passOptions capture readingBound 1 head with
            | (head, none) => return head
            | (head, some index) =>
              findHead capture fuel
                { head with
                  before := head.before ++ head.fields.take index
                  fields := head.fields.drop index, skipsFunctions := true }

/-- Expands the words behind the command name. -/
def restFields (capture : Capture) (assigns : Bool) : List Word → Action (List Octets)
  | [] => return []
  | word :: rest => do
    let fields ←
      if assigns && (assignedName? word).isSome then do
        let text ← expandText capture .assignment word
        pure [text]
      else expandFields capture word
    let more ← restFields capture assigns rest
    return fields ++ more

/-! ## Commands -/

/-- Sets the variables of assignments and gives their texts. -/
def assignAll (capture : Capture) (isLocal exports : Bool) : List Word → Action (List Octets)
  | [] => return []
  | word :: rest => do
    let text ← expandText capture .assignment word
    if isLocal then makeLocal text true
    else
      let (name, value?) := splitAssignment text
      setMarked name value? exports false false
    let more ← assignAll capture isLocal exports rest
    return text :: more

/-- Expands a text as if it were in double quotes. A text with a fault stays as it is. -/
def expandLine (capture : Capture) (text : Octets) : Action Octets := do
  let session ← get
  let reading :=
    { Reading.ofSource (Source.ofText text) session.aliases session.documents with
      again := session.atTextEnd, last := .textEnd }
  let expand : Action Octets := do
    match Reader.textWord reading with
    | .error fault =>
      change fun session => { session with atTextEnd := false }
      atLine fault.line
      fail ("Syntax error: " ++ fault.fault.message).toList
    | .ok (word, reading) =>
      change fun session =>
        { session with documents := reading.documents, atTextEnd := reading.again }
      expandText capture .document word
  match ← attempt expand with
  | .ok expanded => return expanded
  | .error .fault => return text
  | .error cause => stop cause

/-- The text in front of the line that shows a command. -/
def traceStart (kernel : Kernel) : Action Octets := do
  let session ← get
  let start := (session.value? "PS4".toList).getD []
  set { session with isTracing := true }
  let text ← expandLine (capture kernel) start
  change fun session => { session with isTracing := false }
  return text

/-- Shows a command before it runs, where standard error was connected to before. -/
def showCommand (kernel : Kernel) (shown : List Octets) (error? : Option Nat) : Action Unit := do
  let session ← get
  if session.has .xtrace && !session.isTracing then
    let start ← traceStart kernel
    let line := start ++ List.intercalate [' '] shown ++ ['\n']
    match error? with
    | some number =>
      onMachine fun machine => (machine.writeStream? number line).getD machine
    | none => return ()

/-- Runs what a command name stands for. -/
def runFound (kernel : Kernel) (flags : Flags) (head : Head) : Action Unit := do
  let arguments := head.fields.drop 1
  match head.fields, head.found with
  | [], _ => do
    let session ← get
    runAsBuiltin none (return session.outputStatus)
  | name :: _, .builtin =>
    runBuiltin kernel flags (head.isSpecial? = some true) name arguments
  | _, .function definition => call kernel flags definition arguments
  | name :: _, _ =>
    match ← findProgram head.searchPath? true name with
    | .program _ =>
      let session ← get
      let path := head.searchPath?.getD (searchPath session)
      let replace : Action Unit := do
        let _ ← replaceBy kernel path name arguments
      if flags.last && !session.hasTraps then replace
      else
        let status ← forkAndWait kernel replace
        setStatus status
    | _ => setStatus 127

/-- Runs a simple command. -/
def runSimple (kernel : Kernel) (flags : Flags) (line : Nat) (assignments words : List Word)
    (redirections : List Redirection) : Action Nat := do
  let capture := capture kernel
  atLine line
  change fun session => { session with outputStatus := 0 }
  let (fields, rest) ← firstFields capture words
  let head ← findHead capture readingBound ⟨[], fields, rest, none, false, none, .nothing⟩
  let name := head.fields.head?.getD []
  let isBuiltin := match head.found with
    | .builtin => true
    | _ => false
  let more ← restFields capture (isBuiltin && takesAssignments name) head.rest
  let head := { head with fields := head.fields ++ more, rest := [] }
  let isLocal := !head.fields.isEmpty && head.isSpecial? ≠ some true
  let isExec := isBuiltin && name = "exec".toList
  let before ← get
  if isLocal then pushLocals
  let connections ← redirections.mapM (connectionOf capture)
  let inside ← get
  let run : Action Unit := do
    if ← succeeds (connections.forM (connect capture)) then
      let texts ← assignAll capture isLocal (isExec && 1 < head.fields.length) assignments
      showCommand kernel (texts ++ head.before ++ head.fields) (inside.descriptors.stream? 2)
      runFound kernel flags head
    else
      setStatus 2
      if head.isSpecial? = some true then stop .fault
  if isExec then run else thenAlways run (disconnect connections inside.descriptors)
  closeLocals before.locals.length
  let session ← get
  return session.status

end Action

end FixtureHarness.Shell
