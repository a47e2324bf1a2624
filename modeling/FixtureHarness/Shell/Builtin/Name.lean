import FixtureHarness.Shell.Builtin.Variable

/-! # What names stand for

A name is that of a function, a builtin or a program, looked for in this order. Builtins tell what a
name stands for.
-/

namespace FixtureHarness.Shell

/-- What a name stands for where a command begins. -/
inductive Found where
  | function (definition : Definition)
  | builtin
  /-- A program by its path. -/
  | program (path : Octets)
  | nothing

namespace Action

/-- The search path of programs. -/
def searchPath (session : Session) : Octets :=
  (session.value? "PATH".toList).getD []

/-- Remembers where a program was found. -/
def track (name path : Octets) : Action Unit :=
  change fun session =>
    if session.found.any fun entry => entry.1 = name then session
    else { session with found := session.found ++ [(name, path)] }

/-- Looks for a program along a search path. Complains on demand if there is none. -/
def findProgram (searchPath? : Option Octets) (complains : Bool) (name : Octets) :
    Action Found := do
  if name.contains '/' then return .program name
  else
    let session ← get
    match search session.machine.files (searchPath?.getD (searchPath session)) name with
    | .ok path =>
      if searchPath?.isNone then track name path
      return .program path
    | .error isForbidden =>
      let cause := if isForbidden then ": Permission denied" else ": not found"
      if complains then warn (name ++ cause.toList)
      return .nothing

/-- Looks for what a name stands for. -/
def find (skipsFunctions : Bool) (searchPath? : Option Octets) (complains : Bool)
    (name : Octets) : Action Found := do
  let session ← get
  let function? :=
    if skipsFunctions || name.contains '/' then none
    else session.functions.find? fun entry => entry.1 = name
  match function? with
  | some (_, definition) => return .function definition
  | none =>
    if isBuiltin name then return .builtin else findProgram searchPath? complains name

end Action

namespace Builtin

/-- Tells what a name stands for, in words or as a command. -/
def describe (inWords : Bool) (searchPath? : Option Octets) (name : Octets) : Action Nat := do
  let session ← get
  let tell (text : String) (short : Octets) : Action Nat := do
    Action.printLine (if inWords then name ++ text.toList else short)
    return 0
  let unknown : Action Nat := do
    if inWords then Action.printLine (name ++ ": not found".toList)
    return 127
  if (Keyword.ofText? name).isSome then tell " is a shell keyword" name
  else
    match session.aliases.find? fun entry => entry.1 = name with
    | some entry =>
      if inWords then
        Action.printLine (name ++ " is an alias for ".toList ++ entry.2)
      else Action.print ("alias ".toList ++ aliasLine entry)
      return 0
    | none =>
      let tracked? := if searchPath?.isSome then none
        else session.found.find? fun entry => entry.1 = name
      match tracked? with
      | some (_, path) =>
        Action.printLine
          (if inWords then name ++ " is a tracked alias for ".toList ++ path else path)
        return 0
      | none =>
        let before ← get
        match ← Action.find false searchPath? false name with
        | .function _ => tell " is a shell function" name
        | .builtin =>
          tell (if isSpecial name then " is a special shell builtin" else " is a shell builtin")
            name
        | .program path =>
          Action.change fun session => { session with found := before.found }
          let exists? := match candidateAt session.machine.files path with
            | .missing _ => false
            | _ => true
          if exists? then
            Action.printLine (if inWords then name ++ " is ".toList ++ path else path)
            return 0
          else unknown
        | .nothing => unknown

/-- Tells what names stand for. -/
def describeAll : List Octets → Action Nat
  | [] => return 0
  | name :: rest => do
    let status ← describe true none name
    let more ← describeAll rest
    return Nat.lor status more

/-- Tells what names stand for. -/
def type : Builtin := describeAll

/-- Tells what the command stands for that would be run. -/
def command : Builtin := fun arguments => do
  let (choices, arguments) ← options "pvV" arguments
  let letters := choices.map (·.letter)
  let searchPath? := if letters.contains 'p' then some usualSearchPath else none
  match arguments with
  | [] => return 0
  | name :: _ =>
    if letters.contains 'V' then describe true searchPath? name
    else if letters.contains 'v' then describe false searchPath? name
    else return 0

/-- The number of rows of the table of programs that were found. -/
def programRows : Nat := 31

/-- Looks for programs anew. -/
def findAgain : List Octets → Action Nat
  | [] => return 0
  | name :: rest => do
    Action.change fun session =>
      { session with found := session.found.filter fun entry => entry.1 ≠ name }
    let found ← Action.find false none true name
    let more ← findAgain rest
    return match found with
      | .nothing => 1
      | _ => more

/-- Shows or forgets where programs were found, or looks for them anew. -/
def hash : Builtin := fun arguments => do
  let (choices, names) ← options "r" arguments
  if !choices.isEmpty then
    Action.change fun session => { session with found := [] }
    return 0
  else if names.isEmpty then
    let session ← get
    (byRows programRows session.found).forM fun entry => Action.printLine entry.2
    return 0
  else findAgain names

end Builtin

end FixtureHarness.Shell
