import FixtureHarness.Shell.Execution.Script

/-! # Starting a shell

A shell gets its variables from the program that starts it, and its options and arguments from how it
is called. Its script is an argument, a file, or what is on standard input.
-/

namespace FixtureHarness.Shell

/-! ## Sessions at the start -/

/-- The variables that a shell knows before it has any from outside. -/
def knownVariables : Variables :=
  let known (name : String) (value? : Option Octets) : Octets × Variable :=
    (name.toList, ⟨value?, false, false, true⟩)
  [known "IFS" (some usualSeparators), known "MAIL" none, known "MAILPATH" none,
    known "OPTIND" (some ['1']), known "PATH" (some usualSearchPath),
    known "PS1" (some "# ".toList), known "PS2" (some "> ".toList),
    known "PS4" (some "+ ".toList)]

/-- Sets a variable at the start. Its other marks stay. -/
def setAtStart (bindings : Variables) (name : String) (value : Octets) (exports : Bool) :
    Variables :=
  let held := (bindings.held? name.toList).getD ⟨none, false, false, true⟩
  bindings.put name.toList
    { held with value? := some value, exported := held.exported || exports }

/-- The variables of a shell that is started in a session. -/
def startVariables (session : Session) : Variables :=
  let given := session.bindings.filter fun entry => entry.2.exported && entry.2.value?.isSome
  let bindings := given.foldl (fun (bindings : Variables) entry =>
    let isKnown := ((bindings.held? entry.1).map (·.fixed)).getD false
    bindings.put entry.1 ⟨entry.2.value?, true, false, isKnown⟩) knownVariables
  let bindings := setAtStart bindings "IFS" usualSeparators false
  let bindings := setAtStart bindings "OPTIND" ['1'] false
  let bindings := setAtStart bindings "PPID" (digits (session.ancestors.head?.getD 0)) false
  setAtStart bindings "PWD" (Builtin.pathText session.machine.files.working) true

/-- The session of a shell that is started in another one, whose process it takes. -/
def started (name : Octets) (session : Session) : Session :=
  { Session.fresh session.machine session.descriptors session.process session.ancestors with
    name := name, bindings := startVariables session
    deaf := session.deaf ++ session.traps.map (·.1)
    umask := session.umask, limits := session.limits }

namespace Action

/-! ## Calls -/

/-- Follows the letters of an option. Tells whether a script is among the arguments. -/
def callLetters (isOn : Bool) : Octets → Bool → List Octets → Action (Bool × List Octets)
  | [], hasScript, arguments => return (hasScript, arguments)
  | 'c' :: letters, _, arguments => callLetters isOn letters true arguments
  | 'l' :: letters, hasScript, arguments => callLetters isOn letters hasScript arguments
  | 'o' :: letters, hasScript, arguments => do
    Builtin.setNamed arguments.head? isOn
    callLetters isOn letters hasScript (arguments.drop 1)
  | letter :: letters, hasScript, arguments => do
    Builtin.setLetter letter isOn
    callLetters isOn letters hasScript arguments

/-- Follows the options that a shell is called with; the fuel bounds their number. -/
def callOptions : Nat → Bool → List Octets → Action (Bool × List Octets)
  | 0, hasScript, arguments => return (hasScript, arguments)
  | fuel + 1, hasScript, arguments => do
    match arguments with
    | ['-'] :: arguments => return (hasScript, arguments)
    | ['-', '-'] :: arguments => return (hasScript, arguments)
    | ('-' :: letters) :: arguments =>
      let (hasScript, arguments) ← callLetters true letters hasScript arguments
      callOptions fuel hasScript arguments
    | ('+' :: letters) :: arguments =>
      let (hasScript, arguments) ← callLetters false letters hasScript arguments
      callOptions fuel hasScript arguments
    | arguments => return (hasScript, arguments)

/-- Sets the name and the arguments of the shell. -/
def setCall (name? : Option Octets) (arguments : List Octets) : Action Unit :=
  change fun session =>
    { session with name := name?.getD session.name, arguments := arguments }

/-- Takes all that is on standard input. -/
def takeInput : Action Octets := do
  let session ← get
  match session.descriptors.stream? 0 with
  | none => return []
  | some number =>
    match session.machine.drain number with
    | .error _ => return []
    | .ok (content, machine) =>
      set { session with machine := machine }
      return content

/-- Runs what is on standard input, or the script of a file, as the shell itself. A shell that asks
for its lines forgets the rest of its input at a fault. -/
def runOwnInput (kernel : Kernel) (content : Octets) : Action Unit := do
  let before ← get
  match ← attempt (runInput kernel true content) with
  | .ok _ => return ()
  | .error cause =>
    let session ← get
    if cause = .fault && session.has .interactive then
      leaveAll false
      closeLocals 0
      change fun session => { session with descriptors := before.descriptors }
      let _ ← runInput kernel true []
    else stop cause

/-- Runs a shell that is called with arguments. -/
def runShell (kernel : Kernel) (arguments : List Octets) : Action Unit := do
  let (hasScript, operands) ← callOptions (arguments.length + 1) false arguments
  let _ ← flush
  let session ← get
  if session.has .interactive then warn "can't access tty; job control turned off".toList
  match hasScript, operands with
  | true, [] => fail "-c requires an argument".toList
  | true, script :: rest =>
    setCall rest.head? (rest.drop 1)
    let _ ← kernel.text ⟨false, !session.has .stdin⟩ script
    if session.has .stdin then
      let content ← takeInput
      runOwnInput kernel content
  | false, operands =>
    match session.has .stdin, operands with
    | false, file :: rest =>
      let content ← readScript file
      setCall (some file) rest
      runOwnInput kernel content
    | _, _ =>
      setCall none operands
      change fun session =>
        { session with options := ShellOption.set session.options .stdin true }
      let content ← takeInput
      runOwnInput kernel content

/-- Runs a program in the place of a shell. -/
def runProgram (kernel : Kernel) (launch : Launch) (session : Session) : Machine × Ending :=
  match launch.program with
  | .tool run =>
    let (machine, code) :=
      run ⟨launch.name, launch.arguments, session.descriptors⟩ session.machine
    (machine, .exited code)
  | .shell =>
    let run : Action Ending := do
      let result ← attempt (runShell kernel launch.arguments)
      endWith kernel result
    let (ending, ended) := run (started launch.name session)
    (ended.machine, ending.toOption.getD (.signalled 11))

end Action

end FixtureHarness.Shell
