import FixtureHarness.Shell.Builtin.Name
import FixtureHarness.Shell.Execution.Redirection

/-! # Processes and traps

A part of a script runs in a process of its own: it starts with a copy of the session, and only what
is shared with other programs is left of it when it ends. A shell that ends runs its trap first.
-/

namespace FixtureHarness.Shell

namespace Action

/-! ## Traps -/

/-- Runs the trap of a signal that came, unless commands are being passed over. -/
def runTrap (kernel : Kernel) (status signal : Nat) : Action Unit := do
  let session ← get
  if session.skip = .nothing && session.caught.contains signal then
    set { session with caught := session.caught.filter (· ≠ signal) }
    match session.trap? signal with
    | none => return ()
    | some action =>
      let _ ← kernel.text .none action
      change fun session =>
        if session.skip = .back true then session else { session with status := status }

/-- Runs the traps of the signals that came, in the order of their numbers. -/
def runTraps (kernel : Kernel) : Action Unit := do
  let session ← get
  if !session.caught.isEmpty then
    let before? := session.savedStatus?
    let status := before?.getD session.status
    change fun session => { session with savedStatus? := some status }
    (List.range (Signal.greatest + 1)).forM (runTrap kernel status)
    change fun session => { session with savedStatus? := before? }

/-! ## Endings -/

/-- Leaves everything that was being run. A status that was saved counts after a command to end. -/
def leaveAll (told : Bool) : Action Unit :=
  change fun session =>
    { session with
      status := if told then session.savedStatus?.getD session.status else session.status
      savedStatus? := none, skip := .nothing, loops := 0, isTracing := false }

/-- Runs the trap of the end of the shell. Gives an ending only if the trap brought it. -/
def runLastTrap (kernel : Kernel) : Action (Option Ending) := do
  let session ← get
  match session.trap? 0 with
  | none => return none
  | some action =>
    set { session with
      traps := session.traps.filter fun entry => entry.1 ≠ 0
      savedStatus? := some session.status, skip := .nothing }
    match ← attempt (kernel.text .none action) with
    | .ok _ =>
      leaveAll true
      return none
    | .error (.replaced ending) => return some ending
    | .error .exhausted => return some (.signalled 11)
    | .error cause =>
      leaveAll (cause = .exit)
      return none

/-- Ends the shell after a step. -/
def endWith {Result : Type} (kernel : Kernel) : Except Stop Result → Action Ending
  | .error (.replaced ending) => return ending
  | .error .exhausted => return .signalled 11
  | result => do
    match result with
    | .error cause => leaveAll (cause = .exit)
    | .ok _ => change fun session => { session with savedStatus? := none }
    let ending? ← runLastTrap kernel
    let session ← get
    return ending?.getD (.exited (session.status % 256))

/-! ## Processes -/

/-- A session as a process of its own begins with it. Only signals that are ignored stay so. -/
def copied (session : Session) : Session :=
  let machine := { session.machine with nextProcess := session.machine.nextProcess + 1 }
  { session with
    machine := machine, process := session.machine.nextProcess
    ancestors := session.process :: session.ancestors
    traps := session.traps.filter (·.2.isEmpty), caught := [], jobs := [] }

/-- Runs a step in a process of its own and gives its number and how it ended. -/
def fork (kernel : Kernel) (step : Action Unit) : Action (Nat × Ending) := do
  let session ← get
  let child := copied session
  set child
  let result ← attempt step
  let ending ← endWith kernel result
  let ended ← get
  let files := { ended.machine.files with working := session.machine.files.working }
  set { session with machine := { ended.machine with files := files } }
  receiveSent
  return (child.process, ending)

/-- Tells about a program that a signal has ended. -/
def tellEnding : Ending → Action Unit
  | .exited _ => return ()
  | .signalled signal =>
    match Signal.description? signal with
    | some text => printError (text.toList ++ ['\n'])
    | none => return ()

/-- Runs a step in a process of its own, tells how it ended, and gives the status. -/
def forkAndWait (kernel : Kernel) (step : Action Unit) : Action Nat := do
  let (_, ending) ← fork kernel step
  tellEnding ending
  return ending.status

/-- Runs a command with which the process ends. -/
def runLast (kernel : Kernel) (tested : Bool) (command : Command) : Action Unit := do
  let _ ← kernel.command ⟨tested, true⟩ (some command)

/-- Runs a script and gives what it prints. -/
def capture (kernel : Kernel) : Capture
  | none => return []
  | some script => do
    let output ← addStream (.collector [])
    let status ← forkAndWait kernel do
      attach 1 output
      runLast kernel false script
    change fun session => { session with outputStatus := status }
    let session ← get
    return session.machine.collected output

/-- Remembers a program in the background. -/
def recordJob (process : Nat) (ending : Ending) : Action Unit :=
  change fun session =>
    { session with
      background? := some process
      jobs := session.jobs ++ [⟨process, ending.status⟩] }

/-- Makes a process one in the background, with nothing to read. -/
def goBehind : Action Unit := do
  let input ← addStream (.nothing .reading)
  attach 0 input
  change fun session => { session with deaf := [2, 3] ++ session.deaf }

/-! ## Subshells -/

/-- Runs the body of a subshell. If nothing follows, the shell itself is used for it. -/
def runSubshell (kernel : Kernel) (flags : Flags) (line : Nat) (body : Command)
    (redirections : List Redirection) : Action Nat := do
  atLine line
  let connections ← redirections.mapM (connectionOf (capture kernel))
  let session ← get
  if flags.last && !session.hasTraps then
    set { session with traps := session.traps.filter (·.2.isEmpty), jobs := [] }
    connections.forM (connect (capture kernel))
    runLast kernel flags.tested body
    stop .finished
  else
    forkAndWait kernel do
      connections.forM (connect (capture kernel))
      runLast kernel flags.tested body

/-- Runs a command in the background. -/
def runBehind (kernel : Kernel) (line : Nat) (body : Command) (redirections : List Redirection) :
    Action Nat := do
  atLine line
  let connections ← redirections.mapM (connectionOf (capture kernel))
  let (process, ending) ← fork kernel do
    goBehind
    connections.forM (connect (capture kernel))
    runLast kernel false body
  recordJob process ending
  return 0

/-! ## Pipelines -/

/-- The streams that a stage of a pipeline is connected to. -/
structure StageStreams where
  input? : Option Nat
  output? : Option Nat
  deriving DecidableEq, Repr

/-- Runs a stage of a pipeline. -/
def runStage (kernel : Kernel) (tested behind : Bool) (streams : StageStreams)
    (stage : Command) : Action (Nat × Ending) :=
  fork kernel do
    if behind && streams.input?.isNone then goBehind
    match streams.input? with
    | some input => attach 0 input
    | none => pure ()
    match streams.output? with
    | some output => attach 1 output
    | none => pure ()
    runLast kernel tested stage

/-- Looks for the program of a stage, so that it is remembered. -/
def findStage (stage : Command) : Action Unit := do
  match stage with
  | .simple _ _ (word :: _) _ =>
    match plainText? word with
    | some name =>
      if isName name then
        let _ ← find false none false name
    | none => return ()
  | _ => return ()

/-- Runs the stages of a pipeline, each with the output of the one before. -/
def runStages (kernel : Kernel) (tested behind : Bool) :
    Option Nat → List Command → Action Nat
  | _, [] => return 0
  | input?, [stage] => do
    findStage stage
    let (process, ending) ← runStage kernel tested behind ⟨input?, none⟩ stage
    if behind then
      recordJob process ending
      return 0
    else
      tellEnding ending
      return ending.status
  | input?, stage :: rest => do
    findStage stage
    let output ← addStream (.collector [])
    let (_, ending) ← runStage kernel tested behind ⟨input?, some output⟩ stage
    if !behind then tellEnding ending
    let session ← get
    let text := session.machine.collected output
    let input ← addStream (.source text)
    runStages kernel tested behind (some input) rest

end Action

end FixtureHarness.Shell
