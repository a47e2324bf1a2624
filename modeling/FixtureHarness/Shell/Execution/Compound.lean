import FixtureHarness.Shell.Execution.Simple

/-! # Commands

A command runs the commands inside it as their statuses say. Commands are passed over on the way out
of loops, functions and scripts.
-/

namespace FixtureHarness.Shell

namespace Action

/-- A bound on the turns of a loop. -/
def turnBound : Nat := 100000000

/-! ## Loops -/

/-- What a loop does behind a list of its commands. -/
inductive Turn where
  | goOn
  /-- The next turn begins, or the commands behind a condition are passed over. -/
  | again
  | leave
  /-- A function or a script is left. -/
  | leaveAll
  deriving DecidableEq, Repr

/-- What a loop does when commands are being passed over. -/
def turn : Action Turn := do
  let session ← get
  let fewer (skip : Nat → Skip) (count : Nat) : Action Unit :=
    set { session with skip := if count ≤ 1 then Skip.nothing else skip (count - 1) }
  match session.skip with
  | .nothing => return .goOn
  | .leave count =>
    fewer .leave count
    return .leave
  | .again count =>
    fewer .again count
    return if count ≤ 1 then .again else .leave
  | .back _ => return .leaveAll

/-- Runs a step as the turns of a loop. -/
def inLoop (step : Action Nat) : Action Nat := do
  change fun session => { session with loops := session.loops + 1 }
  let status ← step
  change fun session => { session with loops := session.loops - 1 }
  return status

/-- Runs the turns of a loop. -/
def runTurns (kernel : Kernel) (tested untilSuccess : Bool) (condition body : Command) :
    Nat → Nat → Action Nat
  | 0, _ => stop .exhausted
  | fuel + 1, status => do
    let decided ← kernel.command .onlyTested (some condition)
    match ← turn with
    | .leaveAll => return decided
    | .leave => return status
    | .again => runTurns kernel tested untilSuccess condition body fuel status
    | .goOn =>
      if decide (decided = 0) = untilSuccess then return status
      else
        let status ← kernel.command ⟨tested, false⟩ (some body)
        match ← turn with
        | .leave | .leaveAll => return status
        | _ => runTurns kernel tested untilSuccess condition body fuel status

/-- Runs the turns of a loop over fields. -/
def runFields (kernel : Kernel) (tested : Bool) (name : Octets) (body : Command) :
    Nat → List Octets → Action Nat
  | status, [] => return status
  | _, field :: rest => do
    assign name field
    let status ← kernel.command ⟨tested, false⟩ (some body)
    match ← turn with
    | .leave | .leaveAll => return status
    | _ => runFields kernel tested name body status rest

/-! ## Choices -/

/-- Whether one of some patterns matches a value. -/
def matchesAny (capture : Capture) (value : Octets) : List Word → Action Bool
  | [] => return false
  | word :: rest => do
    let pattern ← expandPattern capture word
    if pattern.isMatch value then return true else matchesAny capture value rest

/-- Runs the first branch that has a pattern for a value. -/
def runBranches (kernel : Kernel) (flags : Flags) (value : Octets) :
    List (List Word × Option Command) → Action Nat
  | [] => return 0
  | (patterns, body?) :: rest => do
    if ← matchesAny (capture kernel) value patterns then
      match body? with
      | none => return 0
      | some body => kernel.command flags (some body)
    else runBranches kernel flags value rest

/-! ## All commands -/

/-- Runs the body of a command with redirections. -/
def runRedirected (kernel : Kernel) (flags : Flags) (line : Nat) (body : Command)
    (redirections : List Redirection) : Action Nat := do
  let capture := capture kernel
  atLine line
  let connections ← redirections.mapM (connectionOf capture)
  let session ← get
  let run : Action Nat := do
    if ← succeeds (connections.forM (connect capture)) then
      kernel.command flags.inside (some body)
    else return 2
  thenAlways run (disconnect connections session.descriptors)

/-- Whether commands are being passed over. -/
def isSkipping : Action Bool := do
  let session ← get
  return session.skip ≠ .nothing

/-- Remembers a function. -/
def define (line : Nat) (name : Octets) (body : Command) : Action Unit :=
  change fun session =>
    { session with
      functions := (name, ⟨line, body⟩) ::
        session.functions.filter fun entry => entry.1 ≠ name }

/-- Runs a command. A status that nothing is set by is missing. -/
def runParts (kernel : Kernel) (flags : Flags) (command : Command) : Action Nat := do
  let judged (status : Nat) : Action Nat := do
    setStatus status
    return status
  match command with
  | .simple line assignments words redirections =>
    judged (← runSimple kernel flags line assignments words redirections)
  | .pipeline behind stages => judged (← runStages kernel flags.tested behind none stages)
  | .redirected line body redirections =>
    judged (← runRedirected kernel flags line body redirections)
  | .background line body redirections => judged (← runBehind kernel line body redirections)
  | .subshell line body redirections =>
    judged (← runSubshell kernel flags line body redirections)
  | .both first second =>
    let status ← kernel.command .onlyTested (some first)
    if status ≠ 0 || (← isSkipping) then return status
    else judged (← kernel.command flags (some second))
  | .either first second =>
    let status ← kernel.command .onlyTested (some first)
    if status = 0 || (← isSkipping) then return status
    else judged (← kernel.command flags (some second))
  | .sequence first second =>
    let status ← kernel.command flags.inside (some first)
    if ← isSkipping then return status
    else judged (← kernel.command flags (some second))
  | .negation body =>
    let status ← kernel.command .onlyTested (some body)
    judged (if status = 0 then 1 else 0)
  | .conditional condition consequence alternative? =>
    let status ← kernel.command .onlyTested (some condition)
    if ← isSkipping then return status
    else if status = 0 then judged (← kernel.command flags (some consequence))
    else
      match alternative? with
      | some alternative => judged (← kernel.command flags (some alternative))
      | none => judged 0
  | .loop untilSuccess condition body =>
    judged (← inLoop
      (runTurns kernel flags.tested untilSuccess condition body turnBound 0))
  | .forEach line name words body =>
    atLine line
    let fields ← words.mapM (expandFields (capture kernel))
    judged (← inLoop (runFields kernel flags.tested name body 0 fields.flatten))
  | .choice line subject branches =>
    atLine line
    let value ← expandText (capture kernel) .text subject
    judged (← runBranches kernel flags value branches)
  | .define line name body =>
    define line name body
    judged 0

/-- Whether a failure of a command itself ends the shell on demand. Other commands leave that to the
commands inside them. -/
def isJudged : Command → Bool
  | .simple .. | .pipeline .. | .redirected .. | .background .. | .subshell .. => true
  | _ => false

/-- Runs a command with the traps before and behind it. The shell ends with the last command, and with
one that fails if it is asked to. -/
def runCommand (kernel : Kernel) (flags : Flags) (command? : Option Command) : Action Nat := do
  let session ← get
  let status ←
    match command? with
    | none => pure 0
    | some command =>
      if session.has .noexec then pure 0
      else
        runTraps kernel
        let status ← runParts kernel flags command
        let session ← get
        if isJudged command && status ≠ 0 && !flags.tested && session.has .errexit then
          stop .finished
        pure status
  runTraps kernel
  if flags.last then stop .finished else return status

end Action

end FixtureHarness.Shell
