import FixtureHarness.Shell.Execution.Compound

/-! # Running scripts

A script is read line by line, and each line runs before the next one is read, so that it can change
how the next one is read.
-/

namespace FixtureHarness.Shell

namespace Action

/-- A bound on the number of lines of a script. -/
def lineBound : Nat := 100000000

/-- The lines of a text up to one with a number, counted from a first one. -/
def linesUpTo (first last : Nat) : Octets → Octets
  | [] => []
  | char :: rest =>
    if char = '\n' then
      if last ≤ first then [char] else char :: linesUpTo (first + 1) last rest
    else char :: linesUpTo first last rest

/-- Reads the next line of a script. Notices the text that was read for it, and gives what it is and
the source behind it. -/
def readNext (notice : Octets → Action Unit) (source : Source) : Action (Line × Source) := do
  let session ← get
  match Reader.topLine (Reading.ofSource source session.aliases session.documents) with
  | .error fault =>
    notice (linesUpTo source.line fault.line source.rest)
    change fun session => { session with readLine := fault.line, atTextEnd := false }
    atLine fault.line
    fail ("Syntax error: " ++ fault.fault.message).toList
  | .ok (line, reading) =>
    set { session with
      documents := reading.documents, readLine := reading.source.line
      atTextEnd := reading.isAtEnd }
    notice (source.rest.take (source.rest.length - reading.source.rest.length))
    return (line, reading.source)

/-- Runs a step and goes back to where the script outside was being read. -/
def insideScript (step : Action Nat) : Action Nat := do
  let session ← get
  thenAlways step (change fun inner =>
    { inner with readLine := session.readLine, atTextEnd := session.atTextEnd })

/-! ## Texts -/

/-- Runs the lines of a text. Nothing follows the last line but what follows the text. -/
def runTextLines (kernel : Kernel) (flags : Flags) : Nat → Source → Nat → Action Nat
  | 0, _, _ => stop .exhausted
  | fuel + 1, source, status => do
    match ← readNext (fun _ => return ()) source with
    | (.textEnd, _) => return status
    | (.command command?, rest) =>
      let session ← get
      let result ←
        kernel.command (if session.atTextEnd then flags else flags.inside) command?
      let status := if command?.isSome then result else status
      if ← isSkipping then return status else runTextLines kernel flags fuel rest status

/-- Runs a text. -/
def runText (kernel : Kernel) (flags : Flags) (text : Octets) : Action Nat :=
  insideScript (runTextLines kernel flags lineBound (Source.ofText text) 0)

/-! ## Scripts of files -/

/-- Shows a text as it is read. -/
def echoInput (text : Octets) : Action Unit := do
  let session ← get
  if session.has .verbose then printError text

/-- Asks for a line. -/
def prompt (kernel : Kernel) (name : String) : Action Unit := do
  let session ← get
  let text ← expandLine (capture kernel) ((session.value? name.toList).getD [])
  printError text

/-- Asks for the lines behind the first one of a command. -/
def promptAgain (kernel : Kernel) (text : Octets) : Action Unit :=
  (text.filter (· = '\n')).dropLast.forM fun _ => prompt kernel "PS2"

/-- Reads the next line of the script of a file. -/
def readInput (kernel : Kernel) (asks : Bool) (source : Source) : Action (Line × Source) := do
  if asks then prompt kernel "PS1"
  let notice (text : Octets) : Action Unit := do
    if asks then promptAgain kernel text
    echoInput text
  readNext notice source

/-- The text that a shell shows when it is told not to end with its input. -/
def keepsText : Octets := "\nUse \"exit\" to leave shell.\n".toList

/-- How often a shell can be told that its input has ended. -/
def maxEnds : Nat := 50

/-- Runs the lines of the script of a file. The shell itself can ask for them. -/
def runInputLines (kernel : Kernel) (isShell : Bool) : Nat → Source → Nat → Action Nat
  | 0, _, _ => stop .exhausted
  | fuel + 1, source, status => do
    let session ← get
    let asks := isShell && session.has .interactive
    match ← readInput kernel asks source with
    | (.textEnd, _) =>
      let session ← get
      if isShell && session.has .ignoreeof then
        (List.replicate maxEnds keepsText).forM printError
      else if asks then printError ['\n']
      return status
    | (.command command?, rest) =>
      let result ← kernel.command .none command?
      let status := if command?.isSome then result else status
      if ← isSkipping then
        change fun session =>
          { session with
            skip := match session.skip with
              | .back _ => .nothing
              | skip => skip }
        return status
      else runInputLines kernel isShell fuel rest status

/-- Runs the script of a file, in which NUL counts for nothing. -/
def runInput (kernel : Kernel) (isShell : Bool) (content : Octets) : Action Nat :=
  insideScript
    (runInputLines kernel isShell lineBound (Source.ofText (content.filter (· ≠ nul))) 0)

end Action

end FixtureHarness.Shell
