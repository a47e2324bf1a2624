import FixtureHarness.Shell.Arithmetic
import FixtureHarness.Shell.Machine
import FixtureHarness.Shell.Reader.Grammar
import FixtureHarness.Shell.Signal

/-! # Sessions

A session is a running shell: its parameters, variables and functions, its descriptors and what it
shares with other programs. What a shell does is a step that changes its session; a step can be
broken off, and the session stays as it was then.
-/

namespace FixtureHarness.Shell

/-! ## Options -/

/-- An option of a shell. -/
inductive ShellOption where
  | errexit | noglob | ignoreeof | interactive | monitor | noexec | stdin | xtrace | verbose | vi
  | emacs | noclobber | allexport | notify | nounset | privileged | nolog | debug
  deriving DecidableEq, Repr

namespace ShellOption

/-- The options in their order, with their names and letters. -/
def table : List (ShellOption × String × Option Char) :=
  [(errexit, "errexit", some 'e'), (noglob, "noglob", some 'f'),
    (ignoreeof, "ignoreeof", some 'I'), (interactive, "interactive", some 'i'),
    (monitor, "monitor", some 'm'), (noexec, "noexec", some 'n'), (stdin, "stdin", some 's'),
    (xtrace, "xtrace", some 'x'), (verbose, "verbose", some 'v'), (vi, "vi", some 'V'),
    (emacs, "emacs", some 'E'), (noclobber, "noclobber", some 'C'),
    (allexport, "allexport", some 'a'), (notify, "notify", some 'b'),
    (nounset, "nounset", some 'u'),
    (privileged, "privileged", some 'p'), (nolog, "nolog", none), (debug, "debug", none)]

/-- An option by its letter. -/
def ofLetter? (letter : Char) : Option ShellOption :=
  (table.find? fun entry => entry.2.2 = some letter).map (·.1)

/-- An option by its name. -/
def ofName? (name : Octets) : Option ShellOption :=
  (table.find? fun entry => entry.2.1.toList = name).map (·.1)

/-- The letters of options, the last of the table first. -/
def letters (options : List ShellOption) : Octets :=
  (table.reverse.filter fun entry => options.contains entry.1).filterMap (·.2.2)

/-- Turns an option on or off. -/
def set (options : List ShellOption) (option : ShellOption) (isOn : Bool) : List ShellOption :=
  let others := options.filter (· ≠ option)
  let others :=
    match isOn, option with
    | true, vi => others.filter (· ≠ emacs)
    | true, emacs => others.filter (· ≠ vi)
    | _, _ => others
  if isOn then option :: others else others

end ShellOption

/-! ## Variables -/

/-- A variable. One without a value may still have marks. -/
structure Variable where
  value? : Option Octets
  exported : Bool
  readOnly : Bool
  /-- Whether the shell knows the variable even without a value. -/
  fixed : Bool
  deriving DecidableEq, Repr

/-- The variables, by their names. -/
abbrev Variables := List (Octets × Variable)

namespace Variables

/-- A variable by its name. -/
def held? (bindings : Variables) (name : Octets) : Option Variable :=
  (List.find? (fun entry => entry.1 = name) bindings).map (·.2)

/-- Removes a variable. -/
def remove (bindings : Variables) (name : Octets) : Variables :=
  List.filter (fun entry => entry.1 ≠ name) bindings

/-- Sets a variable. -/
def put (bindings : Variables) (name : Octets) (content : Variable) : Variables :=
  (name, content) :: bindings.remove name

/-- The variables that a condition holds for, sorted by name. -/
def sorted (bindings : Variables) (shows : Variable → Bool) : Variables :=
  (List.filter (fun entry => shows entry.2) bindings).mergeSort fun left right =>
    String.ofList left.1 ≤ String.ofList right.1

end Variables

/-- What a function call has to put back. -/
inductive Saved where
  | options (options : List ShellOption)
  | variable (name : Octets) (before? : Option Variable)
  deriving DecidableEq, Repr

/-! ## The state of a shell -/

/-- How many commands are passed over, and up to where. -/
inductive Skip where
  | nothing
  /-- Up to the end of so many loops. -/
  | leave (loops : Nat)
  /-- Up to the next turn of the innermost but so many loops. -/
  | again (loops : Nat)
  /-- Up to the end of a function or of a script that is read in. -/
  | back (withStatus : Bool)
  deriving DecidableEq, Repr

/-- A function. -/
structure Definition where
  line : Nat
  body : Command

/-- A program in the background, with how it ended. -/
structure Job where
  process : Nat
  status : Nat
  deriving DecidableEq, Repr

/-- The next option that `getopts` looks at. -/
structure OptionPlace where
  /-- The number of the argument. -/
  index : Nat
  /-- How many characters of the argument before were read. -/
  offset? : Option Nat
  deriving DecidableEq, Repr

/-- A limit on what programs use, by the letter of its option. -/
structure Limit where
  letter : Char
  /-- What holds, if there is a limit. -/
  soft? : Option Nat
  /-- The greatest that can be asked for. -/
  hard? : Option Nat
  deriving DecidableEq, Repr

/-- A running shell. -/
structure Session where
  machine : Machine
  descriptors : Descriptors
  name : Octets
  arguments : List Octets
  optionPlace : OptionPlace
  bindings : Variables
  functions : List (Octets × Definition)
  aliases : List (Octets × Octets)
  /-- Where the names of programs were found. -/
  found : List (Octets × Octets)
  /-- What runs at a signal, or at the end for number zero. An empty text ignores the signal. -/
  traps : List (Nat × Octets)
  /-- The signals that came and whose traps did not run yet. -/
  caught : List Nat
  /-- The signals that are ignored for good because they were at the start. -/
  deaf : List Nat
  options : List ShellOption
  /-- What the functions that are being called have to put back. -/
  locals : List (List Saved)
  umask : Nat
  limits : List Limit
  /-- The status of the last command. -/
  status : Nat
  /-- The status of the last script whose output became part of a word. -/
  outputStatus : Nat
  /-- The status to go on with after a trap. -/
  savedStatus? : Option Nat
  skip : Skip
  /-- How many loops are being run. -/
  loops : Nat
  /-- How many calls of functions were begun and have not ended. -/
  calls : Nat
  line : Nat
  /-- The line up to which the script was read. -/
  readLine : Nat
  /-- Whether the end of the script was found behind the line that runs. -/
  atTextEnd : Bool
  /-- The name of the builtin that is running. -/
  command? : Option Octets
  process : Nat
  /-- The processes that started this one, the last one first. -/
  ancestors : List Nat
  /-- The number of the shell itself, which its subshells keep. -/
  rootProcess : Nat
  /-- The last program in the background. -/
  background? : Option Nat
  jobs : List Job
  /-- Whether commands are shown that the value of `PS4` runs. -/
  isTracing : Bool
  /-- What the builtin that is running has printed, the last part first. -/
  printed : List Octets
  /-- The documents of all scripts. -/
  documents : Array Word

/-- How a program ended. -/
inductive Ending where
  | exited (code : Nat)
  | signalled (signal : Nat)
  deriving DecidableEq, Repr

/-- Why a step was broken off. -/
inductive Stop where
  /-- A message was written. -/
  | fault
  /-- The shell was told to end. -/
  | exit
  /-- The shell has nothing more to do. -/
  | finished
  /-- A program has taken the place of the shell and has ended. -/
  | replaced (ending : Ending)
  /-- The bound on the depth was reached. -/
  | exhausted
  deriving DecidableEq, Repr

/-- A step of a shell, which can be broken off. -/
abbrev Action := ExceptT Stop (StateM Session)

/-- The status that a shell gives to an ending. -/
def Ending.status : Ending → Nat
  | exited code => code
  | signalled signal => 128 + signal

/-- The digits of a number. -/
def digits (number : Nat) : Octets :=
  Nat.toDigits 10 number

/-- The number that digits stand for. -/
def numberOf (text : Octets) : Nat :=
  text.foldl (fun value digit => value * 10 + (digit.toNat - '0'.toNat)) 0

/-- The characters that separate fields unless a variable says otherwise. -/
def usualSeparators : Octets := [' ', '\t', '\n']

/-- Whether a character is white space. -/
def isSpace (char : Char) : Bool :=
  char = ' ' || ('\t' ≤ char && char ≤ '\r')

namespace Session

/-- The session of a shell in which nothing has happened. -/
def fresh (machine : Machine) (descriptors : Descriptors) (process : Nat)
    (ancestors : List Nat) : Session where
  machine := machine
  descriptors := descriptors
  name := []
  arguments := []
  optionPlace := ⟨1, none⟩
  bindings := []
  functions := []
  aliases := []
  found := []
  traps := []
  caught := []
  deaf := []
  options := []
  locals := []
  umask := 18
  limits := []
  status := 0
  outputStatus := 0
  savedStatus? := none
  skip := .nothing
  loops := 0
  calls := 0
  line := 0
  readLine := 0
  atTextEnd := false
  command? := none
  process := process
  ancestors := ancestors
  rootProcess := process
  background? := none
  jobs := []
  isTracing := false
  printed := []
  documents := #[]

/-- Whether an option is on. -/
def has (session : Session) (option : ShellOption) : Bool :=
  session.options.contains option

/-- The value of a variable. -/
def value? (session : Session) (name : Octets) : Option Octets :=
  (session.bindings.held? name).bind (·.value?)

/-- The characters that separate fields. -/
def separators (session : Session) : Octets :=
  (session.value? "IFS".toList).getD usualSeparators

/-- What runs at a signal. -/
def trap? (session : Session) (signal : Nat) : Option Octets :=
  (session.traps.find? fun entry => entry.1 = signal).map (·.2)

/-- Whether something is to run at a signal or at the end. -/
def hasTraps (session : Session) : Bool :=
  session.traps.any fun entry => !entry.2.isEmpty

/-- A variable as it is without its value, if the shell still knows it then. -/
def withoutValue? (held : Variable) : Option Variable :=
  if held.fixed then some { held with value? := none } else none

end Session

namespace Action

/-- Changes the session. -/
def change (step : Session → Session) : Action Unit :=
  modify step

/-- Breaks off. -/
def stop {Result : Type} (cause : Stop) : Action Result :=
  throw cause

/-- Runs a step and gives its result or why it was broken off. -/
def attempt {Result : Type} (step : Action Result) : Action (Except Stop Result) :=
  fun session =>
    let (result, session) := step session
    (.ok result, session)

/-- Goes on with a result, or is broken off. -/
def settle {Result : Type} : Except Stop Result → Action Result
  | .ok result => return result
  | .error cause => stop cause

/-- Runs a step and another one behind it, even if the first one was broken off. -/
def thenAlways {Result : Type} (step : Action Result) (last : Action Unit) : Action Result := do
  let result ← attempt step
  last
  settle result

/-- Runs a step and tells whether it succeeded. A fault counts as a failure, and only a fault. -/
def succeeds (step : Action Unit) : Action Bool := do
  match ← attempt step with
  | .ok () => return true
  | .error .fault => return false
  | .error cause => stop cause

/-! ## Messages -/

/-- Changes what is shared with other programs. -/
def onMachine (step : Machine → Machine) : Action Unit :=
  change fun session => { session with machine := step session.machine }

/-- Writes to standard error. -/
def printError (text : Octets) : Action Unit :=
  change fun session =>
    { session with machine := session.machine.write session.descriptors 2 text }

/-- Prints to standard output when the builtin ends. -/
def print (text : Octets) : Action Unit :=
  change fun session => { session with printed := text :: session.printed }

/-- Prints a line to standard output when the builtin ends. -/
def printLine (text : Octets) : Action Unit :=
  print (text ++ ['\n'])

/-- Writes what was printed. Tells whether it could be written. -/
def flush : Action Bool := do
  let session ← get
  let text := session.printed.reverse.flatten
  if text.isEmpty then return true
  else
    match session.machine.write? session.descriptors 1 text with
    | some machine =>
      set { session with machine := machine, printed := [] }
      return true
    | none =>
      set { session with printed := [] }
      return false

/-- Writes a line to standard error, behind the name of the shell, the number of the line and the
name of the builtin. -/
def warn (text : Octets) : Action Unit := do
  let session ← get
  let about :=
    match session.command? with
    | some name => name ++ [':', ' ']
    | none => []
  printError
    (session.name ++ ':' :: ' ' :: digits session.line ++ ':' :: ' ' :: about ++ text ++ ['\n'])

/-- Breaks off with a message. -/
def fail {Result : Type} (text : Octets) : Action Result := do
  warn text
  let _ ← flush
  change fun session => { session with status := 2 }
  stop .fault

/-- Sets the status. -/
def setStatus (status : Nat) : Action Unit :=
  change fun session => { session with status := status }

/-- Goes to a line of a script. -/
def atLine (line : Nat) : Action Unit :=
  change fun session => { session with line := line }

/-! ## Numbers -/

/-- The natural number that an argument of a builtin stands for. -/
def natural (text : Octets) : Action Nat := do
  let body := text.dropWhile isSpace
  let body := (body.reverse.dropWhile isSpace).reverse
  let amount := if body.head? = some '+' || body.head? = some '-' then body.drop 1 else body
  let number := numberOf amount
  let isNegative := body.head? = some '-' && number ≠ 0
  if amount.isEmpty || !amount.all Char.isDigit || isNegative || Nat.pow 2 31 ≤ number then
    fail ("Illegal number: ".toList ++ text)
  else return number

/-! ## Variables -/

/-- What setting a variable changes besides. -/
def noticeValue (name : Octets) (value? : Option Octets) : Action Unit := do
  if name = "PATH".toList then change fun session => { session with found := [] }
  else if name = "OPTIND".toList then
    let number ← natural (value?.getD [])
    change fun session => { session with optionPlace := ⟨max number 1, none⟩ }
  else return ()

/-- Sets a variable that has a good name, with more marks. Nothing in place of a value removes the
value. -/
def setHeld (name : Octets) (value? : Option Octets) (exports locks fixes : Bool) :
    Action Unit := do
  let session ← get
  let exports := exports || session.has .allexport
  match session.bindings.held? name with
  | some held =>
    if held.readOnly then fail (name ++ ": is read only".toList)
    else
      noticeValue name value?
      let held : Variable :=
        ⟨value?, held.exported || exports, held.readOnly || locks, held.fixed || fixes⟩
      change fun session =>
        { session with
          bindings :=
            if value?.isNone && !held.fixed && !exports && !locks then
              session.bindings.remove name
            else session.bindings.put name held }
  | none =>
    if value?.isNone && !exports && !locks && !fixes then return ()
    else
      change fun session =>
        { session with
          bindings := session.bindings.put name ⟨value?, exports, locks, fixes⟩ }

/-- Sets a variable. -/
def setMarked (name : Octets) (value? : Option Octets) (exports locks fixes : Bool) :
    Action Unit :=
  if isName name then setHeld name value? exports locks fixes
  else fail (name ++ ": bad variable name".toList)

/-- Gives a variable a value. -/
def assign (name value : Octets) : Action Unit :=
  setMarked name (some value) false false false

/-- Removes the value of a variable. -/
def unset (name : Octets) : Action Unit :=
  setMarked name none false false false

/-- Splits an argument at its first equals sign. -/
def splitAssignment (argument : Octets) : Octets × Option Octets :=
  let name := argument.takeWhile (· ≠ '=')
  (name, if name.length = argument.length then none else some (argument.drop (name.length + 1)))

/-! ## What is put back -/

/-- Remembers something that the innermost frame of locals has to put back. -/
def remember (saved : Saved) : Action Unit :=
  change fun session =>
    match session.locals with
    | [] => session
    | innermost :: outer => { session with locals := (saved :: innermost) :: outer }

/-- Makes a variable local to the innermost frame. -/
def makeLocal (argument : Octets) (exports : Bool) : Action Unit := do
  let session ← get
  if argument = ['-'] then remember (.options session.options)
  else
    let (name, value?) := splitAssignment argument
    match session.bindings.held? name with
    | none =>
      setMarked name value? exports false true
      remember (.variable name none)
    | some held =>
      change fun session =>
        { session with bindings := session.bindings.put name { held with fixed := true } }
      remember (.variable name (some held))
      if value?.isSome then setMarked name value? exports false false

/-- Puts something back. -/
def putBack : Saved → Action Unit
  | .options options => change fun session => { session with options := options }
  | .variable name none =>
    change fun session => { session with bindings := session.bindings.remove name }
  | .variable name (some held) => do
    noticeValue name held.value?
    change fun session => { session with bindings := session.bindings.put name held }

/-- Opens a frame of locals. -/
def pushLocals : Action Unit :=
  change fun session => { session with locals := [] :: session.locals }

/-- Closes frames of locals until so many are left. -/
def closeLocals (depth : Nat) : Action Unit := do
  let session ← get
  let count := session.locals.length - depth
  let frames := session.locals.take count
  set { session with locals := session.locals.drop count }
  frames.flatten.forM putBack

/-! ## Signals -/

/-- Gets a signal. -/
def receive (signal : Nat) : Action Unit := do
  let session ← get
  if signal = 9 then stop (.replaced (.signalled 9))
  else
    if session.deaf.contains signal then return ()
    else
      match session.trap? signal with
      | some action =>
        if action.isEmpty then return ()
        else
          set { session with
            caught := if session.caught.contains signal then session.caught
              else session.caught ++ [signal] }
      | none =>
        if Signal.ignored.contains signal then return ()
        else stop (.replaced (.signalled signal))

/-- Gets the signals that other programs have sent. -/
def receiveSent : Action Unit := do
  let session ← get
  let (mine, others) := session.machine.signals.partition fun sent => sent.1 = session.process
  set { session with machine := { session.machine with signals := others } }
  mine.forM fun sent => receive sent.2

end Action

end FixtureHarness.Shell
