import FixtureHarness.Shell.Builtin.Basic

/-! # Builtins for signals, jobs and limits -/

namespace FixtureHarness.Shell.Builtin

/-! ## Sending signals -/

/-- The text that shows how signals are sent. -/
def killUsage : Octets :=
  ("Usage: kill [-s sigspec | -signum | -sigspec] [pid | job]... or\n" ++
    "kill -l [exitstatus]").toList

/-- Breaks off because there is no such job. -/
def failJob {Result : Type} (name : Octets) : Action Result :=
  if name.isEmpty || name = ['%'] || name = ['%', '%'] || name = ['%', '+'] then
    Action.fail "No current job".toList
  else Action.fail ("No such job: ".toList ++ name)

/-- Sends a signal to processes. -/
def sendAll (signal : Nat) : List Octets → Action Nat
  | [] => return 0
  | name :: rest => do
    if name.head? = some '%' then failJob name
    else
      let isGroup := name.head? = some '-'
      let number ← Action.natural (if isGroup then name.drop 1 else name)
      let session ← get
      let isDone := session.jobs.any fun job => job.process = number
      let isRunning := !isGroup &&
        (isDone || number = session.process || session.ancestors.contains number)
      if !isRunning then
        Action.warn "No such process\n".toList
        let _ ← sendAll signal rest
        return 1
      else
        if signal = 0 || isDone then pure ()
        else if number = session.process then Action.receive signal
        else Action.onMachine fun machine => machine.send number signal
        sendAll signal rest

/-- Shows the names of signals. -/
def showSignals (arguments : List Octets) : Action Nat :=
  match arguments with
  | [] => do
    Action.printLine ['0']
    Signal.names.forM fun name => Action.printLine name.toList
    return 0
  | argument :: _ => do
    let number ← Action.natural argument
    let signal := if 128 < number then number - 128 else number
    if 0 < signal && signal ≤ Signal.greatest then
      Action.printLine (Signal.name signal)
      return 0
    else Action.fail ("invalid signal number or exit status: ".toList ++ argument)

/-- Reads the options of a signal that is to be sent. -/
def signalChoices : List Choice → Option Nat → Bool → Action (Option Nat × Bool)
  | [], signal?, lists => return (signal?, lists)
  | choice :: rest, signal?, lists =>
    if choice.letter = 'l' then signalChoices rest signal? true
    else
      match Signal.number? false choice.value with
      | some signal => signalChoices rest (some signal) lists
      | none => Action.fail ("invalid signal number or name: ".toList ++ choice.value)

/-- Sends signals, or shows their names. -/
def kill : Builtin := fun arguments => do
  let chosen : Action (Option Nat × Bool × List Octets) :=
    match arguments with
    | ('-' :: name) :: rest =>
      match Signal.number? false name with
      | some signal => return (some signal, false, rest)
      | none => do
        let (choices, rest) ← options "ls:" arguments
        let (signal?, lists) ← signalChoices choices none false
        return (signal?, lists, rest)
    | _ => return (none, false, arguments)
  if arguments.isEmpty then Action.fail killUsage
  else
    let (signal?, lists, names) ← chosen
    match signal?, lists with
    | none, true => showSignals names
    | some _, true => if names.isEmpty then showSignals [] else Action.fail killUsage
    | _, false => if names.isEmpty then Action.fail killUsage else sendAll (signal?.getD 15) names

/-! ## Traps -/

/-- Sets what runs at signals. -/
def setTraps (action? : Option Octets) : List Octets → Action Nat
  | [] => return 0
  | name :: rest => do
    match Signal.number? true name with
    | none =>
      Action.printError ("trap: ".toList ++ name ++ ": bad trap\n".toList)
      return 1
    | some signal =>
      Action.change fun session =>
        let others := session.traps.filter fun entry => entry.1 ≠ signal
        { session with
          traps := others ++ action?.toList.map fun action => (signal, action) }
      setTraps action? rest

/-- Sets what runs when the shell ends or gets signals, or shows that. -/
def trap : Builtin := fun arguments => do
  let (_, arguments) ← options "" arguments
  match arguments with
  | [] =>
    let session ← get
    let sorted := session.traps.mergeSort fun left right => decide (left.1 ≤ right.1)
    sorted.forM fun entry =>
      Action.printLine ("trap -- ".toList ++ quoted entry.2 ++ ' ' :: Signal.name entry.1)
    return 0
  | first :: rest =>
    let isNumber := !first.isEmpty && first.all Char.isDigit &&
      (Signal.number? false first).isSome
    if rest.isEmpty || isNumber then setTraps none (first :: rest)
    else setTraps (if first = ['-'] then none else some first) rest

/-! ## Jobs -/

/-- Waits for programs in the background, all of which have ended. -/
def waitAll : List Octets → Nat → Action Nat
  | [], status => return status
  | name :: rest, status => do
    if name.head? = some '%' then failJob name
    else
      let number ← Action.natural name
      let session ← get
      let found? := session.jobs.find? fun job => job.process = number
      waitAll rest ((found?.map (·.status)).getD status)

/-- Waits for programs in the background. -/
def wait : Builtin := fun arguments => do
  let (_, names) ← options "" arguments
  if names.isEmpty then
    Action.change fun session => { session with jobs := [] }
    return 0
  else waitAll names 127

/-- Shows the programs in the background that are still running, which are none. -/
def jobs : Builtin := fun arguments => do
  let (_, names) ← options "lp" arguments
  match names with
  | [] => return 0
  | name :: _ => failJob name

/-- Goes on with a program that was stopped, which there is none of. -/
def resume : Builtin := fun arguments => do
  let (_, names) ← options "" arguments
  failJob (names.head?.getD [])

/-- Shows how much time was used. -/
def times : Builtin := fun _ => do
  let line := "0m0.000000s 0m0.000000s".toList
  Action.printLine line
  Action.printLine line
  return 0

/-! ## The mask of new files -/

/-- A number in so many octal digits. -/
def octal (width number : Nat) : Octets :=
  let digits := Nat.toDigits 8 number
  List.replicate (width - digits.length) '0' ++ digits

/-- The permissions that a mask leaves, in letters. -/
def maskLetters (mask : Nat) : Octets :=
  let shown (letter : Char) (bits : Nat) : Octets :=
    let has (bit : Nat) (letter : Char) : Octets :=
      if (bits / bit) % 2 = 0 then [letter] else []
    letter :: '=' :: (has 4 'r' ++ has 2 'w' ++ has 1 'x')
  List.intercalate [','] [shown 'u' (mask / 64), shown 'g' (mask / 8), shown 'o' mask]

/-- The permissions that letters stand for, and what follows them. -/
def permissions (present : Nat) : Octets → Nat × Octets
  | [] => (0, [])
  | letter :: rest =>
    let bits? : Option Nat :=
      match letter with
      | 'r' => some 4
      | 'w' => some 2
      | 'x' => some 1
      | 'u' => some (present / 64 % 8)
      | 'g' => some (present / 8 % 8)
      | 'o' => some (present % 8)
      | 'X' => some (if Nat.land present 73 = 0 then 0 else 1)
      | 's' => some 0
      | _ => none
    match bits? with
    | none => (0, letter :: rest)
    | some bits =>
      let (others, rest) := permissions present rest
      (Nat.lor bits others, rest)

/-- The users that letters stand for, one bit for each, and what follows them. -/
def users : Octets → Nat × Octets
  | [] => (0, [])
  | letter :: rest =>
    let bits? : Option Nat :=
      match letter with
      | 'a' => some 73
      | 'u' => some 64
      | 'g' => some 8
      | 'o' => some 1
      | _ => none
    match bits? with
    | none => (0, letter :: rest)
    | some bits =>
      let (others, rest) := users rest
      (Nat.lor bits others, rest)

/-- The permissions that a mode in letters leaves; the fuel bounds its length. The users of one clause
hold until a comma. -/
def modeFrom (present : Nat) : Nat → Nat → Nat → Octets → Option Nat
  | 0, _, _, _ => none
  | _, _, mode, [] => some mode
  | fuel + 1, held, mode, text =>
    let (named, rest) := users text
    let chosen := Nat.lor held named
    let chosen := if chosen = 0 then 73 else chosen
    match rest with
    | [] => some mode
    | sign :: rest =>
      if sign ≠ '=' && sign ≠ '+' && sign ≠ '-' then none
      else
        let (bits, rest) := permissions present rest
        let bits := bits % 8 * chosen
        let without (taken : Nat) : Nat := mode - Nat.land mode taken
        let mode :=
          match sign with
          | '-' => without bits
          | '+' => Nat.lor mode bits
          | _ => Nat.lor bits (without (chosen * 7))
        match rest with
        | [] => some mode
        | ',' :: rest => modeFrom present fuel 0 mode rest
        | next :: _ =>
          if next = '=' || next = '+' || next = '-' then modeFrom present fuel chosen mode rest
          else none

/-- Sets or shows which permissions new files do not get. -/
def umask : Builtin := fun arguments => do
  let (choices, arguments) ← options "S" arguments
  let session ← get
  match arguments with
  | [] =>
    Action.printLine
      (if choices.isEmpty then octal 4 session.umask else maskLetters session.umask)
    return 0
  | mode :: _ =>
    let isOctal (char : Char) : Bool := '0' ≤ char && char ≤ '7'
    let mask ←
      if mode.head?.any Char.isDigit then
        if mode.all isOctal then
          pure (mode.foldl (fun value digit => value * 8 + (digit.toNat - '0'.toNat)) 0 % 512)
        else Action.fail ("Illegal number: ".toList ++ mode)
      else
        let present := 511 - session.umask
        match modeFrom present (mode.length + 1) 0 present mode with
        | some left => pure (511 - left % 512)
        | none => Action.fail ("Illegal mode: ".toList ++ mode)
    Action.change fun session => { session with umask := mask }
    return 0

/-! ## Limits -/

/-- How a limit is shown: its letter, its name and the size of its unit. -/
structure LimitRule where
  letter : Char
  name : String
  unit : Nat
  deriving DecidableEq, Repr

/-- The limits in the order in which they are shown. -/
def limitRules : List LimitRule :=
  [⟨'t', "time(seconds)", 1⟩, ⟨'f', "file(blocks)", 512⟩, ⟨'d', "data(kbytes)", 1024⟩,
    ⟨'s', "stack(kbytes)", 1024⟩, ⟨'c', "coredump(blocks)", 512⟩, ⟨'m', "memory(kbytes)", 1024⟩,
    ⟨'l', "locked memory(kbytes)", 1024⟩, ⟨'p', "process", 1⟩, ⟨'n', "nofiles", 1⟩,
    ⟨'v', "vmemory(kbytes)", 1024⟩, ⟨'w', "locks", 1⟩, ⟨'r', "rtprio", 1⟩]

/-- A limit in its unit. -/
def limitText (rule : LimitRule) (limit? : Option Nat) : Octets :=
  match limit? with
  | none => "unlimited".toList
  | some limit => digits (limit / rule.unit)

/-- Whether a limit is at most another one. -/
def isWithin (limit? bound? : Option Nat) : Bool :=
  match limit?, bound? with
  | _, none => true
  | none, some _ => false
  | some limit, some bound => limit ≤ bound

/-- Sets or shows limits. -/
def ulimit : Builtin := fun arguments => do
  let (choices, arguments) ← options "HSatfdscmlpnvwr" arguments
  let letters := choices.map (·.letter)
  let manner? := (letters.filter fun letter => letter = 'H' || letter = 'S').getLast?
  let isAll := letters.contains 'a'
  let chosen? := (letters.filter fun letter => !(['H', 'S', 'a'].contains letter)).getLast?
  let letter := chosen?.getD 'f'
  let session ← get
  let held (letter : Char) : Limit :=
    (session.limits.find? fun limit => limit.letter = letter).getD ⟨letter, none, none⟩
  let shown (rule : LimitRule) : Octets :=
    let limit := held rule.letter
    limitText rule (if manner? = some 'H' then limit.hard? else limit.soft?)
  let rule := (limitRules.find? fun rule => rule.letter = letter).getD ⟨letter, "", 1⟩
  match arguments with
  | [] =>
    if isAll then
      limitRules.forM fun rule =>
        let name := rule.name.toList
        Action.printLine
          (name ++ List.replicate (20 - name.length) ' ' ++ ' ' :: shown rule)
    else Action.printLine (shown rule)
    return 0
  | argument :: rest =>
    if isAll || !rest.isEmpty then Action.fail "too many arguments".toList
    else
      let number := numberOf argument
      let wanted? ←
        if argument = "unlimited".toList then pure none
        else if argument.all Char.isDigit then pure (some (number * rule.unit))
        else Action.fail "bad number".toList
      let limit := held letter
      let hard? := if manner? = some 'S' then limit.hard? else wanted?
      let soft? := if manner? = some 'H' then limit.soft? else wanted?
      if !isWithin soft? hard? then
        Action.fail "error setting limit (Invalid argument)".toList
      else if !isWithin hard? limit.hard? then
        Action.fail "error setting limit (Operation not permitted)".toList
      else
        let others := session.limits.filter fun limit => limit.letter ≠ letter
        Action.change fun session =>
          { session with limits := ⟨letter, soft?, hard?⟩ :: others }
        return 0

end FixtureHarness.Shell.Builtin
