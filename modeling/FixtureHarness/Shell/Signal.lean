import FixtureHarness.Text.Octets

/-! # Signals -/

namespace FixtureHarness.Shell.Signal

/-- The names of the signals from number one on. Some have only a number. -/
def names : List String :=
  ["HUP", "INT", "QUIT", "ILL", "TRAP", "ABRT", "BUS", "FPE", "KILL", "USR1", "SEGV", "USR2",
    "PIPE", "ALRM", "TERM", "16", "CHLD", "CONT", "STOP", "TSTP", "TTIN", "TTOU", "URG", "XCPU",
    "XFSZ", "VTALRM", "PROF", "WINCH", "IO", "PWR", "SYS", "32", "33", "RTMIN"] ++
    ((List.range 15).map fun number => s!"RTMIN+{number + 1}") ++
    ((List.range 14).map fun number => s!"RTMAX-{14 - number}") ++ ["RTMAX"]

/-- How many signals there are. -/
def greatest : Nat := 64

/-- The number of a signal by its digits or by its name in any case. Number zero counts as a signal
named `EXIT` on demand. -/
def number? (countsExit : Bool) (text : Octets) : Option Nat :=
  let byDigits? :=
    if text.isEmpty || !text.all Char.isDigit then none
    else
      let number := text.foldl (fun value digit => value * 10 + (digit.toNat - '0'.toNat)) 0
      if number ≤ greatest then some number else none
  match byDigits? with
  | some number => some number
  | none =>
    let name := String.ofList (text.map Char.toUpper)
    if countsExit && name = "EXIT" then some 0
    else (names.findIdx? fun other => other = name).map (· + 1)

/-- The name of a signal. -/
def name (number : Nat) : Octets :=
  if number = 0 then "EXIT".toList
  else ((names[number - 1]?).map String.toList).getD (Nat.toDigits 10 number)

/-- The signals that do nothing unless a program asks for them. -/
def ignored : List Nat := [17, 18, 23, 28]

/-- What a shell tells about a program that a signal has ended, nothing for some signals. -/
def description? : Nat → Option String
  | 1 => some "Hangup"
  | 3 => some "Quit"
  | 4 => some "Illegal instruction"
  | 5 => some "Trace/breakpoint trap"
  | 6 => some "Aborted"
  | 7 => some "Bus error"
  | 8 => some "Floating point exception"
  | 9 => some "Killed"
  | 10 => some "User defined signal 1"
  | 11 => some "Segmentation fault"
  | 12 => some "User defined signal 2"
  | 14 => some "Alarm clock"
  | 15 => some "Terminated"
  | 16 => some "Stack fault"
  | 24 => some "CPU time limit exceeded"
  | 25 => some "File size limit exceeded"
  | 26 => some "Virtual timer expired"
  | 27 => some "Profiling timer expired"
  | 29 => some "I/O possible"
  | 30 => some "Power failure"
  | 31 => some "Bad system call"
  | _ => none

end FixtureHarness.Shell.Signal
