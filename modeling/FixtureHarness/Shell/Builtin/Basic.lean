import FixtureHarness.Shell.Program
import FixtureHarness.Shell.Session

/-! # Builtins

A builtin is a command that the shell carries out itself. It takes arguments and gives a status. What
it prints appears when it ends. A fault in a special builtin ends the shell.
-/

namespace FixtureHarness.Shell

/-- A builtin that needs no other command to run. -/
abbrev Builtin := List Octets → Action Nat

/-- What else the shell does for a command. -/
structure Flags where
  /-- Its status is looked at, so that a failure does not end the shell. -/
  tested : Bool
  /-- It is the last one, and the shell ends with it. -/
  last : Bool
  deriving DecidableEq, Repr

namespace Flags

/-- Nothing else. -/
def none : Flags := ⟨false, false⟩

/-- The status is looked at. -/
def onlyTested : Flags := ⟨true, false⟩

/-- The flags for a part of a command. -/
def inside (flags : Flags) : Flags := ⟨flags.tested, false⟩

end Flags

/-- How commands, texts and programs are run. -/
structure Kernel where
  command : Flags → Option Command → Action Nat
  /-- Runs a text as it stands in an argument. -/
  text : Flags → Octets → Action Nat
  /-- Runs the text of a file. -/
  script : Octets → Action Nat
  /-- Runs a program that shares descriptors, variables and ignored signals. -/
  program : Launch → Session → Machine × Ending

/-! ## Names of builtins -/

/-- The builtins that are not special. -/
def regularNames : List String :=
  ["[", "alias", "bg", "cd", "chdir", "command", "echo", "false", "fg", "getopts", "hash", "jobs",
    "kill", "printf", "pwd", "read", "test", "true", "type", "ulimit", "umask", "unalias", "wait"]

/-- Whether a name is a special builtin. -/
def isSpecial (name : Octets) : Bool :=
  specialNames.contains (String.ofList name)

/-- Whether a name is a builtin. -/
def isBuiltin (name : Octets) : Bool :=
  isSpecial name || regularNames.contains (String.ofList name)

/-- Whether the arguments of a builtin may be assignments, which are not cut into fields. -/
def takesAssignments (name : Octets) : Bool :=
  ["alias", "export", "local", "readonly"].contains (String.ofList name)

namespace Builtin

/-! ## Options -/

/-- An option of a builtin that was given. -/
structure Choice where
  letter : Char
  value : Octets
  deriving DecidableEq, Repr

/-- Whether an option letter is among the allowed ones, and whether it takes a value. A colon in the
allowed ones stands behind an option that takes a value. -/
def optionKind? (letter : Char) : Octets → Option Bool
  | [] => none
  | first :: rest =>
    if first = letter then some (rest.head? = some ':')
    else optionKind? letter (if rest.head? = some ':' then rest.drop 1 else rest)
termination_by allowed => allowed.length
decreasing_by split <;> simp only [List.length_cons, List.length_drop] <;> omega

/-- Reads the letters of an argument. Gives the arguments that are left. -/
def optionLetters (allowed : Octets) (arguments : List Octets) :
    Octets → Action (List Choice × List Octets)
  | [] => return ([], arguments)
  | letter :: letters => do
    match optionKind? letter allowed with
    | none => Action.fail ("Illegal option -".toList ++ [letter])
    | some false =>
      let (choices, arguments) ← optionLetters allowed arguments letters
      return (⟨letter, []⟩ :: choices, arguments)
    | some true =>
      if !letters.isEmpty then return ([⟨letter, letters⟩], arguments)
      else
        match arguments with
        | value :: arguments => return ([⟨letter, value⟩], arguments)
        | [] => Action.fail ("No arg for -".toList ++ letter :: " option".toList)

/-- Reads the options in front of arguments; the fuel bounds their number. -/
def optionsWithin (allowed : Octets) : Nat → List Octets → Action (List Choice × List Octets)
  | 0, arguments => return ([], arguments)
  | fuel + 1, arguments => do
    match arguments with
    | ['-', '-'] :: arguments => return ([], arguments)
    | ('-' :: letter :: letters) :: arguments =>
      let (choices, arguments) ← optionLetters allowed arguments (letter :: letters)
      let (more, arguments) ← optionsWithin allowed fuel arguments
      return (choices ++ more, arguments)
    | arguments => return ([], arguments)

/-- Reads the options in front of arguments. -/
def options (allowed : String) (arguments : List Octets) : Action (List Choice × List Octets) :=
  optionsWithin allowed.toList (arguments.length + 1) arguments

/-! ## Shown texts -/

/-- A text in single quotes, with single quotes in double ones. The fuel bounds its length. -/
def quotedWithin : Nat → Octets → Octets
  | 0, _ => []
  | fuel + 1, text =>
    let plain := text.takeWhile (· ≠ '\'')
    let rest := text.drop plain.length
    let quotes := rest.takeWhile (· = '\'')
    let behind := rest.drop quotes.length
    let first := '\'' :: plain ++ ['\'']
    if quotes.isEmpty then first
    else
      let both := first ++ '"' :: quotes ++ ['"']
      if behind.isEmpty then both else both ++ quotedWithin fuel behind

/-- A text in quotes. -/
def quoted (text : Octets) : Octets :=
  quotedWithin (text.length + 1) text

/-- The line that shows a variable. -/
def variableLine (start : Octets) (name : Octets) (value? : Option Octets) : Octets :=
  start ++ name ++
    (match value? with
    | some value => '=' :: quoted value
    | none => []) ++ ['\n']

/-- The order in which a table of so many rows shows names: by the row that the characters of a name
add up to, and in a row as they came. -/
def byRows {Content : Type} (rows : Nat) (entries : List (Octets × Content)) :
    List (Octets × Content) :=
  let row (name : Octets) : Nat :=
    name.foldl (fun total char => total + char.toNat) ((name.head?.map Char.toNat).getD 0 * 16) % rows
  entries.mergeSort fun left right => decide (row left.1 ≤ row right.1)

end Builtin

end FixtureHarness.Shell
