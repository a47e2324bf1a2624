import FixtureHarness.Shell.Machine

/-! # Tools

A tool is a program that looks at its arguments, reads and writes through its descriptors, and ends
with an exit code. Its messages begin with the name it was called by.
-/

namespace FixtureHarness.Shell

/-- How a program is called. -/
structure Invocation where
  name : Octets
  arguments : List Octets
  descriptors : Descriptors
  deriving DecidableEq, Repr

/-- A program without a memory of its own. -/
abbrev Tool := Invocation → Machine → Machine × Nat

namespace Invocation

/-- Writes to standard output. -/
def print (invocation : Invocation) (text : Octets) (machine : Machine) : Machine :=
  machine.write invocation.descriptors 1 text

/-- Whether standard output is open. -/
def canPrint (invocation : Invocation) : Bool :=
  (invocation.descriptors.stream? 1).isSome

/-- Writes a line to standard error, behind the name of the program. -/
def complain (invocation : Invocation) (text : Octets) (machine : Machine) : Machine :=
  machine.write invocation.descriptors 2
    (invocation.name ++ ':' :: ' ' :: text ++ ['\n'])

/-- Writes plain lines to standard error. -/
def remark (invocation : Invocation) (text : Octets) (machine : Machine) : Machine :=
  machine.write invocation.descriptors 2 (text ++ ['\n'])

/-- The line that points to the help of a program. -/
def helpHint (invocation : Invocation) : Octets :=
  "Try '".toList ++ invocation.name ++ " --help' for more information.".toList

/-- Complains about how the program was called. -/
def refuse (invocation : Invocation) (text : Octets) (machine : Machine) : Machine :=
  invocation.remark invocation.helpHint (invocation.complain text machine)

end Invocation

/-! ## Names in messages -/

/-- Whether a character makes quotes necessary around a name. -/
def needsQuotes (char : Char) : Bool :=
  char ≤ ' ' || '~' < char ||
    ['!', '"', '$', '&', '\'', '(', ')', '*', ';', '<', '=', '>', '?', '[', '\\', '^', '\x60',
      '|'].contains char

/-- Whether a character can be shown. -/
def isShown (char : Char) : Bool :=
  ' ' ≤ char && char ≤ '~'

/-- An octet that cannot be shown, as an escape. -/
def escaped (char : Char) : Octets :=
  match char with
  | '\n' => ['\\', 'n']
  | '\t' => ['\\', 't']
  | '\r' => ['\\', 'r']
  | '\x07' => ['\\', 'a']
  | '\x08' => ['\\', 'b']
  | '\x0b' => ['\\', 'v']
  | '\x0c' => ['\\', 'f']
  | char =>
    let code := char.toNat
    ['\\', Char.ofNat (48 + code / 64), Char.ofNat (48 + code / 8 % 8), Char.ofNat (48 + code % 8)]

/-- The inside of single quotes. Octets that cannot be shown stand in quotes of their own. -/
def quotedInside : Bool → Octets → Octets
  | _, [] => []
  | inEscapes, char :: rest =>
    if isShown char then
      let text := if char = '\'' then ['\'', '\\', '\'', '\''] else [char]
      (if inEscapes then ['\'', '\''] else []) ++ text ++ quotedInside false rest
    else (if inEscapes then [] else ['\'', '$', '\'']) ++ escaped char ++ quotedInside true rest

/-- A name in quotes. -/
def quotedName (name : Octets) : Octets :=
  let plainInDouble := name.all fun char =>
    isShown char && !(['"', '$', '\\', '\x60', '!'].contains char)
  if name.contains '\'' && plainInDouble then '"' :: name ++ ['"']
  else '\'' :: quotedInside false name ++ ['\'']

/-- A text in single quotes. What cannot be shown stands in it as an escape. -/
def quotedText (text : Octets) : Octets :=
  let inside (char : Char) : Octets :=
    if char = '\'' || char = '\\' then ['\\', char]
    else if isShown char then [char]
    else escaped char
  '\'' :: text.flatMap inside ++ ['\'']

/-- A word, in quotes if a shell could misread it. -/
def shownWord (word : Octets) : Octets :=
  let startsOddly := word.head?.any fun char => char = '#' || char = '~'
  let isBrace := word = ['\x7b'] || word = ['\x7d']
  if word.isEmpty || startsOddly || isBrace || word.any needsQuotes then quotedName word else word

/-- A name in a message, in quotes if it could be misread, also because of a colon. -/
def shownName (name : Octets) : Octets :=
  if name.contains ':' then quotedName name else shownWord name

end FixtureHarness.Shell
