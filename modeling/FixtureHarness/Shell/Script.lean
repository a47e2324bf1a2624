import FixtureHarness.Text.Octets

/-! # Shell scripts

A script is a command. Words are kept as pieces, because what a piece stands for is known only when
the command runs, and because what is quoted is neither split nor taken for a pattern.
-/

namespace FixtureHarness.Shell

/-- Which part of a value a pattern takes away. -/
inductive Trim where
  | shortestStart
  | longestStart
  | shortestEnd
  | longestEnd
  deriving DecidableEq, Repr

/-- What happens with a parameter that is missing. -/
inductive Fallback where
  /-- The word stands for it. -/
  | useWord
  /-- The word stands for a parameter that is there. -/
  | useWordIfSet
  /-- The word becomes its value. -/
  | assignWord
  /-- The word is the message of a failure. -/
  | fail
  deriving DecidableEq, Repr

/-- How a redirection connects a descriptor. -/
inductive Direction where
  | write
  /-- Writes over a file that is there, whatever the options say. -/
  | overwrite
  | append
  | read
  | readWrite
  /-- Connects to what the descriptor of this number is connected to, or closes with a dash. -/
  | duplicate
  /-- Reads the text of a document, which has a number. -/
  | document (number : Nat) (expands : Bool)
  deriving DecidableEq, Repr

mutual

/-- A piece of a word. -/
inductive Piece where
  /-- A character. If it is quoted it stands for itself. -/
  | char (char : Char) (quoted : Bool)
  /-- The beginning or the end of a part in quotes. -/
  | quote
  | parameter (name : Octets) (use : Use)
  /-- What a script prints. -/
  | output (script? : Option Command)
  | arithmetic (expression : List Piece)

/-- How the value of a parameter is used. -/
inductive Use where
  | value
  | size
  /-- An empty value counts as missing if `emptyToo` is set. -/
  | fallback (kind : Fallback) (emptyToo : Bool) (word : List Piece)
  | trim (kind : Trim) (pattern : List Piece)
  | invalid (word : List Piece)

/-- Connects a descriptor. -/
inductive Redirection where
  | mk (descriptor : Nat) (direction : Direction) (target : List Piece)

/-- A command. Parts that may be left out are optional. -/
inductive Command where
  | simple (line : Nat) (assignments words : List (List Piece)) (redirections : List Redirection)
  | pipeline (background : Bool) (stages : List Command)
  | redirected (line : Nat) (body : Command) (redirections : List Redirection)
  | background (line : Nat) (body : Command) (redirections : List Redirection)
  | subshell (line : Nat) (body : Command) (redirections : List Redirection)
  | both (first second : Command)
  | either (first second : Command)
  | sequence (first second : Command)
  | negation (body : Command)
  | conditional (condition consequence : Command) (alternative? : Option Command)
  /-- Repeats the body while the condition succeeds, or until it does. -/
  | loop (untilSuccess : Bool) (condition body : Command)
  /-- Runs the body for each word. -/
  | forEach (line : Nat) (name : Octets) (words : List (List Piece)) (body : Command)
  | choice (line : Nat) (subject : List Piece)
      (branches : List (List (List Piece) × Option Command))
  | define (line : Nat) (name : Octets) (body : Command)

end

/-- A word. -/
abbrev Word := List Piece

instance : Inhabited Piece := ⟨.quote⟩

instance : Inhabited Command := ⟨.simple 0 [] [] []⟩

/-- The word `"$@"`, which stands for the arguments. -/
def argumentsWord : Word :=
  [.quote, .parameter ['@'] .value, .quote]

/-! ## Names -/

/-- Whether a character can begin a name. -/
def startsName (char : Char) : Bool :=
  char.isAlpha || char = '_'

/-- Whether a character can stand in a name. -/
def inName (char : Char) : Bool :=
  startsName char || char.isDigit

/-- Whether a text is a name. -/
def isName : Octets → Bool
  | [] => false
  | char :: rest => startsName char && rest.all inName

/-- Whether a character is the name of a parameter that the shell sets. -/
def isSpecialName (char : Char) : Bool :=
  char.isDigit || ['!', '$', '?', '*', '@', '#', '-'].contains char

/-- The text of a word whose pieces are all plain characters. -/
def plainText? : Word → Option Octets
  | [] => some []
  | .char char false :: rest => (plainText? rest).map (char :: ·)
  | _ => none

/-- The name that a word assigns: an unquoted name before an equals sign. -/
def assignedName? (word : Word) : Option Octets :=
  let isPlain (piece : Piece) : Option Char :=
    match piece with
    | .char char false => if inName char then some char else none
    | _ => none
  let name := (word.map isPlain).takeWhile Option.isSome |>.filterMap id
  match word.drop name.length with
  | .char '=' false :: _ => if isName name then some name else none
  | _ => none

end FixtureHarness.Shell
