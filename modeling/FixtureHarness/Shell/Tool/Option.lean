import FixtureHarness.Shell.Tool.Basic

/-! # Options of tools

An option is one letter behind a dash, where several can stand together, or a word behind two. Words
can be cut short as long as they stay clear. Options and operands come in any order; behind two
dashes alone all arguments are operands.
-/

namespace FixtureHarness.Shell

/-- Whether an option has a value. -/
inductive ValueRule where
  | never
  | always
  /-- Only with an equals sign. -/
  | optionally
  deriving DecidableEq, Repr

/-- A name of an option. One option can have several. -/
structure OptionRule (Key : Type) where
  key : Key
  letter? : Option Char
  long? : Option String
  value : ValueRule

namespace OptionRule

/-- An option that is a letter or a word, and has no value. -/
def plain {Key : Type} (letter : Char) (long : String) (key : Key) : OptionRule Key :=
  ⟨key, some letter, some long, .never⟩

/-- An option that is a letter only, and has no value. -/
def letter {Key : Type} (letter : Char) (key : Key) : OptionRule Key :=
  ⟨key, some letter, none, .never⟩

/-- An option that is a word only, and has no value. -/
def word {Key : Type} (long : String) (key : Key) : OptionRule Key :=
  ⟨key, none, some long, .never⟩

/-- An option that is a letter or a word, and has a value. -/
def valued {Key : Type} (letter : Char) (long : String) (key : Key) : OptionRule Key :=
  ⟨key, some letter, some long, .always⟩

end OptionRule

/-- An option that was given. -/
structure GivenOption (Key : Type) where
  key : Key
  value? : Option Octets
  /-- How many arguments stand behind the one with the option. -/
  place : Nat
  deriving DecidableEq, Repr

/-- The value of an option, or the empty text. -/
def GivenOption.value {Key : Type} (option : GivenOption Key) : Octets :=
  option.value?.getD []

/-- The options and operands of a call. -/
structure Given (Key : Type) where
  options : List (GivenOption Key)
  operands : List Octets
  /-- What is wrong with the arguments behind these. -/
  fault? : Option Octets
  deriving DecidableEq, Repr

/-- Whether an option was given. -/
def Given.has {Key : Type} [DecidableEq Key] (given : Given Key) (key : Key) : Bool :=
  given.options.any fun option => option.key = key

namespace Given

variable {Key : Type} [DecidableEq Key]

/-- Some options before others. -/
def before (options : List (GivenOption Key)) (given : Given Key) : Given Key :=
  { given with options := options ++ given.options }

/-- Nothing more after something wrong. -/
def failed (options : List (GivenOption Key)) (fault : Octets) : Given Key :=
  ⟨options, [], some fault⟩

/-! ## Letters -/

/-- What the letters of an argument come to. -/
structure Letters (Key : Type) where
  options : List (GivenOption Key)
  /-- Whether the next argument was used up as a value. -/
  usesNext : Bool
  fault? : Option Octets

/-- Reads the letters of one argument. An option that takes a value has the rest as its value, or
else the next argument. -/
def readLetters (rules : List (OptionRule Key)) (place : Nat) (next? : Option Octets) :
    Octets → Letters Key
  | [] => ⟨[], false, none⟩
  | letter :: rest =>
    match rules.find? fun rule => rule.letter? = some letter with
    | none => ⟨[], false, some ("invalid option -- '".toList ++ letter :: ['\''])⟩
    | some rule =>
      if rule.value = .always then
        match if rest.isEmpty then next? else some rest with
        | some value => ⟨[⟨rule.key, some value, place⟩], rest.isEmpty, none⟩
        | none =>
          ⟨[], false, some ("option requires an argument -- '".toList ++ letter :: ['\''])⟩
      else
        let more := readLetters rules place next? rest
        { more with options := ⟨rule.key, none, place⟩ :: more.options }

/-! ## Words -/

/-- A word that could be meant, in quotes. -/
def possibility (rule : OptionRule Key) : Octets :=
  " '--".toList ++ (rule.long?.getD "").toList ++ ['\'']

/-- The rule of an option that a word names, or the beginning of one. -/
def longRule (rules : List (OptionRule Key)) (text : Octets) : Except Octets (OptionRule Key) :=
  let name := text.takeWhile (· ≠ '=')
  let fits := rules.filter fun rule => rule.long?.any fun long => name.isPrefixOf long.toList
  let whole? := fits.find? fun rule => rule.long? = some (String.ofList name)
  match whole?, fits with
  | some rule, _ => .ok rule
  | none, [] => .error ("unrecognized option '--".toList ++ text ++ ['\''])
  | none, first :: others =>
    if others.all fun rule => rule.key = first.key && rule.value = first.value then .ok first
    else
      .error ("option '--".toList ++ text ++ "' is ambiguous; possibilities:".toList ++
        fits.flatMap possibility)

/-- What a long option is called in messages. -/
def longName (rule : OptionRule Key) : Octets :=
  "option '--".toList ++ (rule.long?.getD "").toList ++ ['\'']

/-- Reads a long option. Returns whether the next argument was used up as its value. -/
def readLong (rules : List (OptionRule Key)) (place : Nat) (next? : Option Octets)
    (text : Octets) : Except Octets (GivenOption Key × Bool) := do
  let rule ← longRule rules text
  let value? :=
    if text.contains '=' then some ((text.dropWhile (· ≠ '=')).drop 1) else none
  match rule.value, value?, next? with
  | .never, some _, _ => .error (longName rule ++ " doesn't allow an argument".toList)
  | .always, none, none => .error (longName rule ++ " requires an argument".toList)
  | .always, none, some value => .ok (⟨rule.key, some value, place⟩, true)
  | _, _, _ => .ok (⟨rule.key, value?, place⟩, false)

/-! ## Arguments -/

/-- Reads arguments in any order. The fuel bounds their number. -/
def readAll (rules : List (OptionRule Key)) : Nat → List Octets → Given Key
  | 0, operands => ⟨[], operands, none⟩
  | _, [] => ⟨[], [], none⟩
  | fuel + 1, argument :: rest =>
    match argument with
    | ['-', '-'] => ⟨[], rest, none⟩
    | '-' :: '-' :: long =>
      match readLong rules rest.length rest.head? long with
      | .error fault => failed [] fault
      | .ok (option, usesNext) =>
        (readAll rules fuel (if usesNext then rest.drop 1 else rest)).before [option]
    | '-' :: letter :: letters =>
      let read := readLetters rules rest.length rest.head? (letter :: letters)
      match read.fault? with
      | some fault => failed read.options fault
      | none =>
        (readAll rules fuel (if read.usesNext then rest.drop 1 else rest)).before read.options
    | _ =>
      let given := readAll rules fuel rest
      { given with operands := argument :: given.operands }

end Given

/-- The options and operands of a call. -/
def Invocation.read {Key : Type} [DecidableEq Key] (invocation : Invocation)
    (rules : List (OptionRule Key)) : Given Key :=
  Given.readAll rules (invocation.arguments.length + 1) invocation.arguments

end FixtureHarness.Shell
