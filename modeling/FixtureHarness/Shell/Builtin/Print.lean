import FixtureHarness.Shell.Builtin.Basic
import FixtureHarness.Shell.Template

/-! # Builtins that print -/

namespace FixtureHarness.Shell.Builtin

/-- The escapes that are read in every echoed text. -/
def echoEscapes : EscapeRules where
  zeroFirst := true
  hexadecimal := false
  numbered := false
  stops := true
  quote := false
  takesUnknown := false

/-- Prints arguments with blanks between them and escapes read. -/
def echo : Builtin := fun arguments => do
  let (newline, arguments) :=
    match arguments with
    | ['-', 'n'] :: rest => (false, rest)
    | arguments => (true, arguments)
  let text := List.intercalate [' '] arguments
  let (text, ended?) := Escape.expand echoEscapes text.length text
  Action.print (if newline && ended?.isNone then text ++ ['\n'] else text)
  return 0

/-- How the builtin reads templates. -/
def templateRules : TemplateRules where
  escapes := { echoEscapes with zeroFirst := false, stops := false }
  argumentEscapes := echoEscapes
  flags := ['#', '-', '+', ' ', '0']
  isStrict := false
  format := Magnitude.doubleFormat
  shown argument := argument
  quoted argument := argument
  invalid written := written ++ ": invalid directive".toList
  cutOff _ := "missing format character".toList
  noNumber := "expected numeric value"
  partNumber := "not completely converted"
  largeNumber := "Numerical result out of range"

/-- Tells what printing has to tell. -/
def tell : PrintEvent → Action Unit
  | .print text => Action.print text
  | .complain text => Action.warn text

/-- Prints arguments by a template. -/
def printf : Builtin := fun arguments => do
  let (_, arguments) ← options "" arguments
  match arguments with
  | [] => Action.fail "usage: printf format [arg ...]".toList
  | template :: arguments =>
    let printed := Template.print templateRules template arguments
    printed.events.forM tell
    match printed.stop? with
    | some (.broken text) => Action.fail text
    | _ => return if printed.flawed then 1 else 0

end FixtureHarness.Shell.Builtin
