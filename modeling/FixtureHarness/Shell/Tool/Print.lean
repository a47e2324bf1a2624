import FixtureHarness.Shell.Template
import FixtureHarness.Shell.Tool.Basic

/-! # The tools that print their arguments -/

namespace FixtureHarness.Shell

namespace Invocation

/-- Prints a text, or complains that standard output is closed. -/
def printOrFail (invocation : Invocation) (text : Octets) (machine : Machine) : Machine × Nat :=
  if invocation.canPrint || text.isEmpty then (invocation.print text machine, 0)
  else (invocation.complain ("write error: " ++ badDescriptor).toList machine, 1)

end Invocation

namespace Echo

/-- How arguments are echoed. -/
structure Manner where
  newline : Bool
  escapes : Bool
  deriving DecidableEq, Repr

/-- Whether an argument consists of options. -/
def isOption : Octets → Bool
  | '-' :: letter :: letters =>
    (letter :: letters).all fun letter => ['n', 'e', 'E'].contains letter
  | _ => false

/-- Follows the options at the beginning of some arguments. -/
def readManner : Manner → List Octets → Manner × List Octets
  | manner, [] => (manner, [])
  | manner, argument :: rest =>
    if isOption argument then
      let follow (manner : Manner) (letter : Char) : Manner :=
        match letter with
        | 'n' => { manner with newline := false }
        | 'e' => { manner with escapes := true }
        | 'E' => { manner with escapes := false }
        | _ => manner
      readManner (argument.foldl follow manner) rest
    else (manner, argument :: rest)

/-- The escapes that are read on demand. -/
def escapeRules : EscapeRules where
  zeroFirst := true
  hexadecimal := true
  numbered := false
  stops := true
  quote := false
  takesUnknown := true

/-- Prints arguments with blanks between them. -/
def run : Tool := fun invocation machine =>
  let (manner, arguments) := readManner ⟨true, false⟩ invocation.arguments
  let text := List.intercalate [' '] arguments
  let (text, ended?) :=
    if manner.escapes then Escape.expand escapeRules text.length text else (text, none)
  let newline := manner.newline && ended?.isNone
  invocation.printOrFail (if newline then text ++ ['\n'] else text) machine

end Echo

namespace Printf

/-- The escapes in a template. -/
def escapeRules : EscapeRules where
  zeroFirst := false
  hexadecimal := true
  numbered := true
  stops := true
  quote := true
  takesUnknown := true

/-- The format of the floating point numbers that the tool prints. -/
def numberFormat : BinaryFormat where
  precision := 64
  minExponent := -16445
  maxExponent := 16320

/-- How the tool reads templates. -/
def rules : TemplateRules where
  escapes := escapeRules
  argumentEscapes := { escapeRules with zeroFirst := true }
  flags := ['-', '+', ' ', '#', '0', '\'', 'I']
  isStrict := true
  format := numberFormat
  shown := quotedText
  quoted := shownWord
  invalid written := written ++ ": invalid conversion specification".toList
  cutOff written := written ++ ": invalid conversion specification".toList
  noNumber := "expected a numeric value"
  partNumber := "value not completely converted"
  largeNumber := "Numerical result out of range"

/-- Does something that printing does. -/
def perform (invocation : Invocation) (machine : Machine) : PrintEvent → Machine
  | .print text => invocation.print text machine
  | .complain text => invocation.complain text machine

/-- Prints arguments by a template, the first argument. -/
def run : Tool := fun invocation machine =>
  let arguments :=
    match invocation.arguments with
    | ['-', '-'] :: rest => rest
    | arguments => arguments
  match arguments with
  | [] => (invocation.refuse "missing operand".toList machine, 1)
  | template :: arguments =>
    let printed := Template.print rules template arguments
    let machine := printed.events.foldl (perform invocation) machine
    let (machine, code) :=
      match printed.stop?, printed.rest with
      | some (.broken text), _ => (invocation.complain text machine, 1)
      | some .told, _ => (machine, 0)
      | none, excess :: _ =>
        (invocation.complain ("warning: ignoring excess arguments, starting with ".toList ++
          quotedText excess) machine, if printed.flawed then 1 else 0)
      | none, [] => (machine, if printed.flawed then 1 else 0)
    if !invocation.canPrint && !(Template.textOf printed).isEmpty then
      (invocation.complain ("write error: " ++ badDescriptor).toList machine, 1)
    else (machine, code)

end Printf

end FixtureHarness.Shell
