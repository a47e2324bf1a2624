import FixtureHarness.Number.FloatingText
import FixtureHarness.Shell.Escape

/-! # Printing by a template

A template is text with directives that each print the next argument in some form. It is used again
while arguments are left. Two programs print by templates; a record names where they differ.
-/

namespace FixtureHarness.Shell

/-- How a program reads templates and tells what is wrong. -/
structure TemplateRules where
  escapes : EscapeRules
  /-- The escapes in the arguments of `%b`. -/
  argumentEscapes : EscapeRules
  /-- The characters that may stand behind the percent sign. -/
  flags : Octets
  /-- Sizes such as `l` may stand before the letter, and only some letters take some flags. -/
  isStrict : Bool
  format : BinaryFormat
  /-- An argument as messages show it. -/
  shown : Octets → Octets
  /-- An argument as `%q` prints it. -/
  quoted : Octets → Octets
  /-- The text about a directive that is none. -/
  invalid : Octets → Octets
  /-- The text about a directive that the template cuts off. -/
  cutOff : Octets → Octets
  /-- The texts about numbers: none, with more behind, and too large. -/
  noNumber : String
  partNumber : String
  largeNumber : String

/-- A width or precision. -/
inductive Extent where
  | missing
  | given (size : Nat)
  /-- The next argument tells. -/
  | argument
  deriving DecidableEq, Repr

/-- A directive. -/
structure Directive where
  flags : Octets
  width : Extent
  precision : Extent
  /-- Whether there is a point, even if no precision follows. -/
  hasPoint : Bool
  letter? : Option Char
  /-- How it was written, up to the letter. -/
  written : Octets
  deriving DecidableEq, Repr

/-- A directive whose sizes are known. -/
structure Layout where
  flags : Octets
  width : Nat
  precision? : Option Nat
  letter : Char
  deriving DecidableEq, Repr

/-- A part of a template. -/
inductive TemplatePart where
  | text (text : Octets)
  | stop
  | directive (directive : Directive)
  | fault (text : Octets)
  deriving DecidableEq, Repr

/-- Something that printing does. -/
inductive PrintEvent where
  | print (text : Octets)
  | complain (text : Octets)
  deriving DecidableEq, Repr

/-- How far printing has come. -/
structure PrintState where
  /-- What was done, the last first. -/
  events : List PrintEvent
  rest : List Octets
  /-- Whether an argument was bad. -/
  flawed : Bool
  deriving DecidableEq, Repr

/-- Why printing ended before the end of the template. -/
inductive PrintStop where
  | told
  /-- With a complaint. -/
  | broken (text : Octets)
  deriving DecidableEq, Repr

/-- A step of printing. -/
abbrev Printing := ExceptT PrintStop (StateM PrintState)

namespace Template

/-! ## Reading -/

/-- Reads a width or precision. -/
def readExtent (text : Octets) : Extent × Octets :=
  match text with
  | '*' :: rest => (.argument, rest)
  | _ =>
    let digits := text.takeWhile Char.isDigit
    let size := digits.foldl (fun value digit => value * 10 + (digit.toNat - '0'.toNat)) 0
    (if digits.isEmpty then .missing else .given size, text.drop digits.length)

/-- Whether a character says how large a number is. -/
def isSize (char : Char) : Bool :=
  ['h', 'l', 'j', 't', 'z', 'L'].contains char

/-- Reads a directive behind its percent sign. -/
def readDirective (rules : TemplateRules) (text : Octets) : Directive × Octets :=
  let flags := text.takeWhile rules.flags.contains
  let (width, rest) := readExtent (text.drop flags.length)
  let (precision, hasPoint, rest) :=
    match rest with
    | '.' :: rest =>
      let (precision, rest) := readExtent rest
      (precision, true, rest)
    | rest => (Extent.missing, false, rest)
  let rest := if rules.isStrict then rest.dropWhile isSize else rest
  let after := rest.drop 1
  let written := '%' :: text.take (text.length - after.length)
  (⟨flags, width, precision, hasPoint, rest.head?, written⟩, after)

/-- Reads a template. -/
def read (rules : TemplateRules) : Nat → Octets → List TemplatePart
  | 0, _ => []
  | _, [] => []
  | fuel + 1, '%' :: '%' :: rest => .text ['%'] :: read rules fuel rest
  | fuel + 1, '%' :: rest =>
    let (directive, rest) := readDirective rules rest
    .directive directive :: read rules fuel rest
  | fuel + 1, '\\' :: rest =>
    match Escape.read rules.escapes rest with
    | (.stop, _) => [.stop]
    | (.fault text, _) => [.fault text]
    | (.text text, rest) => .text text :: read rules fuel rest
  | fuel + 1, char :: rest => .text [char] :: read rules fuel rest

/-! ## Steps -/

/-- Does something. -/
def notice (event : PrintEvent) : Printing Unit :=
  modify fun state => { state with events := event :: state.events }

/-- Prints a text. -/
def put (text : Octets) : Printing Unit :=
  notice (.print text)

/-- Complains about an argument. -/
def complain (rules : TemplateRules) (argument : Octets) (text : String) : Printing Unit := do
  notice (.complain (rules.shown argument ++ (": " ++ text).toList))
  modify fun state => { state with flawed := true }

/-- Ends printing with a complaint. -/
def fail {Result : Type} (text : Octets) : Printing Result :=
  throw (.broken text)

/-- Takes the next argument. -/
def nextArgument? : Printing (Option Octets) := do
  let state ← get
  set { state with rest := state.rest.drop 1 }
  return state.rest.head?

/-- Ends printing where an escape says so. -/
def endAt : Option Escape → Printing Unit
  | none => return ()
  | some (.fault text) => throw (.broken text)
  | some _ => throw .told

/-! ## Numbers -/

/-- The value of digits of a base at the beginning of a text, and what follows them. -/
def readDigits (base : Nat) (text : Octets) : Option Nat × Octets :=
  let digits := text.takeWhile fun char => (Escape.hexValue? char).any (· < base)
  let value := digits.foldl (fun value digit => value * base + (Escape.hexValue? digit).getD 0) 0
  (if digits.isEmpty then none else some value, text.drop digits.length)

/-- Reads the amount of a number, whose first digits give its base. -/
def readAmount (text : Octets) : Option Nat × Octets :=
  let hexadecimal (rest : Octets) :=
    match readDigits 16 rest with
    | (some value, rest) => (some value, rest)
    | (none, _) => (some 0, text.drop 1)
  match text with
  | '0' :: 'x' :: rest => hexadecimal rest
  | '0' :: 'X' :: rest => hexadecimal rest
  | '0' :: _ => readDigits 8 text
  | _ => readDigits 10 text

/-- The character that an argument stands for by a quote in front of it. -/
def quotedChar? (rules : TemplateRules) (argument : Octets) : Option (Nat × Octets) :=
  match argument with
  | quote :: rest =>
    if quote ≠ '"' && quote ≠ '\'' then none
    else
      match rest with
      | char :: behind => some (char.toNat, if rules.isStrict then behind else [])
      | [] => if rules.isStrict then none else some (0, [])
  | [] => none

/-- Warns about what follows the character that an argument stands for. -/
def warnBehind (behind : Octets) : Printing Unit :=
  if behind.isEmpty then return ()
  else
    notice (.complain ("warning: ".toList ++ behind ++
      ": character(s) following character constant have been ignored".toList))

/-- Checks how an argument was read as a number. -/
def check (rules : TemplateRules) (argument : Octets) (isRead outOfRange : Bool)
    (rest : Octets) : Printing Unit :=
  if outOfRange then
    if rules.isStrict || rest.isEmpty then complain rules argument rules.largeNumber
    else complain rules argument rules.partNumber
  else if !isRead then
    if argument.isEmpty then return () else complain rules argument rules.noNumber
  else if rest.isEmpty then return ()
  else complain rules argument rules.partNumber

/-- The integers that a directive can print. -/
structure IntegerRange where
  least : Int
  greatest : Int
  /-- What a smaller number than the least one counts as. -/
  below : Int
  deriving DecidableEq, Repr

/-- The integers with a sign. -/
def signedRange : IntegerRange := ⟨-Int.pow 2 63, Int.pow 2 63 - 1, -Int.pow 2 63⟩

/-- The integers without a sign. A sign in front of one counts all the same. -/
def unsignedRange : IntegerRange := ⟨-(Int.pow 2 64 - 1), Int.pow 2 64 - 1, Int.pow 2 64 - 1⟩

/-- Reads an argument as an integer. -/
def readNumber (rules : TemplateRules) (range : IntegerRange) (argument : Octets) :
    Printing Int := do
  match quotedChar? rules argument with
  | some (char, behind) =>
    warnBehind behind
    return char
  | none =>
    let text := argument.dropWhile fun char => char = ' ' || ('\t' ≤ char && char ≤ '\r')
    let (negative, body) :=
      match text with
      | '-' :: rest => (true, rest)
      | '+' :: rest => (false, rest)
      | _ => (false, text)
    match readAmount body with
    | (none, _) =>
      check rules argument false false argument
      return 0
    | (some amount, rest) =>
      let value : Int := if negative then -amount else amount
      let isBelow := value < range.least
      let isAbove := range.greatest < value
      check rules argument true (isBelow || isAbove) rest
      return if isBelow then range.below else if isAbove then range.greatest else value

/-- Reads an argument as a floating point number. -/
def readFloating (rules : TemplateRules) (argument : Octets) : Printing Floating := do
  match quotedChar? rules argument with
  | some (char, behind) =>
    warnBehind behind
    return .finite false ((Magnitude.roundTo? rules.format char 1).getD .zero)
  | none =>
    match Floating.read? rules.format argument with
    | some found =>
      check rules argument true found.outOfRange found.rest
      return found.value
    | none =>
      check rules argument false false argument
      return .finite false .zero

/-! ## Formatting -/

/-- Pads a text to a width. -/
def pad (layout : Layout) (text : Octets) : Octets :=
  let padding := List.replicate (layout.width - text.length) ' '
  if layout.flags.contains '-' then text ++ padding else padding ++ text

/-- Pads what stands before digits and the digits, with zeros between them on demand. -/
def padNumber (layout : Layout) (zeros : Bool) (head body : Octets) : Octets :=
  if zeros && layout.flags.contains '0' && !layout.flags.contains '-' then
    head ++ List.replicate (layout.width - head.length - body.length) '0' ++ body
  else pad layout (head ++ body)

/-- A text as far as the precision allows. -/
def cut (layout : Layout) (text : Octets) : Octets :=
  match layout.precision? with
  | some size => text.take size
  | none => text

/-- The sign of a number. -/
def signText (layout : Layout) (negative : Bool) : Octets :=
  if negative then ['-']
  else if layout.flags.contains '+' then ['+']
  else if layout.flags.contains ' ' then [' ']
  else []

/-- An integer in the form of a directive: sign, mark of the base, zeros and digits. -/
def integerText (layout : Layout) (value : Int) : Octets :=
  let isSigned := layout.letter = 'd' || layout.letter = 'i'
  let sign := if isSigned then signText layout (decide (value < 0)) else []
  let amount := if isSigned then value.natAbs else (value % Int.pow 2 64).toNat
  let base :=
    match layout.letter with
    | 'o' => 8
    | 'x' | 'X' => 16
    | _ => 10
  let digits := if amount = 0 && layout.precision? = some 0 then [] else Nat.toDigits base amount
  let digits := if layout.letter = 'X' then digits.map Char.toUpper else digits
  let digits := List.replicate ((layout.precision?.getD 0) - digits.length) '0' ++ digits
  let hasMark := layout.flags.contains '#'
  let digits := if layout.letter = 'o' && hasMark && digits.head? ≠ some '0' then '0' :: digits
    else digits
  let mark := if base = 16 && hasMark && amount ≠ 0 then ['0', layout.letter] else []
  padNumber layout layout.precision?.isNone (sign ++ mark) digits

/-- The form that a letter stands for. -/
def floatingForm? (letter : Char) : Option Floating.Form :=
  match letter.toLower with
  | 'f' => some .fixed
  | 'e' => some .scientific
  | 'g' => some .general
  | 'a' => some .hexadecimal
  | _ => none

/-- A floating point number in the form of a directive. -/
def floatingText (rules : TemplateRules) (layout : Layout) (form : Floating.Form)
    (value : Floating) : Octets :=
  let style : Floating.Style :=
    ⟨form, layout.precision?, layout.flags.contains '#', layout.letter.isUpper⟩
  let written := Floating.write rules.format style value
  padNumber layout written.takesZeros (signText layout written.negative ++ written.mark)
    written.body

/-! ## Directives -/

/-- Whether a letter can stand behind the flags and sizes of a directive. -/
def allows (rules : TemplateRules) (directive : Directive) (letter : Char) : Bool :=
  let isNumeric := ['d', 'i', 'o', 'u', 'x', 'X'].contains letter
  let isFloating := (floatingForm? letter).isSome
  let isText := letter = 'c' || letter = 's'
  if !rules.isStrict then isNumeric || isFloating || isText || letter = 'b'
  else
    let has (flag : Char) : Bool := directive.flags.contains flag
    let isPlain := directive.written.length = 2
    if letter = 'b' || letter = 'q' then isPlain
    else
      (isNumeric || isFloating || isText) &&
        !((has '\'' || has 'I') && !(['d', 'i', 'u', 'f', 'F', 'g', 'G'].contains letter)) &&
        !(has '#' && ['c', 'd', 'i', 's', 'u'].contains letter) &&
        !(has '0' && isText) && !(directive.hasPoint && letter = 'c')

/-- The least and the greatest width. -/
def extentBound : Int := Int.pow 2 31 - 1

/-- The size that a width or precision stands for. -/
def sizeOf? (rules : TemplateRules) (name : String) (extent : Extent) :
    Printing (Option Int) := do
  match extent with
  | .missing => return none
  | .given size => return some size
  | .argument =>
    match ← nextArgument? with
    | none => return some 0
    | some argument =>
      let size ← readNumber rules signedRange argument
      let isBelow := size < -extentBound - 1 && name = "field width"
      if rules.isStrict && (isBelow || extentBound < size) then
        fail ("invalid ".toList ++ name.toList ++ ": ".toList ++ rules.shown argument)
      else return some size

/-- The sizes of a directive with what its arguments say. -/
def layoutOf (rules : TemplateRules) (directive : Directive) (letter : Char) :
    Printing Layout := do
  let width? ← sizeOf? rules "field width" directive.width
  let precision? ← sizeOf? rules "precision" directive.precision
  let width := width?.getD 0
  let precision? := if directive.hasPoint then some (precision?.getD 0) else none
  return {
    flags := if width < 0 then '-' :: directive.flags else directive.flags
    width := width.natAbs
    precision? := precision?.bind fun size => if size < 0 then none else some size.toNat
    letter := letter }

/-- Prints the next argument as a directive says. -/
def printArgument (rules : TemplateRules) (layout : Layout) : Printing Unit := do
  let argument? ← nextArgument?
  let argument := argument?.getD []
  match layout.letter with
  | 's' => put (pad layout (cut layout argument))
  | 'c' => put (pad layout [argument.head?.getD '\x00'])
  | 'q' => if argument?.isSome then put (rules.quoted argument)
  | 'b' =>
    let (text, ended?) := Escape.expand rules.argumentEscapes argument.length argument
    put (pad layout (cut layout text))
    endAt ended?
  | letter =>
    match floatingForm? letter with
    | some form =>
      let value ← readFloating rules argument
      put (floatingText rules layout form value)
    | none =>
      let isSigned := letter = 'd' || letter = 'i'
      let value ← readNumber rules (if isSigned then signedRange else unsignedRange) argument
      put (integerText layout value)

/-- Prints what a directive stands for. -/
def printDirective (rules : TemplateRules) (directive : Directive) : Printing Unit := do
  match directive.letter? with
  | none =>
    let _ ← layoutOf rules directive ' '
    fail (rules.cutOff directive.written)
  | some letter =>
    let layout ← layoutOf rules directive letter
    if allows rules directive letter then printArgument rules layout
    else fail (rules.invalid directive.written)

/-- Prints the parts of a template once. -/
def printParts (rules : TemplateRules) : List TemplatePart → Printing Unit
  | [] => return ()
  | .text text :: rest => do
    put text
    printParts rules rest
  | .stop :: _ => throw .told
  | .fault text :: _ => fail text
  | .directive directive :: rest => do
    printDirective rules directive
    printParts rules rest

/-- Prints a template again and again until no argument is left or a use takes none. -/
def printAll (rules : TemplateRules) (parts : List TemplatePart) : Nat → Printing Unit
  | 0 => return ()
  | fuel + 1 => do
    let before ← get
    printParts rules parts
    let after ← get
    if after.rest.isEmpty || after.rest.length = before.rest.length then return ()
    else printAll rules parts fuel

/-- What printing did. -/
structure Printed where
  events : List PrintEvent
  rest : List Octets
  flawed : Bool
  stop? : Option PrintStop
  deriving DecidableEq, Repr

/-- Prints arguments by a template. -/
def print (rules : TemplateRules) (template : Octets) (arguments : List Octets) : Printed :=
  let step := printAll rules (read rules template.length template) (arguments.length + 1)
  let (result, state) := step ⟨[], arguments, false⟩
  let stop? :=
    match result with
    | .ok () => none
    | .error stop => some stop
  ⟨state.events.reverse, state.rest, state.flawed, stop?⟩

/-- The text that was printed. -/
def textOf (printed : Printed) : Octets :=
  printed.events.flatMap fun
    | .print text => text
    | .complain _ => []

end Template

end FixtureHarness.Shell
