import FixtureHarness.Shell.Script

/-! # Arithmetic

Expressions over integers of 64 bits with a sign, which wrap around. An expression can assign
variables; the parts that a condition leaves out have no effect.
-/

namespace FixtureHarness.Shell

/-- An operator between two operands. -/
inductive Operator where
  | multiply | divide | remainder | add | subtract | shiftLeft | shiftRight
  | less | lessEqual | greater | greaterEqual | equal | unequal
  | bitAnd | bitXor | bitOr
  deriving DecidableEq, Repr

/-- What is wrong with an expression. -/
inductive ArithmeticFault where
  | expectingPrimary
  | expectingEnd
  | expectingParenthesis
  | expectingColon
  | divisionByZero
  /-- The least number is divided by minus one. -/
  | tooLarge
  | illegalNumber (text : Octets)
  deriving DecidableEq, Repr

/-- An expression. What cannot be read is a part of it, so that what stands before is evaluated
first. -/
inductive Expression where
  | number (value : Int)
  | variable (name : Octets)
  | negate (operand : Expression)
  | complement (operand : Expression)
  | refuse (operand : Expression)
  | binary (operator : Operator) (left right : Expression)
  | both (left right : Expression)
  | either (left right : Expression)
  | choose (condition consequence alternative : Expression)
  /-- Assigns the value, or what the operator makes of the old value and it. -/
  | assign (name : Octets) (operator? : Option Operator) (value : Expression)
  /-- The text cannot be read from here on. -/
  | faulty (fault : ArithmeticFault)
  /-- The text cannot be read behind an expression. -/
  | cutOff (before : Expression) (fault : ArithmeticFault)
  deriving DecidableEq, Repr

namespace Expression

/-- A number as 64 bits with a sign hold it. -/
def wrap (value : Int) : Int :=
  value.bmod (Nat.pow 2 64)

/-- A number as the next that 64 bits with a sign hold. -/
def clamp (value : Int) : Int :=
  max (-Int.pow 2 63) (min (Int.pow 2 63 - 1) value)

/-! ## Reading -/

/-- The value of a digit. -/
def digitValue (char : Char) : Nat :=
  if char.isDigit then char.toNat - '0'.toNat
  else if 'a' ≤ char ∧ char ≤ 'z' then char.toNat - 'a'.toNat + 10
  else if 'A' ≤ char ∧ char ≤ 'Z' then char.toNat - 'A'.toNat + 10
  else 99

/-- Reads digits of a base. -/
def readDigits (base : Nat) (text : Octets) : Nat × Octets :=
  let digits := text.takeWhile fun char => digitValue char < base
  (digits.foldl (fun value digit => value * base + digitValue digit) 0, text.drop digits.length)

/-- Whether a character is a digit of base sixteen. -/
def isHexDigit (char : Char) : Bool :=
  digitValue char < 16

/-- Reads an amount, whose first digits give its base. -/
def readAmount (text : Octets) : Nat × Octets :=
    match text with
    | '0' :: 'x' :: rest =>
      if (rest.head?.map isHexDigit).getD false then readDigits 16 rest else (0, text.drop 1)
    | '0' :: 'X' :: rest =>
      if (rest.head?.map isHexDigit).getD false then readDigits 16 rest else (0, text.drop 1)
    | '0' :: _ => readDigits 8 text
    | _ => readDigits 10 text

/-- Reads a number. -/
def readNumber (text : Octets) : Int × Octets :=
  let (value, rest) := readAmount text
  (clamp value, rest)

/-- A text without the white space at its beginning. -/
def skipSpace (text : Octets) : Octets :=
  text.dropWhile fun char => char = ' ' || char = '\t' || char = '\n'

/-- The operators of each level, the loosest level first, and within a level the longest first. -/
def levels : List (List (String × Operator)) :=
  [[("|", .bitOr)], [("^", .bitXor)], [("&", .bitAnd)], [("==", .equal), ("!=", .unequal)],
    [("<=", .lessEqual), (">=", .greaterEqual), ("<", .less), (">", .greater)],
    [("<<", .shiftLeft), (">>", .shiftRight)], [("+", .add), ("-", .subtract)],
    [("*", .multiply), ("/", .divide), ("%", .remainder)]]

/-- The signs of assignments, the longest first. -/
def assignments : List (String × Option Operator) :=
  [("<<=", some .shiftLeft), (">>=", some .shiftRight), ("*=", some .multiply),
    ("/=", some .divide), ("%=", some .remainder), ("+=", some .add), ("-=", some .subtract),
    ("&=", some .bitAnd), ("^=", some .bitXor), ("|=", some .bitOr), ("=", none)]

/-- The signs that begin like an operator but are none of its level. -/
def longerSigns : List String :=
  ["<<=", ">>=", "<<", ">>", "<=", ">=", "==", "!=", "&&", "||", "*=", "/=", "%=", "+=", "-=", "&=",
    "^=", "|="]

/-- The longest sign at the beginning of a text. -/
def signAt (text : Octets) : Octets :=
  match longerSigns.find? fun sign => sign.toList.isPrefixOf text with
  | some sign => sign.toList
  | none => text.take 1

/-- The value of the sign at the beginning of a text in a table, and what follows it. -/
def lookupSign {Meaning : Type} (table : List (String × Meaning)) (text : Octets) :
    Option (Meaning × Octets) :=
  let sign := signAt text
  match table.find? fun entry => entry.1.toList = sign with
  | some entry => if sign.isEmpty then none else some (entry.2, text.drop sign.length)
  | none => none

mutual

/-- Reads a whole expression. -/
def readWhole : Nat → Octets → Expression × Octets
  | 0, _ => (.faulty .expectingPrimary, [])
  | fuel + 1, text =>
    let text := skipSpace text
    let name := if (text.head?.map startsName).getD false then text.takeWhile inName else []
    let target := if name.isEmpty then none
      else lookupSign assignments (skipSpace (text.drop name.length))
    match target with
    | some (operator?, rest) =>
      let (value, rest) := readWhole fuel rest
      (.assign name operator? value, rest)
    | none => readChoice fuel text

/-- Reads a condition and what depends on it. -/
def readChoice : Nat → Octets → Expression × Octets
  | 0, _ => (.faulty .expectingPrimary, [])
  | fuel + 1, text =>
    let (condition, rest) := readEither fuel text
    match skipSpace rest with
    | '?' :: rest =>
      let (consequence, rest) := readWhole fuel rest
      match skipSpace rest with
      | ':' :: rest =>
        let (alternative, rest) := readChoice fuel rest
        (.choose condition consequence alternative, rest)
      | _ => (.choose condition consequence (.faulty .expectingColon), [])
    | rest => (condition, rest)

/-- Reads operands between bars. -/
def readEither : Nat → Octets → Expression × Octets
  | 0, _ => (.faulty .expectingPrimary, [])
  | fuel + 1, text =>
    let (left, rest) := readBoth fuel text
    match skipSpace rest with
    | '|' :: '|' :: rest =>
      let (right, rest) := readEither fuel rest
      (.either left right, rest)
    | rest => (left, rest)

/-- Reads operands between ampersands. -/
def readBoth : Nat → Octets → Expression × Octets
  | 0, _ => (.faulty .expectingPrimary, [])
  | fuel + 1, text =>
    let (left, rest) := readLevel fuel levels text
    match skipSpace rest with
    | '&' :: '&' :: rest =>
      let (right, rest) := readBoth fuel rest
      (.both left right, rest)
    | rest => (left, rest)

/-- Reads operands between the operators of the first of some levels. -/
def readLevel : Nat → List (List (String × Operator)) → Octets → Expression × Octets
  | 0, _, _ => (.faulty .expectingPrimary, [])
  | fuel + 1, [], text => readOperand fuel text
  | fuel + 1, level :: tighter, text =>
    let (left, rest) := readLevel fuel tighter text
    readMore fuel level tighter left rest

/-- Reads the operators and operands that follow an operand on a level. -/
def readMore : Nat → List (String × Operator) → List (List (String × Operator)) → Expression →
    Octets → Expression × Octets
  | 0, _, _, _, _ => (.faulty .expectingPrimary, [])
  | fuel + 1, level, tighter, left, text =>
    let text := skipSpace text
    match lookupSign level text with
    | none => (left, text)
    | some (operator, rest) =>
      let (right, rest) := readLevel fuel tighter rest
      readMore fuel level tighter (.binary operator left right) rest

/-- Reads an operand. -/
def readOperand : Nat → Octets → Expression × Octets
  | 0, _ => (.faulty .expectingPrimary, [])
  | fuel + 1, text =>
    match skipSpace text with
    | '(' :: rest =>
      let (inside, rest) := readWhole fuel rest
      match skipSpace rest with
      | ')' :: rest => (inside, rest)
      | _ => (.cutOff inside .expectingParenthesis, [])
    | '-' :: rest =>
      let (operand, rest) := readOperand fuel rest
      (.negate operand, rest)
    | '+' :: rest => readOperand fuel rest
    | '~' :: rest =>
      let (operand, rest) := readOperand fuel rest
      (.complement operand, rest)
    | '!' :: rest =>
      let (operand, rest) := readOperand fuel rest
      (.refuse operand, rest)
    | char :: rest =>
      if char.isDigit then
        let (value, rest) := readNumber (char :: rest)
        (.number value, rest)
      else if startsName char then
        let name := (char :: rest).takeWhile inName
        (.variable name, (char :: rest).drop name.length)
      else (.faulty .expectingPrimary, [])
    | [] => (.faulty .expectingPrimary, [])

end

/-- Reads a text as one expression. -/
def read (text : Octets) : Expression :=
  let (expression, rest) := readWhole (24 * text.length + 64) text
  if (skipSpace rest).isEmpty then expression else .cutOff expression .expectingEnd

/-! ## Evaluating -/

/-- One for what is true and zero for what is not. -/
def truth (holds : Bool) : Int :=
  if holds then 1 else 0

/-- The bits of a number as a natural number. -/
def bits (value : Int) : Nat :=
  (value % Int.pow 2 64).toNat

/-- What an operator makes of two numbers. -/
def apply (operator : Operator) (left right : Int) : Except ArithmeticFault Int :=
  match operator with
  | .multiply => .ok (wrap (left * right))
  | .divide =>
    if right = 0 then .error .divisionByZero
    else if right = -1 && left = -Int.pow 2 63 then .error .tooLarge
    else .ok (left.tdiv right)
  | .remainder =>
    if right = 0 then .error .divisionByZero
    else if right = -1 && left = -Int.pow 2 63 then .error .tooLarge
    else .ok (left.tmod right)
  | .add => .ok (wrap (left + right))
  | .subtract => .ok (wrap (left - right))
  | .shiftLeft => .ok (wrap (left * Int.pow 2 (bits right % 64)))
  | .shiftRight => .ok (left / Int.pow 2 (bits right % 64))
  | .less => .ok (truth (left < right))
  | .lessEqual => .ok (truth (left ≤ right))
  | .greater => .ok (truth (left > right))
  | .greaterEqual => .ok (truth (left ≥ right))
  | .equal => .ok (truth (left = right))
  | .unequal => .ok (truth (left ≠ right))
  | .bitAnd => .ok (wrap (Nat.land (bits left) (bits right)))
  | .bitXor => .ok (wrap (Nat.xor (bits left) (bits right)))
  | .bitOr => .ok (wrap (Nat.lor (bits left) (bits right)))

/-- The value of a variable: the last one assigned, or the one it had before. -/
def valueOf (before : Octets → Except ArithmeticFault Int) (assigned : List (Octets × Int))
    (name : Octets) : Except ArithmeticFault Int :=
  match assigned.find? fun entry => entry.1 = name with
  | some entry => .ok entry.2
  | none => before name

/-- Passes over an expression that is not evaluated but has to be readable. -/
def skip : Expression → Except ArithmeticFault Unit
  | number _ => .ok ()
  | .variable _ => .ok ()
  | negate operand => skip operand
  | complement operand => skip operand
  | refuse operand => skip operand
  | binary _ left right => do
    skip left
    skip right
  | both left right => do
    skip left
    skip right
  | either left right => do
    skip left
    skip right
  | choose condition consequence alternative => do
    skip condition
    skip consequence
    skip alternative
  | assign _ _ value => skip value
  | faulty fault => .error fault
  | cutOff before fault => do
    skip before
    .error fault

/-- The value of an expression, with the variables that it assigned, the last first. -/
def evaluate (before : Octets → Except ArithmeticFault Int) :
    Expression → List (Octets × Int) → Except ArithmeticFault (Int × List (Octets × Int))
  | number value, assigned => .ok (value, assigned)
  | .variable name, assigned => do .ok (← valueOf before assigned name, assigned)
  | negate operand, assigned => do
    let (value, assigned) ← evaluate before operand assigned
    .ok (wrap (-value), assigned)
  | complement operand, assigned => do
    let (value, assigned) ← evaluate before operand assigned
    .ok (-value - 1, assigned)
  | refuse operand, assigned => do
    let (value, assigned) ← evaluate before operand assigned
    .ok (truth (value = 0), assigned)
  | binary operator left right, assigned => do
    let (leftValue, assigned) ← evaluate before left assigned
    let (rightValue, assigned) ← evaluate before right assigned
    .ok (← apply operator leftValue rightValue, assigned)
  | both left right, assigned => do
    let (leftValue, assigned) ← evaluate before left assigned
    if leftValue = 0 then
      skip right
      .ok (0, assigned)
    else
      let (rightValue, assigned) ← evaluate before right assigned
      .ok (truth (rightValue ≠ 0), assigned)
  | either left right, assigned => do
    let (leftValue, assigned) ← evaluate before left assigned
    if leftValue ≠ 0 then
      skip right
      .ok (1, assigned)
    else
      let (rightValue, assigned) ← evaluate before right assigned
      .ok (truth (rightValue ≠ 0), assigned)
  | choose condition consequence alternative, assigned => do
    let (value, assigned) ← evaluate before condition assigned
    if value ≠ 0 then
      let (value, assigned) ← evaluate before consequence assigned
      skip alternative
      .ok (value, assigned)
    else
      skip consequence
      evaluate before alternative assigned
  | assign name operator? value, assigned => do
    let (value, assigned) ← evaluate before value assigned
    match operator? with
    | none => .ok (value, (name, value) :: assigned)
    | some operator =>
      let result ← apply operator (← valueOf before assigned name) value
      .ok (result, (name, result) :: assigned)
  | faulty fault, _ => .error fault
  | cutOff start fault, assigned => do
    let _ ← evaluate before start assigned
    .error fault

/-- The text of a fault in an expression that was written so. -/
def faultText (expression : Octets) (fault : ArithmeticFault) : Octets :=
  let quoted := '"' :: expression ++ ['"']
  let about (text : String) := ("arithmetic expression: " ++ text ++ ": ").toList ++ quoted
  match fault with
  | .expectingPrimary => about "expecting primary"
  | .expectingEnd => about "expecting EOF"
  | .expectingParenthesis => about "expecting ')'"
  | .expectingColon => about "expecting ':'"
  | .divisionByZero => about "division by zero"
  | .tooLarge => []
  | .illegalNumber text => "Illegal number: ".toList ++ text

end Expression

end FixtureHarness.Shell
