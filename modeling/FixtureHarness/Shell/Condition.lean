import FixtureHarness.Shell.Program

/-! # Conditions

The language of `test`: conditions on texts, numbers and files, joined by words. Whether a word is an
operator depends on the words behind it. A condition is read and decided at the same time.
-/

namespace FixtureHarness.Shell

/-- What is wrong with a condition. -/
inductive ConditionFault where
  | unexpectedOperator (word : Octets)
  | argumentExpected (operator : String)
  | illegalNumber (word : Octets)
  | closingExpected
  deriving DecidableEq, Repr

/-- The text of a fault in a condition. -/
def ConditionFault.message : ConditionFault → Octets
  | unexpectedOperator [] => "unexpected operator".toList
  | unexpectedOperator word => word ++ ": unexpected operator".toList
  | argumentExpected operator => operator.toList ++ ": argument expected".toList
  | illegalNumber word => "Illegal number: ".toList ++ word
  | closingExpected => "closing paren expected".toList

namespace Condition

/-- What a word does in a condition. -/
inductive Role where
  | operand
  /-- Stands before one operand. -/
  | unary (operator : String)
  /-- Stands between two operands. -/
  | binary (operator : String)
  | negation
  | both
  | either
  | opening
  | closing
  /-- There is no word. -/
  | missing
  deriving DecidableEq, Repr

/-- The operators before one operand. -/
def unaryOperators : List String :=
  ["-b", "-c", "-d", "-e", "-f", "-g", "-h", "-k", "-L", "-n", "-O", "-G", "-p", "-r", "-S", "-s",
    "-t", "-u", "-w", "-x", "-z"]

/-- The operators between two operands. -/
def binaryOperators : List String :=
  ["=", "!=", "<", ">", "-eq", "-ne", "-ge", "-gt", "-le", "-lt", "-nt", "-ot", "-ef"]

/-- What a word could do, whatever stands behind it. -/
def possibleRole (word : Octets) : Role :=
  let text := String.ofList word
  if unaryOperators.contains text then .unary text
  else if binaryOperators.contains text then .binary text
  else
    match text with
    | "!" => .negation
    | "-a" => .both
    | "-o" => .either
    | "(" => .opening
    | ")" => .closing
    | _ => .operand

/-- Whether a word stands between two operands. -/
def isBinary (word : Octets) : Bool :=
  match possibleRole word with
  | .binary _ => true
  | _ => false

/-- What the first of some words does. -/
def roleOf : List Octets → Role
  | [] => .missing
  | word :: rest =>
    match possibleRole word with
    | .unary operator =>
      match rest with
      | [] => .operand
      | [_] => .unary operator
      | second :: _ => if isBinary second then .operand else .unary operator
    | .opening => if rest.isEmpty then .operand else .opening
    | role => role

/-- Reads a number in decimal digits. -/
def number (word : Octets) : Except ConditionFault Int :=
  let isSpace (char : Char) : Bool := char = ' ' || ('\t' ≤ char && char ≤ '\r')
  let text := ((word.dropWhile isSpace).reverse.dropWhile isSpace).reverse
  let (sign, digits) : Int × Octets :=
    match text with
    | '-' :: rest => (-1, rest)
    | '+' :: rest => (1, rest)
    | _ => (1, text)
  let amount := digits.foldl (fun value digit => value * 10 + (digit.toNat - '0'.toNat)) 0
  let value := sign * amount
  if digits.isEmpty || !digits.all Char.isDigit || value < -Int.pow 2 63 ||
      Int.pow 2 63 ≤ value then
    .error (.illegalNumber word)
  else .ok value

/-- What a condition can say about a file. -/
inductive FileKind where
  | directory
  | device
  | regular (isEmpty executable : Bool)
  deriving DecidableEq, Repr

/-- What lies at a path. -/
def fileKind? (files : FileTree) (path : Octets) : Option FileKind :=
  if path = Machine.nothingName then some .device
  else
    match systemPlace? path with
    | some .directory => some .directory
    | some (.program _) => some (.regular false true)
    | none =>
      (files.find? (pathOf path)).map fun
        | .directory => .directory
        | .file content executable => .regular content.isEmpty executable

/-- Decides a condition on one operand. -/
def decideUnary (files : FileTree) (operator : String) (operand : Octets) :
    Except ConditionFault Bool :=
  let kind? := fileKind? files operand
  match operator with
  | "-n" => .ok !operand.isEmpty
  | "-z" => .ok operand.isEmpty
  | "-t" => do
    let _ ← number operand
    .ok false
  | "-d" => .ok (kind? = some .directory)
  | "-c" => .ok (kind? = some .device)
  | "-e" | "-r" | "-w" | "-O" | "-G" => .ok kind?.isSome
  | "-f" => .ok (kind?.any fun kind => kind ≠ .directory && kind ≠ .device)
  | "-s" =>
    .ok (kind?.any fun
      | .directory => true
      | .device => false
      | .regular isEmpty _ => !isEmpty)
  | "-x" =>
    .ok (kind?.any fun
      | .directory => true
      | .device => false
      | .regular _ executable => executable)
  | _ => .ok false

/-- Decides a condition on two operands. -/
def decideBinary (files : FileTree) (operator : String) (left right : Octets) :
    Except ConditionFault Bool :=
  let compare (holds : Int → Int → Bool) : Except ConditionFault Bool := do
    let leftNumber ← number left
    let rightNumber ← number right
    .ok (holds leftNumber rightNumber)
  match operator with
  | "=" => .ok (left = right)
  | "!=" => .ok (left ≠ right)
  | "<" => .ok (decide (left < right))
  | ">" => .ok (decide (right < left))
  | "-eq" => compare fun left right => left = right
  | "-ne" => compare fun left right => left ≠ right
  | "-ge" => compare fun left right => left ≥ right
  | "-gt" => compare fun left right => left > right
  | "-le" => compare fun left right => left ≤ right
  | "-lt" => compare fun left right => left < right
  | "-ef" =>
    match files.locate (pathOf left), files.locate (pathOf right) with
    | .ok one, .ok other => .ok (one = other)
    | _, _ => .ok (left = right && (fileKind? files left).isSome)
  | _ => .ok false

/-- The words from the last word of a condition on. -/
abbrev Rest := List Octets

mutual

/-- Decides alternatives that begin with a word in a role. Gives the words from the last one on. -/
def alternatives (files : FileTree) : Nat → Role → Rest → Except ConditionFault (Bool × Rest)
  | 0, _, words => .ok (false, words)
  | fuel + 1, role, words => do
    let (first, last) ← joined files fuel role words
    if roleOf (last.drop 1) = .either then
      let behind := last.drop 2
      let (second, last) ← alternatives files fuel (roleOf behind) behind
      .ok (first || second, last)
    else .ok (first, last)

/-- Decides conditions that have to hold together. -/
def joined (files : FileTree) : Nat → Role → Rest → Except ConditionFault (Bool × Rest)
  | 0, _, words => .ok (false, words)
  | fuel + 1, role, words => do
    let (first, last) ← negated files fuel role words
    if roleOf (last.drop 1) = .both then
      let behind := last.drop 2
      let (second, last) ← joined files fuel (roleOf behind) behind
      .ok (first && second, last)
    else .ok (first, last)

/-- Decides a condition behind any number of negations. -/
def negated (files : FileTree) : Nat → Role → Rest → Except ConditionFault (Bool × Rest)
  | 0, _, words => .ok (false, words)
  | fuel + 1, role, words => do
    if role = .negation then
      let behind := words.drop 1
      let role := roleOf behind
      let (holds, last) ← negated files fuel role (if role = .missing then words else behind)
      .ok (!holds, last)
    else primary files fuel role words

/-- Decides a condition without connectives outside parentheses. -/
def primary (files : FileTree) : Nat → Role → Rest → Except ConditionFault (Bool × Rest)
  | 0, _, words => .ok (false, words)
  | fuel + 1, role, words => do
    match role with
    | .missing => .ok (false, words)
    | .opening =>
      let behind := words.drop 1
      let inner := roleOf behind
      if inner = .closing then .ok (false, behind)
      else
        let (holds, last) ← alternatives files fuel inner behind
        let last := last.drop 1
        if roleOf last = .closing then .ok (holds, last) else .error .closingExpected
    | .unary operator =>
      match words.drop 1 with
      | [] => .error (.argumentExpected operator)
      | operand :: rest =>
        let holds ← decideUnary files operator operand
        .ok (holds, operand :: rest)
    | _ =>
      match words with
      | [] => .ok (false, [])
      | left :: behind =>
        match roleOf behind with
        | .binary operator =>
          match behind.drop 1 with
          | [] => .error (.argumentExpected operator)
          | right :: rest =>
            let holds ← decideBinary files operator left right
            .ok (holds, right :: rest)
        | _ => .ok (!left.isEmpty, words)

end

/-- Decides words by the grammar, the first of which may be known to be an operand. -/
def decideFrom (files : FileTree) (role : Role) (words : List Octets) :
    Except ConditionFault Bool := do
  let (holds, last) ← alternatives files (4 * words.length + 8) role words
  match last with
  | word :: _ :: _ => .error (.unexpectedOperator word)
  | _ => .ok holds

/-- Decides a whole condition. Three words with an operator in the middle are always a comparison, and
parentheses or an exclamation mark around three or four words come first. The fuel bounds the number
of exclamation marks. -/
def holdsWithin (files : FileTree) : Nat → List Octets → Except ConditionFault Bool
  | 0, _ => .ok false
  | _, [] => .ok false
  | fuel + 1, words =>
    let count := words.length
    if count = 3 && (words[1]?).any isBinary then decideFrom files .operand words
    else if count = 3 || count = 4 then
      if words.head? = some ['('] && words.getLast? = some [')'] then
        let inside := (words.drop 1).dropLast
        decideFrom files (roleOf inside) inside
      else if words.head? = some ['!'] then do
        let holds ← holdsWithin files fuel (words.drop 1)
        .ok !holds
      else decideFrom files (roleOf words) words
    else decideFrom files (roleOf words) words

/-- Decides a whole condition. -/
def holds (files : FileTree) (words : List Octets) : Except ConditionFault Bool :=
  holdsWithin files (words.length + 1) words

end Condition

end FixtureHarness.Shell
