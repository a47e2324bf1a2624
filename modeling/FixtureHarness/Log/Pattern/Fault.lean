import FixtureHarness.Text.Lines

/-! # Faults of patterns

A fault of a pattern has a cause and the part of the pattern that it lies in. Its message shows the
pattern with marks below that part.
-/

namespace FixtureHarness.Log.Pattern

/-! ## Parts of a pattern -/

/-- A place in a pattern: lines and columns are counted from one. -/
structure Place where
  line : Nat
  column : Nat
  deriving DecidableEq, Repr

/-- The place at the beginning of a pattern. -/
def Place.first : Place := ⟨1, 1⟩

/-- The place behind a character. -/
def Place.after (place : Place) (char : Char) : Place :=
  if char = '\n' then ⟨place.line + 1, 1⟩ else { place with column := place.column + 1 }

/-- A part of a pattern from a place up to another. -/
structure Span where
  start : Place
  stop : Place
  deriving DecidableEq, Repr

/-- Whether a part lies in one line. -/
def Span.isOneLine (span : Span) : Bool :=
  span.start.line = span.stop.line

/-! ## Causes -/

/-- What is wrong with a pattern. -/
inductive Cause where
  | classEscapeInvalid
  | classRangeInvalid
  | classRangeLiteral
  | classUnclosed
  | decimalInvalid
  | escapeHexEmpty
  | escapeHexInvalid
  | escapeHexInvalidDigit
  | escapeUnexpectedEnd
  | escapeUnrecognized
  | flagDanglingNegation
  | flagDuplicate
  | flagRepeatedNegation
  | flagUnexpectedEnd
  | flagUnrecognized
  | groupNameDuplicate
  | groupNameEmpty
  | groupNameInvalid
  | groupNameUnexpectedEnd
  | groupUnclosed
  | groupUnopened
  | nestingTooDeep
  | repetitionInvalid
  | repetitionDecimalEmpty
  | repetitionUnclosed
  | repetitionMissing
  | wordBoundaryUnclosed
  | wordBoundaryUnrecognized
  | wordBoundaryUnexpectedEnd
  | unicodeClassInvalid
  | backreference
  | lookAround
  | unicodeNotAllowed
  | invalidUtf8
  | unicodePropertyNotFound
  | unicodePropertyValueNotFound
  | unicodePerlClassNotFound
  | unicodeCaseUnavailable
  deriving DecidableEq, Repr

/-- The greatest depth of nested parentheses and brackets. -/
def maxDepth : Nat := 250

/-- The text of a cause. -/
def Cause.text : Cause → String
  | classEscapeInvalid => "invalid escape sequence found in character class"
  | classRangeInvalid => "invalid character class range, the start must be <= the end"
  | classRangeLiteral => "invalid range boundary, must be a literal"
  | classUnclosed => "unclosed character class"
  | decimalInvalid => "decimal literal invalid"
  | escapeHexEmpty => "hexadecimal literal empty"
  | escapeHexInvalid => "hexadecimal literal is not a Unicode scalar value"
  | escapeHexInvalidDigit => "invalid hexadecimal digit"
  | escapeUnexpectedEnd => "incomplete escape sequence, reached end of pattern prematurely"
  | escapeUnrecognized => "unrecognized escape sequence"
  | flagDanglingNegation => "dangling flag negation operator"
  | flagDuplicate => "duplicate flag"
  | flagRepeatedNegation => "flag negation operator repeated"
  | flagUnexpectedEnd => "expected flag but got end of regex"
  | flagUnrecognized => "unrecognized flag"
  | groupNameDuplicate => "duplicate capture group name"
  | groupNameEmpty => "empty capture group name"
  | groupNameInvalid => "invalid capture group character"
  | groupNameUnexpectedEnd => "unclosed capture group name"
  | groupUnclosed => "unclosed group"
  | groupUnopened => "unopened group"
  | nestingTooDeep =>
    s!"exceed the maximum number of nested parentheses/brackets ({maxDepth})"
  | repetitionInvalid => "invalid repetition count range, the start must be <= the end"
  | repetitionDecimalEmpty => "repetition quantifier expects a valid decimal"
  | repetitionUnclosed => "unclosed counted repetition"
  | repetitionMissing => "repetition operator missing expression"
  | wordBoundaryUnclosed =>
    "special word boundary assertion is either unclosed or contains an invalid character"
  | wordBoundaryUnrecognized =>
    "unrecognized special word boundary assertion, valid choices are: start, end, start-half " ++
      "or end-half"
  | wordBoundaryUnexpectedEnd =>
    "found either the beginning of a special word boundary or a bounded repetition on a \\b " ++
      "with an opening brace, but no closing brace"
  | unicodeClassInvalid => "invalid Unicode character class"
  | backreference => "backreferences are not supported"
  | lookAround => "look-around, including look-ahead and look-behind, is not supported"
  | unicodeNotAllowed => "Unicode not allowed here"
  | invalidUtf8 => "pattern can match invalid UTF-8"
  | unicodePropertyNotFound => "Unicode property not found"
  | unicodePropertyValueNotFound => "Unicode property value not found"
  | unicodePerlClassNotFound =>
    "Unicode-aware Perl class not found (make sure the unicode-perl feature is enabled)"
  | unicodeCaseUnavailable =>
    "Unicode-aware case insensitivity matching is not available (make sure the unicode-case " ++
      "feature is enabled)"

/-- A fault of a pattern. -/
structure Fault where
  cause : Cause
  span : Span
  /-- The part that the fault repeats. -/
  earlier? : Option Span
  deriving DecidableEq, Repr

namespace Fault

/-! ## Messages -/

/-- The parts that are marked, in order. -/
def spans (fault : Fault) : List Span :=
  match fault.earlier? with
  | none => [fault.span]
  | some earlier => [earlier, fault.span]

/-- The marks below a line for parts of it, behind the columns that are filled already. -/
def marks : Nat → List Span → List Char
  | _, [] => []
  | filled, span :: rest =>
    let blanks := span.start.column - 1 - filled
    let carets := max 1 (span.stop.column - span.start.column)
    List.replicate blanks ' ' ++ List.replicate carets '^' ++ marks (filled + blanks + carets) rest

/-- A line of a pattern behind its label, with the marks for the parts of it. -/
def markedLine (fault : Fault) (label : Nat → List Char) (number : Nat) (line : List Char) :
    List (List Char) :=
  let found := fault.spans.filter fun span => span.isOneLine && span.start.line = number
  let shown := label number ++ line
  if found.isEmpty then [shown]
  else [shown, List.replicate (label number).length ' ' ++ marks 0 found]

/-- The lines of a pattern, each with the marks for the parts of it. -/
def markedLines (fault : Fault) (label : Nat → List Char) : Nat → List (List Char) →
    List (List Char)
  | _, [] => []
  | number, line :: rest =>
    fault.markedLine label number line ++ fault.markedLines label (number + 1) rest

/-- The label of a line: blanks for a pattern of one line, or else the number of the line with the
width of the last number. -/
def lineLabel (lines : Nat) (number : Nat) : List Char :=
  if lines ≤ 1 then List.replicate 4 ' '
  else
    let width := (Nat.toDigits 10 lines).length
    let digits := Nat.toDigits 10 number
    List.replicate (width - digits.length) ' ' ++ digits ++ [':', ' ']

/-- The note about a part of several lines. -/
def spanNote (span : Span) : String :=
  s!"on line {span.start.line} (column {span.start.column}) through line {span.stop.line} " ++
    s!"(column {span.stop.column - 1})\n"

/-- The message of a fault in a pattern. -/
def message (pattern : List Char) (fault : Fault) : String :=
  let lines := Text.lines pattern
  let count := lines.length + if pattern.getLast? = some '\n' then 1 else 0
  let notated := Text.unlines
    ((fault.markedLines (lineLabel count) 1 lines).map String.ofList)
  let head := "regex parse error:\n"
  let tail := s!"error: {fault.cause.text}"
  if pattern.contains '\n' then
    let divider := String.ofList (List.replicate 79 '~') ++ "\n"
    let notes := (fault.spans.filter fun span => !span.isOneLine).map spanNote
    head ++ divider ++ notated ++ divider ++ String.join notes ++ tail
  else head ++ notated ++ tail

end Fault

end FixtureHarness.Log.Pattern
