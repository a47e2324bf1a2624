import FixtureHarness.Log.Pattern.Fault

/-! # Trees of patterns

A pattern as it is written, each part with its span. What the parts mean depends on flags that can
be set anywhere, so it is decided on the tree in the order of writing.
-/

namespace FixtureHarness.Log.Pattern

/-- A flag that changes what the rest of a group means. -/
inductive Flag where
  | ignoreCase
  | multiLine
  | dotMatchesLineFeed
  | swapGreed
  | unicode
  | carriageReturns
  | ignoreSpace
  deriving DecidableEq, Repr

/-- A flag by its letter. -/
def Flag.ofLetter? : Char → Option Flag
  | 'i' => some ignoreCase
  | 'm' => some multiLine
  | 's' => some dotMatchesLineFeed
  | 'U' => some swapGreed
  | 'u' => some unicode
  | 'R' => some carriageReturns
  | 'x' => some ignoreSpace
  | _ => none

/-- An item in a list of flags: a flag, or the sign behind which flags are taken away. -/
inductive FlagItem where
  | negation
  | flag (flag : Flag)
  deriving DecidableEq, Repr

/-- What a list of flags says about each flag that it names. -/
def flagStates : Bool → List FlagItem → List (Flag × Bool)
  | _, [] => []
  | _, .negation :: rest => flagStates false rest
  | enabled, .flag flag :: rest => (flag, enabled) :: flagStates enabled rest

/-- A single character. -/
structure Literal where
  span : Span
  char : Char
  /-- Whether it is written as a byte. -/
  isByte : Bool
  deriving DecidableEq, Repr

/-- A class that a letter behind a backslash names. -/
inductive PerlClass where
  | digit
  | space
  | word
  deriving DecidableEq, Repr

/-- A property of Unicode as it is named. -/
inductive PropertyQuery where
  | letter (letter : Char)
  | named (name : List Char)
  | valued (name value : List Char)
  deriving DecidableEq, Repr

/-- An operation on two classes. -/
inductive ClassOperator where
  | intersection
  | difference
  | symmetricDifference
  deriving DecidableEq, Repr

/-- What stands in brackets. -/
inductive ClassTree where
  | empty (span : Span)
  | literal (literal : Literal)
  | range (span : Span) (low high : Literal)
  | ascii (span : Span) (ranges : List (Char × Char)) (negated : Bool)
  | property (span : Span) (query : PropertyQuery) (negated : Bool)
  | perl (span : Span) (kind : PerlClass) (negated : Bool)
  | bracketed (span : Span) (negated : Bool) (inside : ClassTree)
  | union (span : Span) (items : List ClassTree)
  | combined (span : Span) (operator : ClassOperator) (left right : ClassTree)
  deriving Repr

/-- The part of a pattern that a class was written as. -/
def ClassTree.span : ClassTree → Span
  | empty span => span
  | literal char => char.span
  | range span .. => span
  | ascii span .. => span
  | property span .. => span
  | perl span .. => span
  | bracketed span .. => span
  | union span _ => span
  | combined span .. => span

/-- A condition on a place. -/
inductive Assertion where
  | lineStart
  | lineEnd
  | textStart
  | textEnd
  | wordEdge
  | noWordEdge
  | wordStart
  | wordEnd
  | noWordBefore
  | noWordBehind
  deriving DecidableEq, Repr

/-- A pattern. -/
inductive Tree where
  | empty
  | flags (items : List FlagItem)
  | literal (literal : Literal)
  | dot (span : Span)
  | assertion (span : Span) (condition : Assertion)
  | property (span : Span) (query : PropertyQuery) (negated : Bool)
  | perl (span : Span) (kind : PerlClass) (negated : Bool)
  | bracketed (span : Span) (negated : Bool) (inside : ClassTree)
  | repetition (span : Span) (least : Nat) (most? : Option Nat) (body : Tree)
  /-- A group, with the flags that hold inside of it. -/
  | group (span : Span) (items : List FlagItem) (body : Tree)
  | alternation (span : Span) (branches : List Tree)
  | concatenation (span : Span) (parts : List Tree)
  deriving Repr

namespace Tree

/-- The part of a pattern that a tree was written as, for all trees that can be repeated. -/
def span? : Tree → Option Span
  | empty => none
  | flags _ => none
  | literal char => some char.span
  | dot span => some span
  | assertion span _ => some span
  | property span .. => some span
  | perl span .. => some span
  | bracketed span .. => some span
  | repetition span .. => some span
  | group span .. => some span
  | alternation span _ => some span
  | concatenation span _ => some span

end Tree

/-! ## Depth -/

mutual

/-- The first part of a class, in the order of writing, that lies too deep. -/
def ClassTree.tooDeep? (depth : Nat) : ClassTree → Option Span
  | .bracketed span _ inside =>
    if maxDepth ≤ depth then some span else inside.tooDeep? (depth + 1)
  | .union span items =>
    if maxDepth ≤ depth then some span else ClassTree.anyTooDeep? (depth + 1) items
  | .combined span _ left right =>
    if maxDepth ≤ depth then some span
    else (left.tooDeep? (depth + 1)).or (right.tooDeep? (depth + 1))
  | _ => none

/-- The first part of some classes that lies too deep. -/
def ClassTree.anyTooDeep? (depth : Nat) : List ClassTree → Option Span
  | [] => none
  | tree :: rest => (tree.tooDeep? depth).or (ClassTree.anyTooDeep? depth rest)

end

mutual

/-- The first part of a pattern, in the order of writing, that lies too deep. -/
def Tree.tooDeep? (depth : Nat) : Tree → Option Span
  | .bracketed span _ inside =>
    if maxDepth ≤ depth then some span else inside.tooDeep? (depth + 1)
  | .repetition span _ _ body =>
    if maxDepth ≤ depth then some span else body.tooDeep? (depth + 1)
  | .group span _ body => if maxDepth ≤ depth then some span else body.tooDeep? (depth + 1)
  | .alternation span branches =>
    if maxDepth ≤ depth then some span else Tree.anyTooDeep? (depth + 1) branches
  | .concatenation span parts =>
    if maxDepth ≤ depth then some span else Tree.anyTooDeep? (depth + 1) parts
  | _ => none

/-- The first part of some patterns that lies too deep. -/
def Tree.anyTooDeep? (depth : Nat) : List Tree → Option Span
  | [] => none
  | tree :: rest => (tree.tooDeep? depth).or (Tree.anyTooDeep? depth rest)

end

end FixtureHarness.Log.Pattern
