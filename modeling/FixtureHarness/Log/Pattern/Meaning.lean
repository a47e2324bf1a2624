import FixtureHarness.Log.Pattern.Reader
import FixtureHarness.Text.CodeRanges
import FixtureHarness.Text.Regex.Basic

/-! # What patterns mean

A pattern stands for a regular expression. Flags hold from where they are set to the end of the
group. Without the flag `unicode`, classes hold bytes, and none of them may stand for a byte that is
no character; with it, everything that needs a table of Unicode is refused.
-/

namespace FixtureHarness.Log.Pattern

open FixtureHarness.Text (CodeRanges)

/-- The flags that are set. -/
abbrev Flags := List Flag

/-- The flags that hold at the beginning of a pattern. -/
def startFlags : Flags := [.unicode]

/-- Sets and takes away flags; of a flag that is named twice the first counts. -/
def applyFlags (flags : Flags) (items : List FlagItem) : Flags :=
  (flagStates true items).foldr
    (fun (flag, enabled) flags =>
      if enabled then flag :: flags.erase flag else flags.filter (· ≠ flag))
    flags

/-! ## Classes -/

/-- The greatest code point of a class. -/
def lastCode (flags : Flags) : Nat :=
  if flags.contains .unicode then 0x10FFFF else 0xFF

/-- The ranges of a class that a letter names, in ASCII. -/
def PerlClass.ranges : PerlClass → CodeRanges
  | digit => [(0x30, 0x39)]
  | space => [(0x09, 0x0D), (0x20, 0x20)]
  | word => [(0x30, 0x39), (0x41, 0x5A), (0x5F, 0x5F), (0x61, 0x7A)]

/-- The class of bytes, unless it has bytes that are no characters. -/
def checkBytes (span : Span) (set : CodeRanges) : Except Fault CodeRanges :=
  if CodeRanges.isAscii set then .ok set else fail .invalidUtf8 span

/-- A class with all cases of its letters, if the flags ask for them. -/
def foldCase (flags : Flags) (span : Span) (set : CodeRanges) : Except Fault CodeRanges :=
  if !flags.contains .ignoreCase then .ok set
  else if !flags.contains .unicode then .ok (CodeRanges.withBothCases set)
  else if set.isEmpty || set = [(0, lastCode flags)] then .ok set
  else fail .unicodeCaseUnavailable span

/-- A class with all cases of its letters, or its complement. -/
def foldAndNegate (flags : Flags) (span : Span) (negated : Bool) (set : CodeRanges) :
    Except Fault CodeRanges := do
  let folded ← foldCase flags span set
  let result := if negated then CodeRanges.complement (lastCode flags) folded else folded
  if flags.contains .unicode then .ok result else checkBytes span result

/-- The code point of a character in brackets. -/
def literalCode (flags : Flags) (literal : Literal) : Except Fault Nat :=
  if flags.contains .unicode || literal.char.toNat < 0x80 then .ok literal.char.toNat
  else if literal.isByte then fail .invalidUtf8 literal.span
  else fail .unicodeNotAllowed literal.span

/-- Whether a text begins with `is`, in any case of letters. -/
def startsWithIs (name : List Char) : Bool :=
  (name.take 2).map Char.toLower = ['i', 's']

/-- The name of a property without what does not count in it. -/
def normalizedName (name : List Char) : List Char :=
  let body := if startsWithIs name then name.drop 2 else name
  let counted := body.filter fun char =>
    char.toNat < 0x80 && char ≠ ' ' && char ≠ '_' && char ≠ '-'
  counted.map Char.toLower

/-- What is wrong with asking for a property: there are no tables. Three names are looked up among
the values of the general category only. -/
def propertyCause : PropertyQuery → Cause
  | .named name =>
    if ["cf", "sc", "lc"].contains (String.ofList (normalizedName name)) then
      .unicodePropertyValueNotFound
    else .unicodePropertyNotFound
  | _ => .unicodePropertyNotFound

/-- The refusal of a property. -/
def refuseProperty {Result : Type} (flags : Flags) (span : Span) (query : PropertyQuery) :
    Except Fault Result :=
  if flags.contains .unicode then fail (propertyCause query) span
  else fail .unicodeNotAllowed span

/-- The class that a letter names. -/
def perlRanges (flags : Flags) (span : Span) (kind : PerlClass) (negated : Bool) :
    Except Fault CodeRanges :=
  if flags.contains .unicode then fail .unicodePerlClassNotFound span
  else
    checkBytes span
      (if negated then CodeRanges.complement (lastCode flags) kind.ranges else kind.ranges)

/-- Combines two classes. -/
def ClassOperator.apply (last : Nat) (left right : CodeRanges) : ClassOperator → CodeRanges
  | intersection => CodeRanges.intersection last left right
  | difference => CodeRanges.difference last left right
  | symmetricDifference => CodeRanges.symmetricDifference last left right

mutual

/-- The code points of a class. -/
def ClassTree.ranges (flags : Flags) : ClassTree → Except Fault CodeRanges
  | .empty _ => .ok []
  | .literal char => do
    let code ← literalCode flags char
    .ok [(code, code)]
  | .range _ low high => do
    let lowCode ← literalCode flags low
    let highCode ← literalCode flags high
    .ok [(lowCode, highCode)]
  | .ascii span ranges negated =>
    let codes := ranges.map fun range => (range.1.toNat, range.2.toNat)
    foldAndNegate flags span negated (CodeRanges.ofList codes)
  | .property span query _ => refuseProperty flags span query
  | .perl span kind negated => perlRanges flags span kind negated
  | .bracketed span negated inside => do
    let set ← inside.ranges flags
    foldAndNegate flags span negated set
  | .union _ items => ClassTree.allRanges flags items
  | .combined _ operator left right => do
    let leftSet ← left.ranges flags
    let rightSet ← right.ranges flags
    let rightSet ← foldCase flags right.span rightSet
    let leftSet ← foldCase flags left.span leftSet
    .ok (operator.apply (lastCode flags) leftSet rightSet)

/-- The code points of some classes together. -/
def ClassTree.allRanges (flags : Flags) : List ClassTree → Except Fault CodeRanges
  | [] => .ok []
  | tree :: rest => do
    let set ← tree.ranges flags
    let more ← ClassTree.allRanges flags rest
    .ok (CodeRanges.union set more)

end

/-! ## Meanings -/

/-- What a pattern means, with what decides whether it can be used. -/
structure Meaning where
  expression : Regex
  /-- About how many bytes a machine for the expression takes. -/
  weight : Nat
  /-- Whether it matches nothing but the empty text. -/
  isWidthless : Bool
  /-- Whether it asks which characters of Unicode belong to words. -/
  needsWords : Bool

namespace Meaning

/-- The number of bytes of a state. -/
def stateWeight : Nat := 32

/-- The meaning of an empty pattern. -/
def nothing : Meaning := ⟨.nothing, stateWeight, true, false⟩

/-- The least character of a range of code points. -/
def lowChar (code : Nat) : Char :=
  if code.isValidChar then Char.ofNat code else '\uE000'

/-- The greatest character of a range of code points. -/
def highChar (code : Nat) : Char :=
  if code.isValidChar then Char.ofNat code else '\uD7FF'

/-- About how many bytes the states for a class take. -/
def setWeight (set : CodeRanges) : Nat :=
  if CodeRanges.isAscii set then 2 * stateWeight + 8 * set.length
  else 13 * stateWeight + 3 * stateWeight * (set.length - 2)

/-- The meaning of a class. -/
def ofRanges (set : CodeRanges) : Meaning :=
  let chars := set.map fun range => (lowChar range.1, highChar range.2)
  ⟨.one ⟨chars, false⟩, setWeight set, false, false⟩

/-- The meaning of a character. -/
def ofChar (char : Char) : Meaning :=
  ⟨.one (.single char), stateWeight * char.utf8Size, false, false⟩

/-- The meaning of a condition on a place. -/
def ofEdge (edge : Edge) (needsWords : Bool) : Meaning :=
  ⟨.edge edge, stateWeight, true, needsWords⟩

/-- The meaning of one pattern behind another. -/
def sequence (first second : Meaning) : Meaning where
  expression := .sequence first.expression second.expression
  weight := first.weight + second.weight
  isWidthless := first.isWidthless && second.isWidthless
  needsWords := first.needsWords || second.needsWords

/-- The meaning of two patterns as alternatives. -/
def either (first second : Meaning) : Meaning where
  expression := .either first.expression second.expression
  weight := first.weight + second.weight + stateWeight
  isWidthless := first.isWidthless && second.isWidthless
  needsWords := first.needsWords || second.needsWords

/-- The meaning of a repeated pattern. What matches only the empty text is repeated at most once. -/
def repeated (body : Meaning) (least : Nat) (most? : Option Nat) : Meaning :=
  let least := if body.isWidthless then min least 1 else least
  let most? := if body.isWidthless then some (min (most?.getD 1) 1) else most?
  if most? = some 0 then nothing
  else
    let step := body.weight + 2 * stateWeight
    let more := (most?.map fun most => (most - least) * step).getD step
    ⟨.many body.expression least most? true, least * body.weight + more, body.isWidthless,
      body.needsWords⟩

/-- The meaning of a point. -/
def ofDot (flags : Flags) (span : Span) : Except Fault Meaning :=
  if !flags.contains .unicode then fail .invalidUtf8 span
  else
    let excluded : CodeRanges :=
      if flags.contains .dotMatchesLineFeed then []
      else if flags.contains .carriageReturns then [(0x0A, 0x0A), (0x0D, 0x0D)]
      else [(0x0A, 0x0A)]
    .ok (ofRanges (CodeRanges.complement (lastCode flags) excluded))

/-- The meaning of a condition. -/
def ofAssertion (flags : Flags) (assertion : Assertion) : Meaning :=
  let word (edge : Edge) := ofEdge edge (flags.contains .unicode)
  let line (text line lineOrReturn : Edge) :=
    ofEdge (if !flags.contains .multiLine then text
      else if flags.contains .carriageReturns then lineOrReturn
      else line) false
  match assertion with
  | .lineStart => line .textStart .lineStart .lineStartOrReturn
  | .lineEnd => line .textEnd .lineEnd .lineEndOrReturn
  | .textStart => ofEdge .textStart false
  | .textEnd => ofEdge .textEnd false
  | .wordEdge => word .wordEdge
  | .noWordEdge => word .noWordEdge
  | .wordStart => word .wordStart
  | .wordEnd => word .wordEnd
  | .noWordBefore => word .noWordBefore
  | .noWordBehind => word .noWordBehind

/-- The meaning of a single character. -/
def ofLiteral (flags : Flags) (literal : Literal) : Except Fault Meaning :=
  let code := literal.char.toNat
  if flags.contains .unicode then
    if flags.contains .ignoreCase then fail .unicodeCaseUnavailable literal.span
    else .ok (ofChar literal.char)
  else if literal.isByte && 0x80 ≤ code then fail .invalidUtf8 literal.span
  else if flags.contains .ignoreCase && literal.char.isAlpha then
    .ok (ofRanges (CodeRanges.withBothCases [(code, code)]))
  else .ok (ofChar literal.char)

end Meaning

mutual

/-- The meaning of a pattern under some flags, with the flags that hold behind it. -/
def Tree.meaning (flags : Flags) : Tree → Except Fault (Meaning × Flags)
  | .empty => .ok (.nothing, flags)
  | .flags items => .ok (.nothing, applyFlags flags items)
  | .literal char => do
    let meaning ← Meaning.ofLiteral flags char
    .ok (meaning, flags)
  | .dot span => do
    let meaning ← Meaning.ofDot flags span
    .ok (meaning, flags)
  | .assertion _ condition => .ok (Meaning.ofAssertion flags condition, flags)
  | .property span query _ => refuseProperty flags span query
  | .perl span kind negated => do
    let set ← perlRanges flags span kind negated
    .ok (.ofRanges set, flags)
  | .bracketed span negated inside => do
    let set ← inside.ranges flags
    let set ← foldAndNegate flags span negated set
    .ok (.ofRanges set, flags)
  | .repetition _ least most? body => do
    let (meaning, flags) ← body.meaning flags
    .ok (meaning.repeated least most?, flags)
  | .group _ items body => do
    let (meaning, _) ← body.meaning (applyFlags flags items)
    .ok ({ meaning with weight := meaning.weight + 2 * Meaning.stateWeight }, flags)
  | .alternation _ branches => Tree.anyMeaning flags branches
  | .concatenation _ parts => Tree.chainMeaning flags parts

/-- The meaning of some patterns as alternatives. -/
def Tree.anyMeaning (flags : Flags) : List Tree → Except Fault (Meaning × Flags)
  | [] => .ok (.nothing, flags)
  | [tree] => tree.meaning flags
  | tree :: rest => do
    let (first, flags) ← tree.meaning flags
    let (second, flags) ← Tree.anyMeaning flags rest
    .ok (first.either second, flags)

/-- The meaning of some patterns one behind the other. -/
def Tree.chainMeaning (flags : Flags) : List Tree → Except Fault (Meaning × Flags)
  | [] => .ok (.nothing, flags)
  | [tree] => tree.meaning flags
  | tree :: rest => do
    let (first, flags) ← tree.meaning flags
    let (second, flags) ← Tree.chainMeaning flags rest
    .ok (first.sequence second, flags)

end

/-! ## Use -/

/-- The greatest number of bytes that a machine for a pattern may take. -/
def maxWeight : Nat := 10 * Nat.pow 2 20

/-- The expression that a pattern stands for, or the text of what keeps it from being used. -/
def compile (pattern : List Char) : Except String Regex :=
  match (Tree.ofText pattern).bind fun tree => tree.meaning startFlags with
  | .error fault => .error (fault.message pattern)
  | .ok (meaning, _) =>
    if maxWeight < meaning.weight then
      .error s!"Compiled regex exceeds size limit of {maxWeight} bytes."
    else if meaning.needsWords then .error "error building NFA"
    else .ok meaning.expression

end FixtureHarness.Log.Pattern
