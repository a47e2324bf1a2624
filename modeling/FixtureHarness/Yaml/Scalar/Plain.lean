import FixtureHarness.Yaml.Scalar.Gap
import FixtureHarness.Yaml.Token

/-! # Plain scalars

A scalar without quotes goes on over blanks and lines until a character that has a meaning of its
own there, a comment, or in block style a line that is not indented.
-/

namespace FixtureHarness.Yaml.Plain

/-- Whether a character has a meaning of its own inside flow collections. -/
def isFlowMark (char : Char) : Bool :=
  char = ',' || char = '[' || char = ']' || char = '\x7b' || char = '\x7d'

/-- Whether a colon before this character is refused inside flow collections. -/
def refusesColon (char : Char) : Bool :=
  isFlowMark char || char = '?'

/-- The word at the beginning of a text. -/
def word (inFlow : Bool) : List Char → List Char
  | [] => []
  | char :: rest =>
    if isSpace char then []
    else if char = ':' && nextOrEnd isSpace rest.head? then []
    else if inFlow && (isFlowMark char || char = ':' && next refusesColon rest.head?) then []
    else char :: word inFlow rest

/-- What is being read. -/
def activity : String := "while scanning a plain scalar"

/-- A plain scalar: its text, the mark behind it, and whether a line ending follows it. -/
structure Scalar where
  text : List Char
  stop : Mark
  endsLine : Bool

/-- Reads the words of a scalar from a gap on; the fuel bounds their number. -/
def readWords (inFlow : Bool) (indent : Int) (start : Mark) :
    Nat → Scalar → Gap → Scanner Scalar
  | 0, scalar, _, cursor => .ok (scalar, cursor)
  | fuel + 1, scalar, gap, cursor =>
    let finish : Except SyntaxError (Scalar × Cursor) :=
      .ok ({ scalar with endsLine := gap.broken }, cursor)
    if cursor.atDocumentMark || cursor.head? = some '#' then finish
    else
      let run := word inFlow cursor.rest
      let behind := cursor.skip run.length
      if inFlow && behind.head? = some ':' && next refusesColon (behind.ahead? 1) then
        behind.failIn activity start "found unexpected ':'"
      else if run.isEmpty then finish
      else do
        let scalar : Scalar := ⟨scalar.text ++ gap.text ++ run, behind.mark, false⟩
        let refusesTab (gap : Gap) (cursor : Cursor) : Option SyntaxError :=
          if gap.broken && (cursor.mark.column : Int) < indent && cursor.head? = some '\t' then
            some ⟨"found a tab character that violates indentation", cursor.mark,
              some ⟨activity, start⟩, 0⟩
          else none
        let (gap, after) ← Gap.read refusesTab (behind.rest.length + 1) .none behind
        if after.mark.index = behind.mark.index then .ok (scalar, after)
        else if !inFlow && (after.mark.column : Int) < indent then
          .ok ({ scalar with endsLine := gap.broken }, after)
        else readWords inFlow indent start fuel scalar gap after

/-- Reads a plain scalar whose further lines have to be indented. -/
def read (inFlow : Bool) (indent : Int) : Scanner Scalar := fun cursor =>
  readWords inFlow indent cursor.mark (cursor.rest.length + 1) ⟨[], cursor.mark, false⟩ .none cursor

end FixtureHarness.Yaml.Plain
