/-! # Positions and syntax errors

A mark is a position in a text: lines and columns count characters and the index counts bytes, all
from zero. A syntax error has a problem with
its mark and may have a context: what was being read, and where it began.
-/

namespace FixtureHarness.Yaml

/-- A position in a text. -/
structure Mark where
  index : Nat
  line : Nat
  column : Nat
  deriving DecidableEq, Repr, Inhabited

namespace Mark

/-- The beginning of a text. -/
def start : Mark := ⟨0, 0, 0⟩

/-- Whether a mark lies at the beginning of the first line, where messages leave it out. -/
def isOrigin (mark : Mark) : Bool :=
  mark.line = 0 && mark.column = 0

/-- Whether two marks show the same place. -/
def samePlace (left right : Mark) : Bool :=
  left.line = right.line && left.column = right.column

/-- The text of a place, with lines and columns counted from one, or nothing at the origin. -/
def place (mark : Mark) : String :=
  if mark.isOrigin then "" else s!" at line {mark.line + 1} column {mark.column + 1}"

end Mark

/-- What was being read when a problem was met, and where it began. -/
structure Context where
  activity : String
  mark : Mark
  deriving DecidableEq, Repr

/-- Why a text is not a YAML document. -/
structure SyntaxError where
  problem : String
  mark : Mark
  context? : Option Context
  /-- The byte at which a text cannot even be read as characters. -/
  offset : Nat
  deriving DecidableEq, Repr

namespace SyntaxError

/-- The text of the place of a problem. -/
def place (error : SyntaxError) : String :=
  if error.mark.isOrigin && error.offset ≠ 0 then s!" at position {error.offset}"
  else error.mark.place

/-- The text of a context, whose place is left out if it is that of the problem. -/
def contextText (error : SyntaxError) : String :=
  match error.context? with
  | none => ""
  | some context =>
    let place := if context.mark.samePlace error.mark then "" else context.mark.place
    s!", {context.activity}{place}"

/-- The message of a syntax error. -/
def message (error : SyntaxError) : String :=
  error.problem ++ error.place ++ error.contextText

end SyntaxError

end FixtureHarness.Yaml
