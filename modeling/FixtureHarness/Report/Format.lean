/-! # Output formats

The forms that a suite report can be written in, and the names that select them, in any case of
letters. No letter outside ASCII has one of the letters of these names as its small form.
-/

namespace FixtureHarness

/-- A form of the suite report. -/
inductive ReportFormat where
  | text
  | json
  | junit
  deriving DecidableEq, Repr

namespace ReportFormat

/-- The format that a name selects. -/
def ofName? (name : String) : Option ReportFormat :=
  match String.ofList (name.toList.map Char.toLower) with
  | "text" => some text
  | "json" => some json
  | "junit" => some junit
  | "xml" => some junit
  | _ => none

/-- The complaint about a name that selects no format. -/
def unknownMessage (name : String) : String :=
  s!"Unknown output format: {name}"

end ReportFormat

end FixtureHarness
