import FixtureHarness.Json.Value
import FixtureHarness.Text.Quoted

/-! # Mismatches between data and what was expected

Reading typed data from a document can fail although the document is well-formed: a value of another
kind, a field missing or given twice, too few elements. These are the causes and their texts.
-/

namespace FixtureHarness

/-- What was found in place of what was expected. -/
inductive Found where
  | null
  | boolean (value : Bool)
  | integer (value : Int)
  | double (value : Binary64)
  | text (value : String)
  | sequence
  | map
  deriving DecidableEq, Repr

namespace Found

/-- How a JSON value is named that does not fit. -/
def describe : Found → String
  | null => "null"
  | boolean value => s!"boolean `{value}`"
  | integer value => s!"integer `{value}`"
  | double value => s!"floating point `{String.ofList value.compact}`"
  | text value => s!"string {Text.quoted value}"
  | sequence => "sequence"
  | map => "map"

/-- What a JSON value counts as. -/
def ofJson : Json → Found
  | .null => null
  | .boolean value => boolean value
  | .number (.integer value) => integer value
  | .number (.double value) => double value
  | .text value => text value
  | .array _ => sequence
  | .object _ => map

end Found

/-- Why data does not fit. -/
inductive Mismatch where
  | wrongType (found : Found) (expected : String)
  | wrongValue (found : Found) (expected : String)
  | wrongLength (length : Nat) (expected : String)
  | unknownVariant (name : String) (known : List String)
  | missingField (name : String)
  | duplicateField (name : String)
  deriving DecidableEq, Repr

namespace Mismatch

/-- The text of a mismatch. -/
def message : Mismatch → String
  | wrongType found expected => s!"invalid type: {found.describe}, expected {expected}"
  | wrongValue found expected => s!"invalid value: {found.describe}, expected {expected}"
  | wrongLength length expected => s!"invalid length {length}, expected {expected}"
  | unknownVariant name known =>
    s!"unknown variant `{name}`, expected one of " ++
      ", ".intercalate (known.map fun variant => s!"`{variant}`")
  | missingField name => s!"missing field `{name}`"
  | duplicateField name => s!"duplicate field `{name}`"

end Mismatch

end FixtureHarness
