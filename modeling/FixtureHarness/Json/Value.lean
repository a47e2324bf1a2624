import FixtureHarness.Number.Shortest
import FixtureHarness.Text.Utf8

/-! # JSON values

The values of JSON documents. Numbers are integers as far as 64 bits reach and doubles otherwise. An
object is a list of members; the objects of canonical values have their keys in strictly increasing
order of bytes, which is how reading leaves them.
-/

namespace FixtureHarness

namespace Json

/-- A JSON number. -/
inductive Number where
  | integer (value : Int)
  | double (value : Binary64)
  deriving DecidableEq, Repr

/-- The text of a number. -/
def Number.text : Number → List Char
  | integer value => (toString value).toList
  | double value => value.compact

end Json

/-- A JSON document. -/
inductive Json where
  | null
  | boolean (value : Bool)
  | number (value : Json.Number)
  | text (value : String)
  | array (items : List Json)
  | object (members : List (String × Json))
  deriving Repr, BEq, Inhabited

/-- Puts an entry into a list that is sorted by key, in place of one with the same key. -/
def insertSorted {Value : Type} (key : String) (value : Value) :
    List (String × Value) → List (String × Value)
  | [] => [(key, value)]
  | (other, held) :: rest =>
    if key = other then (key, value) :: rest
    else if Utf8.before key other then (key, value) :: (other, held) :: rest
    else (other, held) :: insertSorted key value rest

/-- The value that a list of entries has under a key. -/
def lookupKey {Value : Type} (key : String) (entries : List (String × Value)) : Option Value :=
  (entries.find? fun entry => entry.1 = key).map (·.2)

/-- Sorts a list of entries by key; of entries with one key the last stays. -/
def sortEntries {Value : Type} (entries : List (String × Value)) : List (String × Value) :=
  entries.foldl (fun sorted entry => insertSorted entry.1 entry.2 sorted) []

namespace Json

/-- The member of an object under a key. -/
def member? (key : String) : Json → Option Json
  | object members => lookupKey key members
  | _ => none

end Json

end FixtureHarness
