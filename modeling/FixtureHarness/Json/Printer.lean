import FixtureHarness.Json.Value
import FixtureHarness.Text.Quoted

/-! # Writing JSON

The pretty form of a JSON value: two spaces for each level, one item or member a line, nothing
between the brackets of an empty container. Strings escape the quote, the backslash and control
characters only.
-/

namespace FixtureHarness.Json

/-- One character as it stands inside a JSON string. -/
def escapeChar (char : Char) : List Char :=
  match char with
  | '"' => ['\\', '"']
  | '\\' => ['\\', '\\']
  | '\x08' => ['\\', 'b']
  | '\t' => ['\\', 't']
  | '\n' => ['\\', 'n']
  | '\x0c' => ['\\', 'f']
  | '\r' => ['\\', 'r']
  | _ =>
    if char.toNat < 0x20 then
      let digits := Text.hexDigits char.toNat
      ['\\', 'u'] ++ List.replicate (4 - digits.length) '0' ++ digits
    else [char]

/-- A JSON string literal. -/
def escape (text : String) : List Char :=
  '"' :: text.toList.flatMap escapeChar ++ ['"']

/-- The start of a line at a level. -/
def newLine (level : Nat) : List Char :=
  '\n' :: List.replicate (2 * level) ' '

/-- The entries of a container, each on a line of its own. -/
def block (level : Nat) (opening closing : Char) : List (List Char) → List Char
  | [] => [opening, closing]
  | entries =>
    opening :: List.intercalate [','] (entries.map (newLine (level + 1) ++ ·)) ++
      newLine level ++ [closing]

mutual

/-- The pretty form of a value that begins at a level. -/
def prettyAt (level : Nat) : Json → List Char
  | null => "null".toList
  | boolean value => (toString value).toList
  | number value => value.text
  | text value => escape value
  | array items => block level '[' ']' (prettyItems (level + 1) items)
  | object members => block level '\x7b' '\x7d' (prettyMembers (level + 1) members)

/-- The pretty forms of the items of an array. -/
def prettyItems (level : Nat) : List Json → List (List Char)
  | [] => []
  | item :: rest => prettyAt level item :: prettyItems level rest

/-- The pretty forms of the members of an object. -/
def prettyMembers (level : Nat) : List (String × Json) → List (List Char)
  | [] => []
  | (key, value) :: rest =>
    (escape key ++ [':', ' '] ++ prettyAt level value) :: prettyMembers level rest

end

/-- The pretty form of a document. -/
def pretty (value : Json) : String :=
  String.ofList (prettyAt 0 value)

end FixtureHarness.Json
