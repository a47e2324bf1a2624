/-! # Lines, occurrences and replacement in texts

The operations on plain characters that several formats share: counting bytes, splitting into lines,
looking for a text inside another, and writing one character as a longer text.
-/

namespace FixtureHarness.Text

/-- The number of bytes of a text in UTF-8. -/
def byteCount (text : List Char) : Nat :=
  text.foldl (fun count char => count + char.utf8Size) 0

/-- The lines of a text. A line feed ends a line, and one carriage return before it belongs to the
ending; a last line without an ending counts when it is not empty. -/
def lines : List Char → List (List Char)
  | [] => []
  | '\n' :: rest => [] :: lines rest
  | '\r' :: '\n' :: rest => [] :: lines rest
  | char :: rest =>
    match lines rest with
    | [] => [[char]]
    | line :: others => (char :: line) :: others

/-- The text of lines, each with a line feed behind it. -/
def unlines (lines : List String) : String :=
  String.join (lines.map fun line => line ++ "\n")

/-- Whether the first text occurs in the second, at any place. -/
def occursIn (needle : List Char) : List Char → Bool
  | [] => needle.isEmpty
  | char :: rest => needle.isPrefixOf (char :: rest) || occursIn needle rest

/-- Writes `replacement` in place of each occurrence of one character. -/
def replaceChar (char : Char) (replacement : List Char) (text : List Char) : List Char :=
  text.flatMap fun other => if other = char then replacement else [other]

/-- Takes one final line ending, `\n` or `\r\n`, off a text. -/
def dropLineEnd (text : List Char) : List Char :=
  match text.reverse with
  | '\n' :: '\r' :: rest => rest.reverse
  | '\n' :: rest => rest.reverse
  | _ => text

/-- The pieces of a text between the occurrences of a separator; there is always at least one. -/
def splitAt (separator : Char) : List Char → List (List Char)
  | [] => [[]]
  | char :: rest =>
    if char = separator then [] :: splitAt separator rest
    else
      match splitAt separator rest with
      | [] => [[char]]
      | piece :: others => (char :: piece) :: others

end FixtureHarness.Text
