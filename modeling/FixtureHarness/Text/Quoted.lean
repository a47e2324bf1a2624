import FixtureHarness.Text.Hidden

/-! # Quoted texts

How a text is shown inside a message: between double quotes, with escapes for the quote, the
backslash and every character that would not be seen. A single quote needs no escape.
-/

namespace FixtureHarness.Text

/-- The digit characters of a number in base sixteen, in lower case. -/
def hexDigits (number : Nat) : List Char :=
  Nat.toDigits 16 number

/-- One character as it stands between double quotes. -/
def quotedChar (char : Char) : List Char :=
  match char with
  | '\x00' => ['\\', '0']
  | '\t' => ['\\', 't']
  | '\n' => ['\\', 'n']
  | '\r' => ['\\', 'r']
  | '"' => ['\\', '"']
  | '\\' => ['\\', '\\']
  | _ => if isHidden char then ['\\', 'u', '\x7b'] ++ hexDigits char.toNat ++ ['\x7d'] else [char]

/-- A text between double quotes. -/
def quoted (text : String) : String :=
  String.ofList ('"' :: text.toList.flatMap quotedChar ++ ['"'])

/-- A list of texts, each quoted, between brackets. -/
def quotedList (texts : List String) : String :=
  "[" ++ ", ".intercalate (texts.map quoted) ++ "]"

end FixtureHarness.Text
