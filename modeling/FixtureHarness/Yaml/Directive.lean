import FixtureHarness.Yaml.Property
import FixtureHarness.Yaml.Token

/-! # Directives

Lines before a document that name the version of the syntax or define the handle of tags.
-/

namespace FixtureHarness.Yaml.Directive

/-- What is being read. -/
def activity : String := "while scanning a directive"

/-- What is being read when a version is at fault. -/
def versionActivity : String := "while scanning a %YAML directive"

/-- What is being read when a tag directive is at fault. -/
def tagActivity : String := "while scanning a %TAG directive"

/-- The greatest number of digits in a version. -/
def maxDigits : Nat := 9

/-- Reads a number of a version. -/
def readNumber (start : Mark) : Scanner Nat := fun cursor =>
  let (digits, behind) := cursor.span Char.isDigit
  if maxDigits < digits.length then
    (cursor.skip maxDigits).failIn versionActivity start "found extremely long version number"
  else if digits.isEmpty then
    cursor.failIn versionActivity start "did not find expected version number"
  else .ok (digits.foldl (fun value digit => value * 10 + (digit.toNat - 0x30)) 0, behind)

/-- Reads a version. -/
def readVersion (start : Mark) : Scanner TokenKind := fun cursor => do
  let (major, cursor) ← readNumber start (cursor.skipWhile isBlank)
  if cursor.head? ≠ some '.' then
    cursor.failIn versionActivity start "did not find expected digit or '.' character"
  else
    let (minor, cursor) ← readNumber start (cursor.skip 1)
    .ok (.versionDirective major minor, cursor)

/-- Reads a handle and what it stands for. -/
def readTagDefinition (start : Mark) : Scanner TokenKind := fun cursor => do
  let (handle, cursor) ← Property.readHandle .directive start (cursor.skipWhile isBlank)
  if !next isBlank cursor.head? then
    cursor.failIn tagActivity start "did not find expected whitespace"
  else
    let (uri, cursor) ←
      Property.readUri .directive start Property.isWholeUriChar [] (cursor.skipWhile isBlank)
    if nextOrEnd isSpace cursor.head? then .ok (.tagDirective handle uri, cursor)
    else cursor.failIn tagActivity start "did not find expected whitespace or line break"

/-- Reads the name of a directive. -/
def readName (start : Mark) : Scanner String := fun cursor =>
  let (name, behind) := cursor.span isWordChar
  if name.isEmpty then behind.failIn activity start "could not find expected directive name"
  else if !nextOrEnd isSpace behind.head? then
    behind.failIn activity start "found unexpected non-alphabetical character"
  else .ok (String.ofList name, behind)

/-- Reads a directive with the end of its line. -/
def read : Scanner Token := fun cursor => do
  let start := cursor.mark
  let (name, cursor) ← readName start (cursor.skip 1)
  let (kind, cursor) ←
    match name with
    | "YAML" => readVersion start cursor
    | "TAG" => readTagDefinition start cursor
    | _ => cursor.failIn activity start "found unknown directive name"
  let token : Token := ⟨kind, start, cursor.mark⟩
  let cursor := cursor.skipComment
  match cursor.head? with
  | none => .ok (token, cursor)
  | some char =>
    if isBreak char then .ok (token, cursor.skipBreak)
    else cursor.failIn activity start "did not find expected comment or line break"

end FixtureHarness.Yaml.Directive
