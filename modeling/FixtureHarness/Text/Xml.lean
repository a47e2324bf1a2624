import FixtureHarness.Text.Lines

/-! # XML text

Text inside a document or an attribute has its five special characters replaced by references. Tags
are written with all their attribute values escaped.
-/

namespace FixtureHarness.Text.Xml

/-- The special characters with their references, in the order in which they are replaced. The
ampersand comes first, so that no reference is escaped again. -/
def references : List (Char × List Char) := [
  ('&', "&amp;".toList), ('<', "&lt;".toList), ('>', "&gt;".toList),
  ('"', "&quot;".toList), ('\'', "&apos;".toList)]

/-- A text with its special characters replaced, one kind after another. -/
def escape (text : String) : String :=
  String.ofList <|
    references.foldl (fun chars reference => replaceChar reference.1 reference.2 chars) text.toList

/-- An attribute, with the space before it. -/
def attributeText (name value : String) : String :=
  s!" {name}=\"{escape value}\""

/-- An opening tag. -/
def openTag (name : String) (attributes : List (String × String)) : String :=
  s!"<{name}" ++ String.join (attributes.map fun entry => attributeText entry.1 entry.2) ++ ">"

/-- A closing tag. -/
def closeTag (name : String) : String :=
  s!"</{name}>"

end FixtureHarness.Text.Xml
