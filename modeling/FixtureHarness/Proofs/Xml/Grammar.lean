import FixtureHarness.Text.Xml

/-! # Documents of XML 1.0

The grammar of documents without a document type declaration, over the characters of a text. An end
tag has the name of its start tag, no attribute is given twice, references stand for characters that
a document may have, and nothing in a document is any other character.
-/

namespace FixtureHarness.Text.Xml

/-! ## Characters and names -/

/-- The code points that a document may have. -/
def isCode (code : Nat) : Bool :=
  code = 0x9 || code = 0xA || code = 0xD || (0x20 ≤ code && code ≤ 0xD7FF) ||
    (0xE000 ≤ code && code ≤ 0xFFFD) || (0x10000 ≤ code && code ≤ 0x10FFFF)

/-- The characters that a document may have. -/
def isChar (char : Char) : Bool :=
  isCode char.toNat

/-- Texts that a document may have. -/
def IsText (text : List Char) : Prop :=
  ∀ char ∈ text, isChar char = true

/-- White space, which may be missing. -/
def IsBlank (text : List Char) : Prop :=
  ∀ char ∈ text, char = ' ' ∨ char = '\t' ∨ char = '\r' ∨ char = '\n'

/-- The ranges of the characters that begin a name. -/
def nameStarts : List (Nat × Nat) := [
  (0x3A, 0x3A), (0x41, 0x5A), (0x5F, 0x5F), (0x61, 0x7A), (0xC0, 0xD6), (0xD8, 0xF6), (0xF8, 0x2FF),
  (0x370, 0x37D), (0x37F, 0x1FFF), (0x200C, 0x200D), (0x2070, 0x218F), (0x2C00, 0x2FEF),
  (0x3001, 0xD7FF), (0xF900, 0xFDCF), (0xFDF0, 0xFFFD), (0x10000, 0xEFFFF)]

/-- The ranges of the other characters of a name. -/
def nameOthers : List (Nat × Nat) := [
  (0x2D, 0x2E), (0x30, 0x39), (0xB7, 0xB7), (0x300, 0x36F), (0x203F, 0x2040)]

/-- Whether a character lies in one of some ranges. -/
def inRanges (ranges : List (Nat × Nat)) (char : Char) : Bool :=
  ranges.any fun range => range.1 ≤ char.toNat && char.toNat ≤ range.2

/-- Whether a text is a name. -/
def isName : List Char → Bool
  | [] => false
  | first :: rest => inRanges nameStarts first && rest.all (inRanges (nameStarts ++ nameOthers))

/-! ## References -/

/-- The names of the characters that need no declaration. -/
def entityNames : List (List Char) :=
  ["lt".toList, "gt".toList, "amp".toList, "apos".toList, "quot".toList]

/-- The value of a digit of a base up to sixteen. -/
def digitValue (digit : Char) : Nat :=
  if digit.isDigit then digit.toNat - 0x30
  else if digit.isUpper then digit.toNat - 0x41 + 10
  else digit.toNat - 0x61 + 10

/-- The number that digits stand for. -/
def numeral (base : Nat) (digits : List Char) : Nat :=
  digits.foldl (fun number digit => number * base + digitValue digit) 0

/-- Whether a character is a digit of base sixteen. -/
def isHexDigit (char : Char) : Bool :=
  char.isDigit || ('a' ≤ char && char ≤ 'f') || ('A' ≤ char && char ≤ 'F')

/-- A reference to a character. -/
inductive Reference : List Char → Prop where
  | named {name : List Char} : name ∈ entityNames → Reference ('&' :: (name ++ [';']))
  | decimal {digits : List Char} : digits ≠ [] → digits.all (·.isDigit) →
      isCode (numeral 10 digits) → Reference ('&' :: '#' :: (digits ++ [';']))
  | hexadecimal {digits : List Char} : digits ≠ [] → digits.all isHexDigit →
      isCode (numeral 16 digits) → Reference ('&' :: '#' :: 'x' :: (digits ++ [';']))

/-! ## Tags -/

/-- The inside of an attribute value between quotes of one kind. -/
inductive Value (quote : Char) : List Char → Prop where
  | nil : Value quote []
  | char {char : Char} {rest : List Char} : isChar char → char ≠ '<' → char ≠ '&' →
      char ≠ quote → Value quote rest → Value quote (char :: rest)
  | reference {reference rest : List Char} : Reference reference → Value quote rest →
      Value quote (reference ++ rest)

/-- The quotes that a value may stand between. -/
def quotes : List Char := ['"', '\'']

/-- The equals sign between a name and its value. -/
def Equals (text : List Char) : Prop :=
  ∃ before after, IsBlank before ∧ IsBlank after ∧ text = before ++ '=' :: after

/-- One attribute, with the white space before it. -/
def Attribute (name text : List Char) : Prop :=
  isName name ∧ ∃ gap equals quote value, gap ≠ [] ∧ IsBlank gap ∧ Equals equals ∧
    quote ∈ quotes ∧ Value quote value ∧
    text = gap ++ (name ++ (equals ++ quote :: (value ++ [quote])))

/-- Attributes of different names. -/
inductive Attributes : List (List Char) → List Char → Prop where
  | nil : Attributes [] []
  | cons {name text rest : List Char} {names : List (List Char)} : Attribute name text →
      name ∉ names → Attributes names rest → Attributes (name :: names) (text ++ rest)

/-- What stands between the angle brackets of the tags that open an element. -/
def TagBody (name text : List Char) : Prop :=
  isName name ∧ ∃ names attributes space, Attributes names attributes ∧ IsBlank space ∧
    text = name ++ (attributes ++ space)

/-- A tag that begins an element. -/
def StartTag (name text : List Char) : Prop :=
  ∃ body, TagBody name body ∧ text = '<' :: (body ++ ['>'])

/-- A tag that is an element without content. -/
def EmptyTag (name text : List Char) : Prop :=
  ∃ body, TagBody name body ∧ text = '<' :: (body ++ ['/', '>'])

/-- A tag that ends an element. -/
def EndTag (name text : List Char) : Prop :=
  ∃ space, IsBlank space ∧ text = '<' :: '/' :: (name ++ (space ++ ['>']))

/-! ## Markup without elements -/

/-- A comment, which has no two hyphens together inside and none at its end. -/
def Comment (text : List Char) : Prop :=
  ∃ inner, IsText inner ∧ ¬ ['-', '-'] <:+: inner ++ ['-'] ∧
    text = "<!--".toList ++ (inner ++ "-->".toList)

/-- An instruction for the program that reads the document. The name of its target is not `xml`, in
letters of any case. -/
def Instruction (text : List Char) : Prop :=
  ∃ target inner, isName target ∧ target.map Char.toLower ≠ "xml".toList ∧ IsText inner ∧
    (inner = [] ∨ ∃ char rest, inner = char :: rest ∧ IsBlank [char]) ∧
    ¬ ['?', '>'] <:+: inner ∧ text = '<' :: '?' :: (target ++ (inner ++ ['?', '>']))

/-- The end of a section of character data, which may not stand in other text. -/
def sectionEnd : List Char := [']', ']', '>']

/-- A section of character data. -/
def Section (text : List Char) : Prop :=
  ∃ inner, IsText inner ∧ ¬ sectionEnd <:+: inner ∧
    text = "<![CDATA[".toList ++ (inner ++ sectionEnd)

/-! ## Elements and documents -/

/-- The content of an element. -/
inductive Content : List Char → Prop where
  | nil : Content []
  | char {char : Char} {rest : List Char} : isChar char → char ≠ '<' → char ≠ '&' →
      ¬ sectionEnd <+: char :: rest → Content rest → Content (char :: rest)
  | reference {reference rest : List Char} : Reference reference → Content rest →
      Content (reference ++ rest)
  | markup {markup rest : List Char} : Comment markup ∨ Instruction markup ∨ Section markup →
      Content rest → Content (markup ++ rest)
  | empty {name tag rest : List Char} : EmptyTag name tag → Content rest → Content (tag ++ rest)
  | element {name start inner finish rest : List Char} : StartTag name start → Content inner →
      EndTag name finish → Content rest → Content (start ++ (inner ++ (finish ++ rest)))

/-- An element. -/
def Element (text : List Char) : Prop :=
  (∃ name, EmptyTag name text) ∨
    ∃ name start inner finish, StartTag name start ∧ Content inner ∧ EndTag name finish ∧
      text = start ++ (inner ++ finish)

/-- What may stand before and behind the outermost element. -/
inductive Misc : List Char → Prop where
  | nil : Misc []
  | blank {char : Char} {rest : List Char} : IsBlank [char] → Misc rest → Misc (char :: rest)
  | markup {markup rest : List Char} : Comment markup ∨ Instruction markup → Misc rest →
      Misc (markup ++ rest)

/-- An item of the declaration, with the white space before it. -/
def DeclarationItem (name : String) (allowed : List Char → Prop) (text : List Char) : Prop :=
  ∃ gap equals quote value, gap ≠ [] ∧ IsBlank gap ∧ Equals equals ∧ quote ∈ quotes ∧
    allowed value ∧ text = gap ++ (name.toList ++ (equals ++ quote :: (value ++ [quote])))

/-- The numbers of versions. -/
def IsVersion (text : List Char) : Prop :=
  ∃ digits, digits ≠ [] ∧ digits.all (·.isDigit) ∧ text = '1' :: '.' :: digits

/-- The names of encodings. -/
def IsEncoding (text : List Char) : Prop :=
  ∃ first rest, text = first :: rest ∧ first.isAlpha ∧
    ∀ char ∈ rest, char.isAlphanum ∨ char = '.' ∨ char = '_' ∨ char = '-'

/-- Whether a document stands alone. -/
def IsStandalone (text : List Char) : Prop :=
  text = "yes".toList ∨ text = "no".toList

/-- The declaration that a document may begin with. -/
def Declaration (text : List Char) : Prop :=
  ∃ version encoding standalone space, DeclarationItem "version" IsVersion version ∧
    (encoding = [] ∨ DeclarationItem "encoding" IsEncoding encoding) ∧
    (standalone = [] ∨ DeclarationItem "standalone" IsStandalone standalone) ∧ IsBlank space ∧
    text = "<?xml".toList ++ (version ++ (encoding ++ (standalone ++ (space ++ ['?', '>']))))

/-- A document. -/
def Document (text : List Char) : Prop :=
  ∃ declaration before element after, (declaration = [] ∨ Declaration declaration) ∧
    Misc before ∧ Element element ∧ Misc after ∧
    text = declaration ++ (before ++ (element ++ after))

end FixtureHarness.Text.Xml
