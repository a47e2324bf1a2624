import FixtureHarness.Proofs.Xml.Characters
import Mathlib.Data.List.Basic

/-! # Escaped texts in XML documents

Replacing the special characters one kind after another is the same as replacing them all at once. So
an escaped text may stand in an attribute value and in the content of an element, as far as its
characters may stand in a document at all; escaping neither adds nor takes away any that may not.
-/

namespace FixtureHarness.Text.Xml

/-! ## One character at a time -/

/-- What stands for a character in an escaped text. -/
def escapeChar (char : Char) : List Char :=
  match references.find? fun reference => reference.1 = char with
  | some reference => reference.2
  | none => [char]

/-- Replaces the characters of a table, one kind after another. -/
def replaceAll (table : List (Char × List Char)) (text : List Char) : List Char :=
  table.foldl (fun chars reference => replaceChar reference.1 reference.2 chars) text

theorem replaceAll_flatMap (table : List (Char × List Char)) (text : List Char)
    (pieces : Char → List Char) :
    replaceAll table (text.flatMap pieces) = text.flatMap fun char => replaceAll table (pieces char) := by
  induction table generalizing pieces with
  | nil => rfl
  | cons reference table ih =>
    simp only [replaceAll, List.foldl_cons] at ih ⊢
    rw [replaceChar, List.flatMap_assoc]
    exact ih fun char => replaceChar reference.1 reference.2 (pieces char)

theorem replaceAll_of_not_mem {table : List (Char × List Char)} {char : Char}
    (plain : char ∉ table.map (·.1)) : replaceAll table [char] = [char] := by
  induction table with
  | nil => rfl
  | cons reference table ih =>
    rw [List.map_cons, List.mem_cons, not_or] at plain
    have kept : replaceChar reference.1 reference.2 [char] = [char] := by
      simp [replaceChar, plain.1]
    rw [replaceAll, List.foldl_cons, kept]
    exact ih plain.2

theorem escapeChar_of_not_mem {char : Char} (plain : char ∉ references.map (·.1)) :
    escapeChar char = [char] := by
  have none : references.find? (fun reference => reference.1 = char) = none := by
    rw [List.find?_eq_none]
    intro reference member same
    exact plain (List.mem_map.mpr ⟨reference, member, by simpa using same⟩)
  rw [escapeChar, none]

/-- The replacements do not get into each other's way. -/
theorem replaceAll_references (char : Char) : replaceAll references [char] = escapeChar char := by
  by_cases special : char ∈ references.map (·.1)
  · have all : (references.map (·.1)).all
        (fun special => replaceAll references [special] = escapeChar special) = true := by decide
    exact of_decide_eq_true (List.all_eq_true.mp all char special)
  · rw [replaceAll_of_not_mem special, escapeChar_of_not_mem special]

/-- Replacing one kind after another is one pass over the text. -/
theorem toList_escape (text : String) : (escape text).toList = text.toList.flatMap escapeChar := by
  have single : text.toList.flatMap (fun char => [char]) = text.toList := by simp
  calc (escape text).toList
      = replaceAll references text.toList := String.toList_ofList
    _ = replaceAll references (text.toList.flatMap fun char => [char]) := by rw [single]
    _ = text.toList.flatMap escapeChar := by
      rw [replaceAll_flatMap]
      simp only [replaceAll_references]

/-- A character is replaced by a reference, or it is none of the special ones. -/
theorem escapeChar_cases (char : Char) :
    isChar char = true ∧ Reference (escapeChar char) ∧ '>' ∉ escapeChar char ∨
      escapeChar char = [char] ∧ char ∉ references.map (·.1) := by
  by_cases special : char ∈ references.map (·.1)
  · have all : (references.map (·.1)).all (fun special => isChar special = true ∧
        '>' ∉ escapeChar special ∧
        ∃ name ∈ entityNames, escapeChar special = '&' :: (name ++ [';'])) = true := by
      decide
    obtain ⟨allowed, closed, name, member, same⟩ :=
      of_decide_eq_true (List.all_eq_true.mp all char special)
    exact .inl ⟨allowed, same ▸ .named member, closed⟩
  · exact .inr ⟨escapeChar_of_not_mem special, special⟩

theorem isText_flatMap_escapeChar {text : List Char} :
    IsText (text.flatMap escapeChar) ↔ IsText text := by
  induction text with
  | nil => rfl
  | cons char rest ih =>
    rw [List.flatMap_cons, isText_append, isText_cons, ih]
    refine and_congr_left fun _ => ?_
    rcases escapeChar_cases char with ⟨allowed, reference, _⟩ | ⟨plain, _⟩
    · exact iff_of_true reference.isText allowed
    · rw [plain, isText_cons, and_iff_left isText_nil]

/-- Escaping leaves the characters that a document may not have, and adds none. -/
theorem isText_escape {text : String} : IsText (escape text).toList ↔ IsText text.toList := by
  rw [toList_escape, isText_flatMap_escapeChar]

/-! ## In attribute values -/

theorem value_flatMap_escapeChar {quote : Char} (quoted : quote ∈ quotes) {text : List Char}
    (allowed : IsText text) : Value quote (text.flatMap escapeChar) := by
  have quotes_special : quotes.all (fun quote => quote ∈ references.map (·.1)) = true := by decide
  have special (quote : Char) (quoted : quote ∈ quotes) : quote ∈ references.map (·.1) :=
    of_decide_eq_true (List.all_eq_true.mp quotes_special quote quoted)
  induction text with
  | nil => exact .nil
  | cons char rest ih =>
    obtain ⟨first, others⟩ := isText_cons.mp allowed
    rw [List.flatMap_cons]
    rcases escapeChar_cases char with ⟨_, reference, _⟩ | ⟨plain, apart⟩
    · exact .reference reference (ih others)
    · rw [plain]
      refine .char first ?_ ?_ ?_ (ih others)
      · rintro rfl
        exact apart (by decide)
      · rintro rfl
        exact apart (by decide)
      · rintro rfl
        exact apart (special char quoted)

theorem toList_attributeText (name value : String) :
    (attributeText name value).toList =
      [' '] ++ (name.toList ++ (['='] ++ '"' :: ((escape value).toList ++ ['"']))) := by
  have parts : attributeText name value = " " ++ name ++ "=\"" ++ escape value ++ "\"" := rfl
  simp [parts, String.toList_append]

theorem attribute_attributeText {name value : String} (named : isName name.toList = true)
    (allowed : IsText value.toList) : Attribute name.toList (attributeText name value).toList := by
  refine ⟨named, [' '], ['='], '"', (escape value).toList, by simp, by simp [IsBlank], ?_,
    by decide, ?_, toList_attributeText name value⟩
  · exact ⟨[], [], by simp [IsBlank], by simp [IsBlank], rfl⟩
  · rw [toList_escape]
    exact value_flatMap_escapeChar (by decide) allowed

/-! ## Tags -/

variable {name : String} {attributes : List (String × String)}

/-- The text of attributes. -/
def attributesText (attributes : List (String × String)) : List Char :=
  attributes.flatMap fun entry => (attributeText entry.1 entry.2).toList

theorem toList_openTag (name : String) (attributes : List (String × String)) :
    (openTag name attributes).toList =
      '<' :: ((name.toList ++ (attributesText attributes ++ [])) ++ ['>']) := by
  have parts : openTag name attributes = "<" ++ name ++
      String.join (attributes.map fun entry => attributeText entry.1 entry.2) ++ ">" := rfl
  simp [parts, String.toList_append, String.toList_join, List.flatMap_map, attributesText]

theorem toList_closeTag (name : String) :
    (closeTag name).toList = '<' :: '/' :: (name.toList ++ ([] ++ ['>'])) := by
  have parts : closeTag name = "</" ++ name ++ ">" := rfl
  simp [parts, String.toList_append]

theorem attributes_attributesText (named : ∀ entry ∈ attributes, isName entry.1.toList = true)
    (allowed : ∀ entry ∈ attributes, IsText entry.2.toList)
    (different : (attributes.map (·.1)).Nodup) :
    Attributes (attributes.map (·.1.toList)) (attributesText attributes) := by
  induction attributes with
  | nil => exact .nil
  | cons entry rest ih =>
    rw [List.forall_mem_cons] at named allowed
    rw [List.map_cons, List.nodup_cons] at different
    refine .cons (attribute_attributeText named.1 allowed.1) ?_ (ih named.2 allowed.2 different.2)
    intro again
    obtain ⟨other, member, same⟩ := List.mem_map.mp again
    exact different.1 (List.mem_map.mpr ⟨other, member, String.toList_injective same⟩)

/-- An opening tag is a start tag. -/
theorem startTag_openTag (own : isName name.toList = true)
    (named : ∀ entry ∈ attributes, isName entry.1.toList = true)
    (allowed : ∀ entry ∈ attributes, IsText entry.2.toList)
    (different : (attributes.map (·.1)).Nodup) :
    StartTag name.toList (openTag name attributes).toList :=
  ⟨_, ⟨own, _, _, [], attributes_attributesText named allowed different, by simp [IsBlank], rfl⟩,
    toList_openTag name attributes⟩

theorem endTag_closeTag (name : String) : EndTag name.toList (closeTag name).toList :=
  ⟨[], by simp [IsBlank], toList_closeTag name⟩

/-- The value of an attribute has no character that its tag does not have. -/
theorem isText_of_isText_openTag (allowed : IsText (openTag name attributes).toList)
    {entry : String × String} (member : entry ∈ attributes) : IsText entry.2.toList := by
  rw [toList_openTag, isText_cons, isText_append, isText_append, isText_append] at allowed
  obtain ⟨_, ⟨_, values, _⟩, _⟩ := allowed
  have own : IsText (attributeText entry.1 entry.2).toList :=
    fun char held => values char (List.mem_flatMap.mpr ⟨entry, member, held⟩)
  simp only [toList_attributeText, isText_append, isText_cons] at own
  exact isText_escape.mp own.2.2.2.2.1

/-! ## In the content of elements -/

/-- Text without an angle bracket, and with another character or nothing behind it, does not begin
with the end of a section. -/
theorem sectionEnd_not_before {plain more : List Char} (closed : '>' ∉ plain)
    (apart : ∀ first ∈ more.head?, first ∉ sectionEnd) : ¬ sectionEnd <+: plain ++ more := by
  intro ends
  cases more with
  | nil =>
    rw [List.append_nil] at ends
    exact closed (ends.subset (by decide))
  | cons first more =>
    have differs : first ∉ sectionEnd := apart first rfl
    have whole : plain ++ [first] <+: plain ++ first :: more := ⟨more, by simp⟩
    rcases List.prefix_or_prefix_of_prefix ends whole with within | beyond
    · rcases List.prefix_concat_iff.mp within with same | inside
      · exact differs (same ▸ by simp)
      · exact closed (inside.subset (by decide))
    · exact differs (beyond.subset (by simp))

variable {text rest : List Char}

/-- White space may stand before any content. -/
theorem Content.blank_append (content : Content rest) (blank : IsBlank text) :
    Content (text ++ rest) := by
  induction text with
  | nil => exact content
  | cons char text ih =>
    have allowed := isText_cons.mp blank.isText
    have apart : char ∉ sectionEnd ∧ char ≠ '<' ∧ char ≠ '&' := by
      rcases blank char (List.mem_cons_self ..) with rfl | rfl | rfl | rfl <;> decide
    have free : ¬ sectionEnd <+: [] ++ char :: (text ++ rest) :=
      sectionEnd_not_before List.not_mem_nil (by simpa using apart.1)
    exact .char allowed.1 apart.2.1 apart.2.2 free
      (ih fun other member => blank other (List.mem_cons_of_mem _ member))

theorem Content.newLine (content : Content rest) : Content ('\n' :: rest) := by
  have blank : IsBlank ['\n'] := by simp [IsBlank]
  exact content.blank_append blank

theorem isBlank_replicate (depth : Nat) : IsBlank (List.replicate depth ' ') :=
  fun _ member => .inl (List.mem_replicate.mp member).2

theorem content_of_isBlank (blank : IsBlank text) : Content text := by
  have content := Content.nil.blank_append blank
  rwa [List.append_nil] at content

/-- An escaped text may stand before content that does not begin like the end of a section. -/
theorem Content.escape_append {text : String} (allowed : IsText text.toList)
    (content : Content rest) (apart : ∀ first ∈ rest.head?, first ∉ sectionEnd) :
    Content ((escape text).toList ++ rest) := by
  rw [toList_escape]
  generalize text.toList = chars at allowed
  induction chars with
  | nil => exact content
  | cons char chars ih =>
    obtain ⟨own, others⟩ := isText_cons.mp allowed
    rw [List.flatMap_cons, List.append_assoc]
    rcases escapeChar_cases char with ⟨_, reference, _⟩ | ⟨plain, special⟩
    · exact .reference reference (ih others)
    · have differs (other : Char) (member : other ∈ references.map (·.1)) : char ≠ other := by
        rintro rfl
        exact special member
      have closed : '>' ∉ char :: chars.flatMap escapeChar := by
        intro member
        rcases List.mem_cons.mp member with rfl | later
        · exact special (by decide)
        · obtain ⟨other, _, held⟩ := List.mem_flatMap.mp later
          rcases escapeChar_cases other with ⟨_, _, free⟩ | ⟨same, also⟩
          · exact free held
          · rw [same, List.mem_singleton] at held
            exact also (held ▸ by decide)
      rw [plain]
      exact .char own (differs _ (by decide)) (differs _ (by decide))
        (sectionEnd_not_before closed apart) (ih others)

/-- An element may stand before any content. -/
theorem Content.element_append {inner : List Char} (own : isName name.toList = true)
    (named : ∀ entry ∈ attributes, isName entry.1.toList = true)
    (allowed : ∀ entry ∈ attributes, IsText entry.2.toList)
    (different : (attributes.map (·.1)).Nodup) (content : Content inner) (after : Content rest) :
    Content ((openTag name attributes).toList ++ (inner ++ ((closeTag name).toList ++ rest))) :=
  .element (startTag_openTag own named allowed different) content (endTag_closeTag name) after

end FixtureHarness.Text.Xml
