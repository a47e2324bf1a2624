import FixtureHarness.Proofs.Xml.Escaping

/-! # What escaped texts look like

No mark is left in an escaped text, and each of its ampersands begins the reference that stands for
one special character. References and parts of them that were in the text before are no exception:
their ampersands are escaped like all others.
-/

namespace FixtureHarness.Text.Xml

variable {char : Char} {front rest : List Char} {reference : Char × List Char}

/-! ## References -/

/-- What stands for a character: the five special ones have an entity, all others are themselves. -/
def entityText : Char → List Char
  | '&' => "&amp;".toList
  | '<' => "&lt;".toList
  | '>' => "&gt;".toList
  | '"' => "&quot;".toList
  | '\'' => "&apos;".toList
  | char => [char]

/-- The special characters but the ampersand, with which references begin. -/
def marks : List Char := ['<', '>', '"', '\'']

theorem mem_references_iff : char ∈ references.map (·.1) ↔ char = '&' ∨ char ∈ marks :=
  List.mem_cons

theorem escapeChar_eq_entityText : escapeChar = entityText := by
  funext char
  fun_cases entityText char with
  | case6 char ampersand less greater quote apostrophe =>
    refine escapeChar_of_not_mem fun special => ?_
    simp only [mem_references_iff, marks, List.mem_cons, List.not_mem_nil, or_false] at special
    rcases special with same | same | same | same | same
    exacts [ampersand same, less same, greater same, quote same, apostrophe same]
  | _ => decide

/-- A reference is an ampersand before a name without special characters. -/
theorem exists_name_of_reference (member : reference ∈ references) :
    ∃ name, reference.2 = '&' :: name ∧ ∀ char ∈ name, char ∉ references.map (·.1) := by
  have begins : ∀ reference ∈ references, reference.2.head? = some '&' := by decide
  have apart : references.all (fun reference =>
      reference.2.tail.all fun char => char ∉ references.map (·.1)) = true := by decide
  obtain ⟨name, written⟩ := List.head?_eq_some_iff.mp (begins reference member)
  have plain := List.all_eq_true.mp apart reference member
  rw [written, List.tail_cons, List.all_eq_true] at plain
  exact ⟨name, written, fun char inside => of_decide_eq_true (plain char inside)⟩

theorem escapeChar_of_reference (member : reference ∈ references) :
    escapeChar reference.1 = reference.2 := by
  have own : ∀ reference ∈ references, escapeChar reference.1 = reference.2 := by decide
  exact own reference member

theorem special_or_plain (char : Char) :
    (∃ reference ∈ references, reference.1 = char ∧ escapeChar char = reference.2) ∨
      char ∉ references.map (·.1) ∧ escapeChar char = [char] := by
  by_cases special : char ∈ references.map (·.1)
  · obtain ⟨reference, member, rfl⟩ := List.mem_map.mp special
    exact .inl ⟨reference, member, rfl, escapeChar_of_reference member⟩
  · exact .inr ⟨special, escapeChar_of_not_mem special⟩

/-! ## Escaped texts -/

/-- No special character stands in a text but ampersands, each of which begins a reference. -/
structure IsEscaped (written : List Char) : Prop where
  unmarked : ∀ mark ∈ marks, mark ∉ written
  referring : ∀ rest, '&' :: rest <:+ written →
    ∃ reference ∈ references, reference.2 <+: '&' :: rest

theorem IsEscaped.of_append (escaped : IsEscaped (front ++ rest)) : IsEscaped rest where
  unmarked mark isMark held := escaped.unmarked mark isMark (List.mem_append_right front held)
  referring after suffix := escaped.referring after (suffix.trans (List.suffix_append front rest))

/-- What may stand before an escaped text. -/
theorem isEscaped_cons_iff :
    IsEscaped (char :: rest) ↔ char ∉ marks ∧
      (char = '&' → ∃ reference ∈ references, reference.2 <+: char :: rest) ∧ IsEscaped rest := by
  constructor
  · intro escaped
    refine ⟨fun isMark => escaped.unmarked char isMark (List.mem_cons_self ..), ?_, ?_⟩
    · rintro rfl
      exact escaped.referring rest List.suffix_rfl
    · have parts : IsEscaped ([char] ++ rest) := escaped
      exact parts.of_append
  · rintro ⟨noMark, begins, behind⟩
    refine ⟨fun mark isMark held => ?_, fun after suffix => ?_⟩
    · rcases List.mem_cons.mp held with rfl | later
      · exact noMark isMark
      · exact behind.unmarked mark isMark later
    · rcases List.suffix_cons_iff.mp suffix with same | later
      · obtain ⟨rfl, rfl⟩ := List.cons.inj same
        exact begins rfl
      · exact behind.referring after later

theorem IsEscaped.plain_append (plain : ∀ char ∈ front, char ∉ references.map (·.1))
    (escaped : IsEscaped rest) : IsEscaped (front ++ rest) := by
  induction front with
  | nil => exact escaped
  | cons char front ih =>
    rw [List.forall_mem_cons, mem_references_iff, not_or] at plain
    obtain ⟨⟨noAmpersand, noMark⟩, others⟩ := plain
    exact isEscaped_cons_iff.mpr ⟨noMark, fun ampersand => (noAmpersand ampersand).elim, ih others⟩

theorem IsEscaped.reference_append (member : reference ∈ references) (escaped : IsEscaped rest) :
    IsEscaped (reference.2 ++ rest) := by
  have begins : reference.2 <+: reference.2 ++ rest := List.prefix_append ..
  obtain ⟨name, parts, plain⟩ := exists_name_of_reference member
  rw [parts, List.cons_append] at begins ⊢
  refine isEscaped_cons_iff.mpr ⟨by decide, fun _ => ?_, escaped.plain_append plain⟩
  exact ⟨reference, member, parts ▸ begins⟩

/-- One more character escaped. -/
theorem IsEscaped.escapeChar_append (char : Char) (escaped : IsEscaped rest) :
    IsEscaped (escapeChar char ++ rest) := by
  obtain ⟨reference, member, _, written⟩ | ⟨plain, kept⟩ := special_or_plain char
  · rw [written]
    exact escaped.reference_append member
  · rw [kept]
    exact escaped.plain_append (List.forall_mem_singleton.mpr plain)

/-! ## Escaping -/

theorem isEscaped_escape (text : String) : IsEscaped (escape text).toList := by
  rw [toList_escape]
  induction text.toList with
  | nil => exact ⟨by simp, by simp⟩
  | cons char rest ih =>
    rw [List.flatMap_cons]
    exact ih.escapeChar_append char

/-- Of the special characters only the ampersand stands in escaped texts. -/
theorem not_mem_escape (special : char ∈ references.map (·.1)) (other : char ≠ '&')
    (text : String) : char ∉ (escape text).toList :=
  (isEscaped_escape text).unmarked char ((mem_references_iff.mp special).resolve_left other)

/-- Each special character gives one ampersand, and no other character gives any. -/
theorem count_escape (text : String) :
    (escape text).toList.count '&' = text.toList.countP (· ∈ references.map (·.1)) := by
  have once : ∀ reference ∈ references, reference.2.count '&' = 1 := by decide
  rw [toList_escape]
  induction text.toList with
  | nil => rfl
  | cons char rest ih =>
    rw [List.flatMap_cons, List.count_append, ih, List.countP_cons, Nat.add_comm]
    obtain ⟨reference, member, rfl, written⟩ | ⟨plain, kept⟩ := special_or_plain char
    · have special : reference.1 ∈ references.map (·.1) := List.mem_map_of_mem member
      rw [written, once reference member, if_pos (decide_eq_true special)]
    · have other : char ≠ '&' := fun ampersand => plain (mem_references_iff.mpr (.inl ampersand))
      rw [kept, List.count_singleton, if_neg (by simpa using other), if_neg (by simpa using plain)]

end FixtureHarness.Text.Xml
