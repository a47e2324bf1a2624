import FixtureHarness.Proofs.Text.Occurrence
import FixtureHarness.Proofs.Xml.Escaped

/-! # Escaped texts read back

Every reference gives back its character in one pass from left to right, because none of them begins
with another one. So escaping never maps two texts to one, and what looks like an escaped text is one.
An attribute value ends at the first quote behind its own: a tag tells all values that it was written
with, and what stands behind it.
-/

namespace FixtureHarness.Text.Xml

/-! ## References -/

/-- A text with the references that it begins with replaced by their characters, again and again from
left to right. -/
def unescape : List Char → List Char
  | [] => []
  | char :: rest =>
    match references.find? fun reference => reference.2.isPrefixOf (char :: rest) with
    | some reference => reference.1 :: unescape (rest.drop (reference.2.length - 1))
    | none => char :: unescape rest
  termination_by text => text.length
  decreasing_by
    · simp only [List.length_drop, List.length_cons]
      omega
    · simp

variable {char : Char} {rest written : List Char} {reference other : Char × List Char}

/-- No reference begins with another one. -/
theorem reference_unique (member : reference ∈ references) (memberOther : other ∈ references)
    (starts : other.2 <+: reference.2 ++ rest) : other = reference := by
  have apart : ∀ reference ∈ references, ∀ other ∈ references,
      other.2 <+: reference.2 ∨ reference.2 <+: other.2 → other = reference := by decide
  exact apart reference member other memberOther
    (List.prefix_or_prefix_of_prefix starts (List.prefix_append ..))

theorem find?_reference_append (member : reference ∈ references) (rest : List Char) :
    references.find? (fun other => other.2.isPrefixOf (reference.2 ++ rest)) = some reference := by
  cases found : references.find? fun other => other.2.isPrefixOf (reference.2 ++ rest) with
  | none =>
    have starts : reference.2.isPrefixOf (reference.2 ++ rest) = true :=
      List.isPrefixOf_iff_prefix.mpr (List.prefix_append ..)
    exact (List.find?_eq_none.mp found reference member starts).elim
  | some other =>
    have starts : other.2.isPrefixOf (reference.2 ++ rest) = true := by
      simpa only using List.find?_some found
    rw [List.isPrefixOf_iff_prefix] at starts
    rw [reference_unique member (List.mem_of_find?_eq_some found) starts]

theorem unescape_reference_append (member : reference ∈ references) (rest : List Char) :
    unescape (reference.2 ++ rest) = reference.1 :: unescape rest := by
  obtain ⟨name, written, _⟩ := exists_name_of_reference member
  have found := find?_reference_append member rest
  rw [written, List.cons_append] at found ⊢
  rw [unescape, found]
  simp [written]

/-- A character that begins no reference is left as it is. -/
theorem unescape_cons (plain : char ≠ '&') (rest : List Char) :
    unescape (char :: rest) = char :: unescape rest := by
  have none : references.find? (fun reference => reference.2.isPrefixOf (char :: rest)) = none := by
    rw [List.find?_eq_none]
    intro reference member starts
    obtain ⟨name, written, _⟩ := exists_name_of_reference member
    rw [List.isPrefixOf_iff_prefix, written, List.cons_prefix_cons] at starts
    exact plain starts.1.symm
  rw [unescape, none]

theorem unescape_escapeChar_append (char : Char) (rest : List Char) :
    unescape (escapeChar char ++ rest) = char :: unescape rest := by
  obtain ⟨reference, member, rfl, written⟩ | ⟨plain, kept⟩ := special_or_plain char
  · rw [written]
    exact unescape_reference_append member rest
  · rw [kept]
    exact unescape_cons (fun ampersand => plain (mem_references_iff.mpr (.inl ampersand))) rest

/-- What was escaped is read back. -/
theorem unescape_escape (text : String) : unescape (escape text).toList = text.toList := by
  rw [toList_escape]
  induction text.toList with
  | nil => rw [List.flatMap_nil, unescape]
  | cons char rest ih => rw [List.flatMap_cons, unescape_escapeChar_append, ih]

theorem escape_injective : Function.Injective escape := by
  intro text other same
  apply String.toList_injective
  rw [← unescape_escape text, ← unescape_escape other, same]

/-- An escaped text is the one that escaping writes for what is read back from it. -/
theorem IsEscaped.escape_unescape (escaped : IsEscaped written) :
    (unescape written).flatMap escapeChar = written := by
  -- Follows the reading: a whole reference is taken off, or one character that begins none.
  fun_induction unescape written with
  | case1 => rfl
  | case2 char rest reference found ih =>
    have member := List.mem_of_find?_eq_some found
    have starts : reference.2.isPrefixOf (char :: rest) = true := by
      simpa only using List.find?_some found
    obtain ⟨behind, parts⟩ := List.isPrefixOf_iff_prefix.mp starts
    obtain ⟨name, named, _⟩ := exists_name_of_reference member
    have dropped : rest.drop (reference.2.length - 1) = behind := by
      rw [named, List.cons_append] at parts
      rw [← (List.cons.inj parts).2, named]
      simp
    rw [dropped] at ih ⊢
    rw [← parts] at escaped ⊢
    rw [List.flatMap_cons, escapeChar_of_reference member, ih escaped.of_append]
  | case3 char rest absent ih =>
    obtain ⟨noMark, begins, behind⟩ := isEscaped_cons_iff.mp escaped
    have plain : char ∉ references.map (·.1) := by
      rw [mem_references_iff, not_or]
      refine ⟨fun ampersand => ?_, noMark⟩
      obtain ⟨reference, member, starts⟩ := begins ampersand
      exact List.find?_eq_none.mp absent reference member (List.isPrefixOf_iff_prefix.mpr starts)
    rw [List.flatMap_cons, escapeChar_of_not_mem plain, ih behind, List.singleton_append]

/-- Replacing the special characters one kind after another is one pass over the text, in which none
of them is replaced twice: there are as many ampersands as there were special characters. What it
writes is the one text without marks, all its ampersands beginning references, from which the text is
read back. -/
theorem escape_in_one_pass (text : String) :
    (escape text).toList = text.toList.flatMap entityText ∧
      (escape text).toList.count '&' = text.toList.countP (· ∈ '&' :: marks) ∧
      ∀ written, written = (escape text).toList ↔
        IsEscaped written ∧ unescape written = text.toList := by
  have onePass := toList_escape text
  refine ⟨?_, count_escape text, fun written => ⟨fun same => ?_, ?_⟩⟩
  · rw [onePass, escapeChar_eq_entityText]
  · rw [same]
    exact ⟨isEscaped_escape text, unescape_escape text⟩
  · rintro ⟨escaped, readBack⟩
    rw [onePass, ← readBack, escaped.escape_unescape]

/-- References and parts of them in a text are text. -/
example : (escape "&lt; &amp &<").toList = "&amp;lt; &amp;amp &amp;&lt;".toList := by decide

/-! ## Texts up to a mark -/

/-- An escaped text ends before the same space and the first mark behind it, as far as escaping
replaces the mark. -/
theorem escape_append_inj {mark : Char} (special : mark ∈ references.map (·.1))
    (replaced : mark ≠ '&') {space : List Char} (apart : mark ∉ space) {text other : String}
    {behind rest : List Char} :
    (escape text).toList ++ (space ++ mark :: behind) =
        (escape other).toList ++ (space ++ mark :: rest) ↔ text = other ∧ behind = rest := by
  have free (text : String) : mark ∉ (escape text).toList ++ space := by
    rw [List.mem_append, not_or]
    exact ⟨not_mem_escape special replaced text, apart⟩
  rw [← List.append_assoc, ← List.append_assoc, append_cons_inj_of_not_mem (free text) (free other),
    List.append_cancel_right_eq, String.toList_inj, escape_injective.eq_iff]

/-! ## Tags -/

variable {attributes others : List (String × String)} {behind more : List Char}

theorem attributesText_cons (entry : String × String) (attributes : List (String × String)) :
    attributesText (entry :: attributes) =
      (attributeText entry.1 entry.2).toList ++ attributesText attributes :=
  List.flatMap_cons

theorem attributesText_append_inj
    (same : attributesText attributes ++ behind = attributesText others ++ more)
    (named : attributes.map (·.1) = others.map (·.1)) : attributes = others ∧ behind = more := by
  induction attributes generalizing others with
  | nil =>
    obtain rfl := List.map_eq_nil_iff.mp named.symm
    exact ⟨rfl, same⟩
  | cons entry attributes ih =>
    cases others with
    | nil => cases named
    | cons otherEntry others =>
      obtain ⟨name, value⟩ := entry
      obtain ⟨otherName, otherValue⟩ := otherEntry
      obtain ⟨rfl, namedBehind⟩ := List.cons.inj named
      simp only [attributesText_cons, toList_attributeText, List.append_assoc, List.cons_append,
        List.nil_append, List.append_cancel_left_eq, List.cons.injEq, true_and] at same
      have mark : '"' ∉ ([] : List Char) := List.not_mem_nil
      obtain ⟨rfl, sameBehind⟩ := (escape_append_inj (by decide) (by decide) mark).mp same
      obtain ⟨rfl, rfl⟩ := ih sameBehind namedBehind
      exact ⟨rfl, rfl⟩

/-- An opening tag tells the values of its attributes, whatever they are, and where it ends. -/
theorem openTag_append_inj {name : String}
    (same : (openTag name attributes).toList ++ behind = (openTag name others).toList ++ more)
    (named : attributes.map (·.1) = others.map (·.1)) : attributes = others ∧ behind = more := by
  simp only [toList_openTag, List.cons_append, List.append_assoc, List.append_cancel_left_eq,
    List.cons.injEq, true_and, List.nil_append] at same
  obtain ⟨rfl, sameBehind⟩ := attributesText_append_inj same named
  exact ⟨rfl, (List.cons.inj sameBehind).2⟩

end FixtureHarness.Text.Xml
