import FixtureHarness.Text.Lines

/-! # Occurrences in texts

An occurrence is an infix. A character that the searched text does not have divides the text that is
searched: no occurrence lies across it. So a final line ending hides no occurrence. Texts that part
at their beginnings are different whatever follows.
-/

namespace FixtureHarness.Text

variable {Item : Type}

theorem occursIn_iff (needle text : List Char) :
    occursIn needle text = true ↔ needle <:+: text := by
  induction text with
  | nil => simp only [occursIn, List.isEmpty_iff, List.infix_nil]
  | cons char rest ih =>
    simp only [occursIn, Bool.or_eq_true, List.isPrefixOf_iff_prefix, ih, List.infix_cons_iff]

theorem prefix_cons_iff_of_not_mem {needle rest : List Item} {item : Item} (apart : item ∉ needle) :
    needle <+: item :: rest ↔ needle = [] := by
  constructor
  · intro starts
    rcases List.prefix_cons_iff.mp starts with empty | ⟨_, rfl, _⟩
    · exact empty
    · exact (apart (List.mem_cons_self ..)).elim
  · rintro rfl
    exact List.nil_prefix

theorem infix_cons_iff_of_not_mem {needle rest : List Item} {item : Item} (apart : item ∉ needle) :
    needle <:+: item :: rest ↔ needle <:+: rest := by
  rw [List.infix_cons_iff, prefix_cons_iff_of_not_mem apart]
  constructor
  · rintro (rfl | later)
    · exact List.nil_infix
    · exact later
  · exact Or.inr

/-- The first place of an item divides a list in one way. -/
theorem append_cons_inj_of_not_mem {left right other rest : List Item} {item : Item}
    (apart : item ∉ left) (apartOther : item ∉ other) :
    left ++ item :: right = other ++ item :: rest ↔ left = other ∧ right = rest := by
  refine ⟨fun same => ?_, fun same => same.1 ▸ same.2 ▸ rfl⟩
  induction left generalizing other with
  | nil =>
    cases other with
    | nil => exact ⟨rfl, (List.cons.inj same).2⟩
    | cons first other => exact (apartOther ((List.cons.inj same).1 ▸ List.mem_cons_self ..)).elim
  | cons first left ih =>
    cases other with
    | nil => exact (apart ((List.cons.inj same).1 ▸ List.mem_cons_self ..)).elim
    | cons second other =>
      rw [List.mem_cons, not_or] at apart apartOther
      obtain ⟨rfl, behind⟩ := List.cons.inj same
      obtain ⟨rfl, rfl⟩ := ih apart.2 apartOther.2 behind
      exact ⟨rfl, rfl⟩

/-- No occurrence lies across an item that the searched list does not have. -/
theorem infix_append_cons_iff {needle left right : List Item} {item : Item}
    (apart : item ∉ needle) :
    needle <:+: left ++ item :: right ↔ needle <:+: left ∨ needle <:+: right := by
  have behind : needle <:+: item :: right ↔ needle <:+: right := infix_cons_iff_of_not_mem apart
  rw [← behind]
  constructor
  · intro occurs
    rcases List.infix_append_iff_ne_nil.mp occurs with inside | inside | across
    · exact .inl inside
    · exact .inr inside
    · obtain ⟨first, second, _, nonempty, rfl, _, starts⟩ := across
      have apartSecond : item ∉ second := fun held => apart (List.mem_append_right _ held)
      exact (nonempty ((prefix_cons_iff_of_not_mem apartSecond).mp starts)).elim
  · rintro (inside | inside)
    · exact List.infix_append_of_infix_left inside
    · exact List.infix_append_of_infix_right inside

theorem infix_append_iff_right {needle run rest : List Item} (apart : ∀ item ∈ run, item ∉ needle) :
    needle <:+: run ++ rest ↔ needle <:+: rest := by
  induction run with
  | nil => rfl
  | cons item run ih =>
    rw [List.cons_append, infix_cons_iff_of_not_mem (apart item (List.mem_cons_self ..))]
    exact ih fun other held => apart other (List.mem_cons_of_mem _ held)

theorem infix_append_iff_left {needle text run : List Item} (apart : ∀ item ∈ run, item ∉ needle) :
    needle <:+: text ++ run ↔ needle <:+: text := by
  have mirrored : ∀ item ∈ run.reverse, item ∉ needle.reverse := by
    simpa only [List.mem_reverse] using apart
  rw [← List.reverse_infix, List.reverse_append, infix_append_iff_right mirrored,
    List.reverse_infix]

/-- What is taken off the end of a text has only the characters of line endings. -/
theorem dropLineEnd_append (text : List Char) :
    ∃ ending, text = dropLineEnd text ++ ending ∧ ∀ char ∈ ending, char = '\n' ∨ char = '\r' := by
  have back : text.reverse.reverse = text := List.reverse_reverse text
  unfold dropLineEnd
  split
  · next rest ends =>
    rw [ends] at back
    exact ⟨['\r', '\n'], by simpa using back.symm, by simp⟩
  · next rest _ ends =>
    rw [ends] at back
    exact ⟨['\n'], by simpa using back.symm, by simp⟩
  · exact ⟨[], (List.append_nil text).symm, by simp⟩

/-- A text without the characters of line endings occurs before a final line ending or nowhere. -/
theorem infix_dropLineEnd_iff {needle : List Char} (feed : '\n' ∉ needle) (back : '\r' ∉ needle)
    (text : List Char) : needle <:+: dropLineEnd text ↔ needle <:+: text := by
  obtain ⟨ending, whole, ends⟩ := dropLineEnd_append text
  have apart : ∀ char ∈ ending, char ∉ needle := by
    intro char held
    rcases ends char held with rfl | rfl
    · exact feed
    · exact back
  calc
    needle <:+: dropLineEnd text ↔ needle <:+: dropLineEnd text ++ ending :=
      (infix_append_iff_left apart).symm
    _ ↔ needle <:+: text := by rw [← whole]

/-! ## Beginnings -/

/-- Texts that part before either beginning ends are different. -/
theorem append_ne_append {left right : String} (apart : ¬ left.toList <+: right.toList)
    (apart' : ¬ right.toList <+: left.toList) (first second : String) :
    left ++ first ≠ right ++ second := by
  intro same
  have both : left.toList ++ first.toList = right.toList ++ second.toList := by
    rw [← String.toList_append, same, String.toList_append]
  have begins : right.toList <+: left.toList ++ first.toList := by
    rw [both]
    exact List.prefix_append ..
  rcases List.prefix_or_prefix_of_prefix begins (List.prefix_append ..) with shorter | longer
  · exact apart' shorter
  · exact apart longer

end FixtureHarness.Text
