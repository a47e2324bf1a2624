import FixtureHarness.Catalog.Basic
import Mathlib.Data.List.Induction
import Mathlib.Data.List.Nodup

/-! # Test cases that share a name

A name finds the first test case that has it, so a test case behind one of the same name is never
found. The names that stand more than once are listed in the order of their second place.
-/

namespace FixtureHarness

namespace TestCatalog

variable {catalog : TestCatalog} {name : String} {position : Nat}

theorem names_length (catalog : TestCatalog) : catalog.names.length = catalog.cases.length :=
  List.length_map _

theorem names_getElem? (position : Fin catalog.cases.length) :
    catalog.names[position.val]? = some (catalog.cases.get position).name := by
  rw [names, List.getElem?_map, List.getElem?_eq_getElem position.isLt]
  rfl

/-- The position of the test case that a name finds. -/
def position? (catalog : TestCatalog) (name : String) : Option Nat :=
  catalog.cases.findIdx? fun case => case.name = name

theorem find?_eq_bind_position? (catalog : TestCatalog) (name : String) :
    catalog.find? name = (catalog.position? name).bind fun position => catalog.cases[position]? :=
  List.find?_eq_bind_findIdx?_getElem?

theorem position?_eq_some_iff :
    catalog.position? name = some position ↔
      catalog.names[position]? = some name ∧
        ∀ earlier < position, catalog.names[earlier]? ≠ some name := by
  simp only [position?, names, List.findIdx?_eq_some_iff_getElem, List.getElem?_map,
    Option.map_eq_some_iff, decide_eq_true_eq, ne_eq]
  constructor
  · rintro ⟨inside, named, before⟩
    refine ⟨⟨_, List.getElem?_eq_getElem inside, named⟩, ?_⟩
    rintro earlier less ⟨case, there, same⟩
    obtain ⟨_, rfl⟩ := List.getElem?_eq_some_iff.mp there
    exact before earlier less same
  · rintro ⟨⟨case, there, named⟩, before⟩
    obtain ⟨inside, rfl⟩ := List.getElem?_eq_some_iff.mp there
    refine ⟨inside, named, fun earlier less same => ?_⟩
    exact before earlier less ⟨_, List.getElem?_eq_getElem (Nat.lt_trans less inside), same⟩

/-- A test case behind another one of its name. -/
def IsHidden (catalog : TestCatalog) (position : Nat) : Prop :=
  ∃ earlier < position, ∃ name,
    catalog.names[earlier]? = some name ∧ catalog.names[position]? = some name

/-- What a name finds is not hidden. -/
theorem not_isHidden_of_position? (found : catalog.position? name = some position) :
    ¬ catalog.IsHidden position := by
  obtain ⟨named, before⟩ := position?_eq_some_iff.mp found
  rintro ⟨earlier, less, other, thereEarlier, there⟩
  obtain rfl : other = name := Option.some.inj (there.symm.trans named)
  exact before earlier less thereEarlier

/-- The name of a test case finds one that stands no later. -/
theorem exists_position? (named : catalog.names[position]? = some name) :
    ∃ first ≤ position, catalog.position? name = some first := by
  induction position using Nat.strongRecOn with
  | ind position ih =>
    by_cases hidden : ∃ earlier < position, catalog.names[earlier]? = some name
    · obtain ⟨earlier, less, there⟩ := hidden
      obtain ⟨first, before, found⟩ := ih earlier less there
      exact ⟨first, Nat.le_of_lt (Nat.lt_of_le_of_lt before less), found⟩
    · refine ⟨position, Nat.le_refl _, position?_eq_some_iff.mpr ⟨named, ?_⟩⟩
      intro earlier less there
      exact hidden ⟨earlier, less, there⟩

/-- Names are different exactly if each of them finds the test case it was taken from. -/
theorem nodup_names_iff :
    catalog.names.Nodup ↔ ∀ position name, catalog.names[position]? = some name →
      catalog.position? name = some position := by
  constructor
  · intro different position name named
    refine position?_eq_some_iff.mpr ⟨named, fun earlier less there => ?_⟩
    obtain ⟨inside, _⟩ := List.getElem?_eq_some_iff.mp named
    exact List.nodup_iff_getElem?_ne_getElem?.mp different earlier position less inside
      (there.trans named.symm)
  · intro found
    refine List.nodup_iff_getElem?_ne_getElem?.mpr fun earlier later less inside same => ?_
    have named := List.getElem?_eq_getElem inside
    exact (position?_eq_some_iff.mp (found later _ named)).2 earlier less (same.trans named)

end TestCatalog

namespace Catalog

/-! ## Second places -/

/-- A name stands at a position for the second time. -/
def IsSecond (names : List String) (position : Nat) (name : String) : Prop :=
  names[position]? = some name ∧ (names.take position).count name = 1

/-- The second place of one name comes before that of another. -/
def SecondBefore (names : List String) (former latter : String) : Prop :=
  ∃ first second, first < second ∧ IsSecond names first former ∧ IsSecond names second latter

variable {names : List String} {name former latter : String} {position : Nat}

theorem IsSecond.append (second : IsSecond names position name) (more : List String) :
    IsSecond (names ++ more) position name := by
  obtain ⟨named, once⟩ := second
  obtain ⟨inside, _⟩ := List.getElem?_eq_some_iff.mp named
  refine ⟨?_, ?_⟩
  · rw [List.getElem?_append_left inside, named]
  · rw [List.take_append_of_le_length (Nat.le_of_lt inside), once]

theorem SecondBefore.append (before : SecondBefore names former latter) (more : List String) :
    SecondBefore (names ++ more) former latter := by
  obtain ⟨first, second, less, isFirst, isSecond⟩ := before
  exact ⟨first, second, less, isFirst.append more, isSecond.append more⟩

theorem isSecond_last (once : names.count name = 1) :
    IsSecond (names ++ [name]) names.length name := by
  refine ⟨List.getElem?_concat_length, ?_⟩
  rw [List.take_append_of_le_length (Nat.le_refl _), List.take_length, once]

/-! ## What is noted of names -/

theorem sightings_concat (names : List String) (name : String) :
    sightings (names ++ [name]) = (sightings names).note name := by
  rw [sightings, sightings, List.foldl_append, List.foldl_cons, List.foldl_nil]

/-- The names that were seen are those that were noted. -/
theorem mem_seen_iff : name ∈ (sightings names).seen ↔ name ∈ names := by
  induction names using List.reverseRecOn with
  | nil => simp [sightings]
  | append_singleton front last ih =>
    rw [sightings_concat, Sightings.note, List.mem_insert_iff, ih, List.mem_append,
      List.mem_singleton, or_comm]

/-- Noting a name repeats it if it was seen, and no other. -/
theorem Sightings.mem_note_repeated {sightings : Sightings} {last : String} :
    name ∈ (sightings.note last).repeated ↔
      name ∈ sightings.repeated ∨ name = last ∧ last ∈ sightings.seen := by
  simp only [note, Bool.and_eq_true, List.contains_iff_mem, Bool.not_eq_true']
  split_ifs with fresh
  · rw [List.mem_append, List.mem_singleton]
    exact or_congr_right (and_iff_left fresh.1).symm
  · refine (or_iff_left_of_imp ?_).symm
    rintro ⟨rfl, seen⟩
    apply Classical.byContradiction
    intro absent
    exact fresh ⟨seen, by simpa using absent⟩

/-- The repeated names are those that were noted twice or more often. -/
theorem mem_repeatedNames_iff : name ∈ repeatedNames names ↔ 2 ≤ names.count name := by
  induction names using List.reverseRecOn with
  | nil => simp [repeatedNames, sightings]
  | append_singleton front last ih =>
    rw [repeatedNames] at ih
    rw [repeatedNames, sightings_concat, Sightings.mem_note_repeated, ih, mem_seen_iff,
      ← List.count_pos_iff, List.count_append, List.count_singleton]
    by_cases same : name = last
    · subst same
      simp only [beq_self_eq_true, true_and, if_true]
      omega
    · have other : (last == name) = false := by simpa using Ne.symm same
      simp [same, other]

/-- A name behind others comes to be repeated if it stood once before. -/
theorem repeatedNames_concat (names : List String) (name : String) :
    repeatedNames (names ++ [name]) =
      repeatedNames names ++ if names.count name = 1 then [name] else [] := by
  have fresh : ((sightings names).seen.contains name &&
      !(sightings names).repeated.contains name) = true ↔ names.count name = 1 := by
    have repeated : name ∈ (sightings names).repeated ↔ 2 ≤ names.count name :=
      mem_repeatedNames_iff
    rw [Bool.and_eq_true, Bool.not_eq_true', List.contains_iff_mem, mem_seen_iff,
      ← Bool.not_eq_true, List.contains_iff_mem, repeated, ← List.count_pos_iff]
    omega
  rw [repeatedNames, repeatedNames, sightings_concat, Sightings.note]
  simp only [fresh]
  split_ifs
  · rfl
  · exact (List.append_nil _).symm

theorem nodup_repeatedNames (names : List String) : (repeatedNames names).Nodup := by
  induction names using List.reverseRecOn with
  | nil => exact List.nodup_nil
  | append_singleton front last ih =>
    rw [repeatedNames_concat]
    split_ifs with once
    · have fresh : last ∉ repeatedNames front := by
        rw [mem_repeatedNames_iff, once]
        decide
      rw [← List.concat_eq_append]
      exact ih.concat fresh
    · rwa [List.append_nil]

theorem exists_isSecond (twice : 2 ≤ names.count name) :
    ∃ position < names.length, IsSecond names position name := by
  induction names using List.reverseRecOn with
  | nil => simp at twice
  | append_singleton front last ih =>
    rw [List.length_append, List.length_singleton]
    by_cases before : 2 ≤ front.count name
    · obtain ⟨position, inside, second⟩ := ih before
      exact ⟨position, by omega, second.append [last]⟩
    · rw [List.count_append, List.count_singleton] at twice
      split_ifs at twice with same
      · obtain rfl : last = name := by simpa using same
        exact ⟨front.length, by omega, isSecond_last (by omega)⟩
      · omega

/-- Repeated names are listed in the order of their second places. -/
theorem pairwise_repeatedNames (names : List String) :
    (repeatedNames names).Pairwise (SecondBefore names) := by
  induction names using List.reverseRecOn with
  | nil => exact List.Pairwise.nil
  | append_singleton front last ih =>
    have kept := ih.imp fun before => before.append [last]
    rw [repeatedNames_concat]
    split_ifs with once
    · refine List.pairwise_append.mpr ⟨kept, List.pairwise_singleton _ _, ?_⟩
      intro former member latter single
      obtain rfl := List.mem_singleton.mp single
      obtain ⟨position, inside, second⟩ := exists_isSecond (mem_repeatedNames_iff.mp member)
      exact ⟨position, front.length, inside, second.append [latter], isSecond_last once⟩
    · rwa [List.append_nil]

/-! ## Duplicates -/

theorem duplicates_eq_nil_iff {catalog : Catalog} :
    catalog.duplicates = [] ↔ catalog.tests.names.Nodup := by
  rw [List.nodup_iff_count_le_one, List.eq_nil_iff_forall_not_mem]
  refine forall_congr' fun name => ?_
  rw [duplicates, mem_repeatedNames_iff]
  omega

end Catalog

end FixtureHarness
