import FixtureHarness.Json.Value

/-! # Entries in order

Sorting a list of entries leaves the keys in strictly increasing order of bytes, so none of them
stands twice.
-/

namespace FixtureHarness

/-! ## The order of bytes -/

namespace Utf8

theorem bytesOf_injective {left right : String} (same : bytesOf left = bytesOf right) :
    left = right := by
  apply String.toByteArray_inj.mp
  exact ByteArray.ext (Array.toList_inj.mp same)

theorem before_iff {left right : String} :
    before left right = true ↔ bytesOf left < bytesOf right :=
  decide_eq_true_iff

theorem before_irrefl (text : String) : before text text = false :=
  decide_eq_false (List.lt_irrefl _)

theorem before_trans {first second third : String} (earlier : before first second = true)
    (later : before second third = true) : before first third = true :=
  before_iff.mpr (List.lt_trans (before_iff.mp earlier) (before_iff.mp later))

theorem ne_of_before {left right : String} (earlier : before left right = true) : left ≠ right := by
  rintro rfl
  rw [before_irrefl] at earlier
  cases earlier

theorem not_before_of_before {left right : String} (earlier : before left right = true) :
    ¬ before right left = true :=
  fun later => ne_of_before (before_trans earlier later) rfl

theorem before_or {left right : String} (different : left ≠ right)
    (notBefore : ¬ before left right = true) : before right left = true := by
  apply Classical.byContradiction
  intro notAfter
  rw [before_iff, List.not_lt] at notBefore notAfter
  exact different (bytesOf_injective (List.le_antisymm notAfter notBefore))

end Utf8

/-! ## Sorted lists -/

variable {Value : Type}

/-- Entries whose keys strictly increase. -/
def IsSorted (entries : List (String × Value)) : Prop :=
  entries.Pairwise fun left right => Utf8.before left.1 right.1 = true

instance (entries : List (String × Value)) : Decidable (IsSorted entries) :=
  inferInstanceAs (Decidable (entries.Pairwise _))

theorem isSorted_cons {entry : String × Value} {rest : List (String × Value)} :
    IsSorted (entry :: rest) ↔
      (∀ other ∈ rest, Utf8.before entry.1 other.1 = true) ∧ IsSorted rest :=
  List.pairwise_cons

theorem mem_insertSorted {key : String} {value : Value} {entry : String × Value}
    {entries : List (String × Value)} (member : entry ∈ insertSorted key value entries) :
    entry = (key, value) ∨ entry ∈ entries := by
  induction entries with
  | nil => exact .inl (List.mem_singleton.mp member)
  | cons head rest ih =>
    rw [insertSorted] at member
    split at member
    · exact (List.mem_cons.mp member).imp_right (List.mem_cons_of_mem _)
    split at member
    · exact List.mem_cons.mp member
    · rcases List.mem_cons.mp member with rfl | member
      · exact .inr (List.mem_cons_self ..)
      · exact (ih member).imp_right (List.mem_cons_of_mem _)

theorem IsSorted.insert {entries : List (String × Value)} (sorted : IsSorted entries)
    (key : String) (value : Value) : IsSorted (insertSorted key value entries) := by
  induction entries with
  | nil => exact List.pairwise_singleton ..
  | cons head rest ih =>
    obtain ⟨first, sortedRest⟩ := isSorted_cons.mp sorted
    rw [insertSorted]
    split
    · next same =>
      obtain rfl := same
      exact isSorted_cons.mpr ⟨first, sortedRest⟩
    next different =>
    split
    · next earlier =>
      refine isSorted_cons.mpr ⟨fun other member => ?_, sorted⟩
      rcases List.mem_cons.mp member with rfl | member
      · exact earlier
      · exact Utf8.before_trans earlier (first other member)
    · next later =>
      refine isSorted_cons.mpr ⟨fun other member => ?_, ih sortedRest⟩
      rcases mem_insertSorted member with rfl | member
      · exact Utf8.before_or different later
      · exact first other member

/-- Entries that are put into a sorted list one after the other leave it sorted. -/
theorem IsSorted.insertAll {sorted : List (String × Value)} (isSorted : IsSorted sorted)
    (entries : List (String × Value)) :
    IsSorted (entries.foldl (fun sorted entry => insertSorted entry.1 entry.2 sorted) sorted) := by
  induction entries generalizing sorted with
  | nil => exact isSorted
  | cons entry rest ih => exact ih (isSorted.insert entry.1 entry.2)

theorem isSorted_sortEntries (entries : List (String × Value)) : IsSorted (sortEntries entries) :=
  IsSorted.insertAll .nil entries

end FixtureHarness
