import FixtureHarness.Json.Sorted
import Mathlib.Data.List.Induction

/-! # Sorting and lookups

Sorting a list of entries leaves a sorted one as it is, and every key keeps its last value. A sorted
list is therefore determined by what its keys lead to.
-/

namespace FixtureHarness

/-! ## Sorting -/

variable {Value : Type}

/-- A key that comes before all others is none of them. -/
theorem not_mem_keys_of_before {key : String} {entries : List (String × Value)}
    (first : ∀ entry ∈ entries, Utf8.before key entry.1 = true) : key ∉ entries.map (·.1) := by
  intro member
  obtain ⟨entry, held, same⟩ := List.mem_map.mp member
  exact Utf8.ne_of_before (first entry held) same.symm

/-- A key that comes after all others is put at the end. -/
theorem insertSorted_of_last {key : String} {value : Value} {entries : List (String × Value)}
    (last : ∀ entry ∈ entries, Utf8.before entry.1 key = true) :
    insertSorted key value entries = entries ++ [(key, value)] := by
  induction entries with
  | nil => rfl
  | cons head rest ih =>
    have earlier := last head (List.mem_cons_self ..)
    rw [insertSorted, if_neg (Utf8.ne_of_before earlier).symm,
      if_neg (Utf8.not_before_of_before earlier),
      ih fun entry member => last entry (List.mem_cons_of_mem _ member)]
    rfl

theorem sortEntries_append (entries : List (String × Value)) (key : String) (value : Value) :
    sortEntries (entries ++ [(key, value)]) = insertSorted key value (sortEntries entries) := by
  simp [sortEntries]

theorem sortEntries_of_isSorted {entries : List (String × Value)} (sorted : IsSorted entries) :
    sortEntries entries = entries := by
  induction entries using List.reverseRecOn with
  | nil => rfl
  | append_singleton front entry ih =>
    obtain ⟨sortedFront, -, last⟩ := List.pairwise_append.mp sorted
    rw [sortEntries_append, ih sortedFront, insertSorted_of_last]
    exact fun other member => last other member entry (List.mem_singleton_self _)

theorem mem_of_mem_sortEntries {entry : String × Value} {entries : List (String × Value)}
    (member : entry ∈ sortEntries entries) : entry ∈ entries := by
  induction entries using List.reverseRecOn with
  | nil => exact member
  | append_singleton front last ih =>
    rw [sortEntries_append] at member
    rcases mem_insertSorted member with rfl | member
    · simp
    · exact List.mem_append_left _ (ih member)

/-! ## Lookups -/

/-- The last value of a key. -/
def lastValue? (key : String) (entries : List (String × Value)) : Option Value :=
  lookupKey key entries.reverse

theorem lookupKey_cons (key : String) (entry : String × Value) (rest : List (String × Value)) :
    lookupKey key (entry :: rest) = if entry.1 = key then some entry.2 else lookupKey key rest := by
  by_cases same : entry.1 = key <;> simp [lookupKey, same]

theorem lookupKey_insertSorted (wanted key : String) (value : Value)
    (entries : List (String × Value)) :
    lookupKey wanted (insertSorted key value entries) =
      if key = wanted then some value else lookupKey wanted entries := by
  induction entries with
  | nil => exact lookupKey_cons ..
  | cons head rest ih =>
    rw [insertSorted]
    split
    · next same =>
      rw [lookupKey_cons, lookupKey_cons, same]
      split <;> rfl
    split
    · exact lookupKey_cons ..
    · next different _ =>
      rw [lookupKey_cons, ih, lookupKey_cons]
      split
      · next found =>
        rw [if_neg fun same => different (same.trans found.symm)]
      · rfl

theorem lastValue_append (wanted key : String) (value : Value) (entries : List (String × Value)) :
    lastValue? wanted (entries ++ [(key, value)]) =
      if key = wanted then some value else lastValue? wanted entries := by
  rw [lastValue?, List.reverse_append]
  exact lookupKey_cons ..

theorem lookupKey_append (key : String) (front back : List (String × Value)) :
    lookupKey key (front ++ back) = (lookupKey key front).or (lookupKey key back) := by
  induction front with
  | nil => rfl
  | cons entry rest ih =>
    rw [List.cons_append, lookupKey_cons, lookupKey_cons, ih]
    split <;> rfl

/-- A value further behind counts before those in front of it. -/
theorem lastValue_append_entries (key : String) (front back : List (String × Value)) :
    lastValue? key (front ++ back) = (lastValue? key back).or (lastValue? key front) := by
  rw [lastValue?, List.reverse_append, lookupKey_append, lastValue?, lastValue?]

theorem lastValue_cons (wanted : String) (entry : String × Value) (rest : List (String × Value)) :
    lastValue? wanted (entry :: rest) =
      (lastValue? wanted rest).or (if entry.1 = wanted then some entry.2 else none) := by
  have single : lastValue? wanted [entry] = if entry.1 = wanted then some entry.2 else none :=
    lookupKey_cons wanted entry []
  rw [← List.singleton_append, lastValue_append_entries, single]

/-- Sorting keeps the last value of every key, and no other. -/
theorem lookupKey_sortEntries (wanted : String) (entries : List (String × Value)) :
    lookupKey wanted (sortEntries entries) = lastValue? wanted entries := by
  induction entries using List.reverseRecOn with
  | nil => rfl
  | append_singleton front entry ih =>
    rw [sortEntries_append, lookupKey_insertSorted, lastValue_append, ih]

/-- In a sorted list the first value of a key is the last. -/
theorem IsSorted.lastValue {entries : List (String × Value)} (sorted : IsSorted entries)
    (wanted : String) : lastValue? wanted entries = lookupKey wanted entries := by
  rw [← lookupKey_sortEntries, sortEntries_of_isSorted sorted]

theorem lastValue_sortEntries (wanted : String) (entries : List (String × Value)) :
    lastValue? wanted (sortEntries entries) = lastValue? wanted entries := by
  rw [(isSorted_sortEntries entries).lastValue, lookupKey_sortEntries]

theorem lookupKey_eq_none_iff {key : String} {entries : List (String × Value)} :
    lookupKey key entries = none ↔ key ∉ entries.map (·.1) := by
  simp only [lookupKey, Option.map_eq_none_iff, List.find?_eq_none, decide_eq_true_eq, List.mem_map,
    not_exists, not_and]

theorem lastValue_eq_none_iff {key : String} {entries : List (String × Value)} :
    lastValue? key entries = none ↔ key ∉ entries.map (·.1) := by
  rw [lastValue?, lookupKey_eq_none_iff, List.map_reverse, List.mem_reverse]

theorem IsSorted.nodup {entries : List (String × Value)} (sorted : IsSorted entries) :
    entries.Nodup :=
  sorted.imp fun earlier same => Utf8.ne_of_before earlier (congrArg Prod.fst same)

/-- In a sorted list a key has one entry at most, the one that it leads to. -/
theorem IsSorted.mem_iff {entries : List (String × Value)} (sorted : IsSorted entries) {key : String}
    {value : Value} : (key, value) ∈ entries ↔ lookupKey key entries = some value := by
  induction entries with
  | nil => simp [lookupKey]
  | cons head rest ih =>
    obtain ⟨first, sortedRest⟩ := isSorted_cons.mp sorted
    rw [List.mem_cons, lookupKey_cons, ih sortedRest]
    split
    · next same =>
      obtain rfl := same
      have gone : lookupKey head.1 rest = none :=
        lookupKey_eq_none_iff.mpr (not_mem_keys_of_before first)
      simp [gone, Prod.ext_iff, eq_comm]
    · next different =>
      have other : (key, value) ≠ head := fun same => different (congrArg Prod.fst same).symm
      simp [other]

/-- Sorted lists with the same lookups are the same. -/
theorem IsSorted.eq_of_lookups {entries others : List (String × Value)} (sorted : IsSorted entries)
    (sortedOthers : IsSorted others) (same : ∀ key, lookupKey key entries = lookupKey key others) :
    entries = others := by
  have permuted : entries.Perm others := by
    refine (List.perm_ext_iff_of_nodup sorted.nodup sortedOthers.nodup).mpr fun ⟨key, value⟩ => ?_
    rw [sorted.mem_iff, same, sortedOthers.mem_iff]
  refine permuted.eq_of_pairwise (fun left right _ _ earlier later => ?_) sorted sortedOthers
  exact absurd later (Utf8.not_before_of_before earlier)

/-- Lists are sorted to the same list exactly if every key has the same last value in them. -/
theorem sortEntries_eq_iff {entries others : List (String × Value)} :
    sortEntries entries = sortEntries others ↔
      ∀ key, lastValue? key entries = lastValue? key others := by
  constructor
  · intro same key
    rw [← lookupKey_sortEntries, same, lookupKey_sortEntries]
  · intro same
    refine (isSorted_sortEntries entries).eq_of_lookups (isSorted_sortEntries others) fun key => ?_
    rw [lookupKey_sortEntries, same, lookupKey_sortEntries]

/-! ## Changing values -/

variable {Result : Type}

theorem insertSorted_map (change : Value → Result) (key : String) (value : Value)
    (entries : List (String × Value)) :
    insertSorted key (change value) (entries.map fun entry => (entry.1, change entry.2)) =
      (insertSorted key value entries).map fun entry => (entry.1, change entry.2) := by
  induction entries with
  | nil => rfl
  | cons head rest ih =>
    rw [List.map_cons, insertSorted, insertSorted]
    split
    · rfl
    split
    · rfl
    · rw [ih, List.map_cons]

/-- Sorting looks at keys only. -/
theorem sortEntries_map (change : Value → Result) (entries : List (String × Value)) :
    sortEntries (entries.map fun entry => (entry.1, change entry.2)) =
      (sortEntries entries).map fun entry => (entry.1, change entry.2) := by
  induction entries using List.reverseRecOn with
  | nil => rfl
  | append_singleton front entry ih =>
    rw [List.map_append, List.map_singleton, sortEntries_append, ih, insertSorted_map,
      sortEntries_append]

end FixtureHarness
