import FixtureHarness.Proofs.Catalog.Resolving
import FixtureHarness.Proofs.Catalog.Shapes

/-! # What a query catalog keeps of an object

The text of an object of strings is always read as a catalog. Of members under one key the last is
kept, and the names are listed in the order of their bytes, each once. Two objects therefore give
the same catalog exactly if one becomes the other by swapping neighbours with different keys and by
adding or dropping members that a later one overwrites.
-/

namespace FixtureHarness

open Json

/-! ## Rearranging members -/

section
variable {Value : Type} {entries others : List (String × Value)}

/-- A step between lists of members in which every key keeps its last value. -/
inductive Rearranges : List (String × Value) → List (String × Value) → Prop where
  /-- Neighbours with different keys change places. -/
  | swapped (front back : List (String × Value)) (first second : String × Value) :
      first.1 ≠ second.1 →
        Rearranges (front ++ first :: second :: back) (front ++ second :: first :: back)
  /-- A member goes whose key stands again further behind. -/
  | dropped (front back : List (String × Value)) (key : String) (value : Value) :
      key ∈ back.map (·.1) → Rearranges (front ++ (key, value) :: back) (front ++ back)

theorem Rearranges.lastValue (step : Rearranges entries others) (wanted : String) :
    lastValue? wanted entries = lastValue? wanted others := by
  cases step with
  | swapped front back first second different =>
    simp only [lastValue_append_entries, lastValue_cons]
    by_cases same : first.1 = wanted
    · have other : second.1 ≠ wanted := fun found => different (same.trans found.symm)
      simp [other]
    · simp [same]
  | dropped front back key value overwritten =>
    rw [lastValue_append_entries, lastValue_append_entries, lastValue_cons]
    by_cases same : key = wanted
    · subst same
      have present : lastValue? key back ≠ none := fun gone =>
        lastValue_eq_none_iff.mp gone overwritten
      obtain ⟨last, found⟩ := Option.ne_none_iff_exists'.mp present
      simp [found]
    · simp [same]

theorem lastValue_of_ways (ways : Relation.EqvGen Rearranges entries others) (wanted : String) :
    lastValue? wanted entries = lastValue? wanted others := by
  induction ways with
  | rel _ _ step => exact step.lastValue wanted
  | refl _ => rfl
  | symm _ _ _ ih => exact ih.symm
  | trans _ _ _ _ _ ih ih' => exact ih.trans ih'

/-! ### Sorting by steps -/

theorem Rearranges.inside (step : Rearranges entries others) (front back : List (String × Value)) :
    Rearranges (front ++ entries ++ back) (front ++ others ++ back) := by
  cases step with
  | swapped before behind first second different =>
    simpa using swapped (front ++ before) (behind ++ back) first second different
  | dropped before behind key value overwritten =>
    have still : key ∈ (behind ++ back).map (·.1) := by
      rw [List.map_append]
      exact List.mem_append_left _ overwritten
    simpa using dropped (front ++ before) (behind ++ back) key value still

theorem ways_inside (ways : Relation.EqvGen Rearranges entries others)
    (front back : List (String × Value)) :
    Relation.EqvGen Rearranges (front ++ entries ++ back) (front ++ others ++ back) := by
  induction ways with
  | rel _ _ step => exact .rel _ _ (step.inside front back)
  | refl _ => exact .refl _
  | symm _ _ _ ih => exact .symm _ _ ih
  | trans _ _ _ _ _ ih ih' => exact .trans _ _ _ ih ih'

/-- The last member comes to the front if no other has its key. -/
theorem ways_to_front {key : String} (value : Value) (absent : key ∉ entries.map (·.1)) :
    Relation.EqvGen Rearranges (entries ++ [(key, value)]) ((key, value) :: entries) := by
  induction entries with
  | nil => exact .refl _
  | cons head rest ih =>
    rw [List.map_cons, List.mem_cons, not_or] at absent
    have behind : Relation.EqvGen Rearranges (head :: rest ++ [(key, value)])
        (head :: (key, value) :: rest) := by
      simpa using ways_inside (ih absent.2) [head] []
    exact .trans _ _ _ behind (.rel _ _ (.swapped [] rest head (key, value) (Ne.symm absent.1)))

/-- The last member takes its place among sorted ones. -/
theorem ways_to_insertSorted (sorted : IsSorted entries) (key : String) (value : Value) :
    Relation.EqvGen Rearranges (entries ++ [(key, value)]) (insertSorted key value entries) := by
  induction entries with
  | nil => exact .refl _
  | cons head rest ih =>
    obtain ⟨first, sortedRest⟩ := isSorted_cons.mp sorted
    rw [insertSorted]
    split
    · next same =>
      -- the value that the key had before is overwritten, so it goes first
      subst same
      have gone : Rearranges (head :: rest ++ [(head.1, value)]) (rest ++ [(head.1, value)]) :=
        .dropped [] (rest ++ [(head.1, value)]) head.1 head.2 (by simp)
      exact .trans _ _ _ (.rel _ _ gone) (ways_to_front value (not_mem_keys_of_before first))
    split
    · next earlier =>
      refine ways_to_front value (not_mem_keys_of_before fun other member => ?_)
      rcases List.mem_cons.mp member with rfl | member
      · exact earlier
      · exact Utf8.before_trans earlier (first other member)
    · simpa using ways_inside (ih sortedRest) [head] []

theorem ways_to_sortEntries (entries : List (String × Value)) :
    Relation.EqvGen Rearranges entries (sortEntries entries) := by
  induction entries using List.reverseRecOn with
  | nil => exact .refl _
  | append_singleton front last ih =>
    rw [sortEntries_append]
    have frontSorted :
        Relation.EqvGen Rearranges (front ++ [last]) (sortEntries front ++ [last]) := by
      simpa using ways_inside ih [] [last]
    exact .trans _ _ _ frontSorted (ways_to_insertSorted (isSorted_sortEntries front) _ _)

/-- Two lists are sorted to the same exactly if steps lead from one to the other. -/
theorem sortEntries_eq_iff_ways :
    sortEntries entries = sortEntries others ↔ Relation.EqvGen Rearranges entries others := by
  constructor
  · intro same
    have back : Relation.EqvGen Rearranges (sortEntries entries) others := by
      rw [same]
      exact .symm _ _ (ways_to_sortEntries others)
    exact .trans _ _ _ (ways_to_sortEntries entries) back
  · intro ways
    exact sortEntries_eq_iff.mpr (lastValue_of_ways ways)

end

namespace QueryCatalog

/-! ## Catalogs of members -/

/-- What a catalog has to be for an object with some members: it gives the text of the last member
under a key, and lists the keys in the order of their bytes, each once. -/
structure Keeps (catalog : QueryCatalog) (entries : List (String × String)) : Prop where
  last : ∀ front key text back, entries = front ++ (key, text) :: back → key ∉ back.map (·.1) →
    catalog.get? key = some text
  absent : ∀ key, key ∉ entries.map (·.1) → catalog.get? key = none
  sorted : catalog.names.Pairwise fun left right => Utf8.bytesOf left < Utf8.bytesOf right
  distinct : catalog.names.Nodup
  named : ∀ key, key ∈ catalog.names ↔ key ∈ entries.map (·.1)
  contained : ∀ key, catalog.contains key = true ↔ ∃ text, catalog.get? key = some text
  counted : catalog.size = catalog.names.length

theorem get_ofEntries (entries : List (String × String)) (key : String) :
    (ofEntries entries).get? key = lastValue? key entries :=
  lookupKey_sortEntries key entries

/-- A catalog has the names under which it gives something. -/
theorem mem_names_iff {catalog : QueryCatalog} {key : String} :
    key ∈ catalog.names ↔ catalog.get? key ≠ none := by
  rw [get?, ne_eq, lookupKey_eq_none_iff, not_not, names]

theorem names_sorted (catalog : QueryCatalog) :
    catalog.names.Pairwise fun left right => Utf8.bytesOf left < Utf8.bytesOf right :=
  List.pairwise_map.mpr (catalog.sorted.imp Utf8.before_iff.mp)

theorem names_nodup (catalog : QueryCatalog) : catalog.names.Nodup :=
  catalog.names_sorted.imp fun earlier same => Utf8.ne_of_before (Utf8.before_iff.mpr earlier) same

theorem keeps_ofEntries (entries : List (String × String)) : (ofEntries entries).Keeps entries where
  last := by
    rintro front key text back rfl overwrites
    have behind : lastValue? key back = none := lastValue_eq_none_iff.mpr overwrites
    rw [get_ofEntries, lastValue_append_entries, lastValue_cons, behind]
    simp
  absent key missing := by rw [get_ofEntries, lastValue_eq_none_iff.mpr missing]
  sorted := names_sorted _
  distinct := names_nodup _
  named key := by
    rw [mem_names_iff, get_ofEntries, ne_eq, lastValue_eq_none_iff, not_not]
  contained key := by rw [contains_eq_isSome, Option.isSome_iff_exists]
  counted := (List.length_map _).symm

/-! ## Texts -/

/-- A text spells an object whose members are strings, with these keys and values in this order. -/
def IsObject (text : String) (entries : List (String × String)) : Prop :=
  ∃ members, (Source.object members).WrittenIn text.toList ∧
    List.Forall₂ (fun member entry => decode member.1 = some entry.1.toList ∧
      TestCase.Spells member.2 entry.2) members entries

theorem keyed_eq_some_iff {member : List Piece × Source} {entry : String × String} :
    keyed? Source.string? member = some entry ↔
      decode member.1 = some entry.1.toList ∧ TestCase.Spells member.2 entry.2 := by
  simp only [keyed?, bind, Option.bind_eq_some_iff, TestCase.string_eq_some_iff, Option.some.injEq]
  constructor
  · rintro ⟨chars, decoded, value, spelled, rfl⟩
    exact ⟨by rw [decoded, String.toList_ofList], spelled⟩
  · rintro ⟨decoded, spelled⟩
    exact ⟨entry.1.toList, decoded, entry.2, spelled, by rw [String.ofList_toList]⟩

/-- Strings by key, as an object is printed. -/
def objectText (entries : List (String × String)) : String :=
  (Json.object (entries.map fun entry => (entry.1, .text entry.2))).pretty

theorem isObject_objectText (entries : List (String × String)) :
    IsObject (objectText entries) entries := by
  refine ⟨_, pretty_writtenIn (.object _), ?_⟩
  induction entries with
  | nil => exact .nil
  | cons entry rest ih =>
    have spelled : TestCase.Spells (Json.text entry.2).source entry.2 :=
      ⟨piecesOf entry.2, rfl, decode_piecesOf entry.2⟩
    exact .cons ⟨decode_piecesOf entry.1, spelled⟩ ih

theorem reads_reader : Reads reader fun source =>
    (source.entries? Source.string?).map ofEntries :=
  reads_readText.map.andReturn ofEntries

/-- A text is a catalog exactly if it is an object of strings. -/
theorem ofText_eq_ok_iff {text file : String} {catalog : QueryCatalog} :
    ofText? text file = .ok catalog ↔
      ∃ entries, IsObject text entries ∧ ofEntries entries = catalog := by
  have read : ofText? text file = .ok catalog ↔ readAll reader text = .ok catalog := by
    rw [ofText?]
    split <;> simp [*]
  rw [read, readAll_eq_ok_iff reads_reader]
  simp only [Option.map_eq_some_iff]
  constructor
  · rintro ⟨source, written, entries, kept, same⟩
    cases source with
    | object members =>
      refine ⟨entries, ⟨members, written, ?_⟩, same⟩
      exact (TestCase.mapM_eq_some_iff.mp kept).imp fun _ _ => keyed_eq_some_iff.mp
    | _ => cases kept
  · rintro ⟨entries, ⟨members, written, spelled⟩, same⟩
    refine ⟨.object members, written, entries, ?_, same⟩
    exact TestCase.mapM_eq_some_iff.mpr (spelled.imp fun _ _ => keyed_eq_some_iff.mpr)

/-- The text of an object of strings is read as a catalog that keeps the last member under each key,
sorted by their keys. The text of another object gives the same catalog exactly if its members are
those of the first one, rearranged. -/
theorem ofText_keeps_last {text file : String} {entries : List (String × String)}
    (object : IsObject text entries) :
    ∃ catalog, ofText? text file = .ok catalog ∧ catalog.Keeps entries ∧
      ∀ other otherFile others, IsObject other others →
        (ofText? other otherFile = .ok catalog ↔ Relation.EqvGen Rearranges entries others) := by
  refine ⟨ofEntries entries, ofText_eq_ok_iff.mpr ⟨entries, object, rfl⟩,
    keeps_ofEntries entries, ?_⟩
  intro other otherFile others otherObject
  have loaded : ofText? other otherFile = .ok (ofEntries others) :=
    ofText_eq_ok_iff.mpr ⟨others, otherObject, rfl⟩
  rw [loaded, Except.ok.injEq, ← sortEntries_eq_iff_ways, ofEntries, ofEntries, mk.injEq, eq_comm]

/-- Members of an object, with one key twice and one that sorts behind all letters of ASCII. -/
def repeatedMembers : List (String × String) :=
  [("\u00e9", "1"), ("b", "old"), ("z", ""), ("b", "new")]

/-- What is left of them without the one that is overwritten, in another order. -/
def singleMembers : List (String × String) :=
  [("z", ""), ("\u00e9", "1"), ("b", "new")]

theorem repeatedMembers_read :
    let catalog : QueryCatalog := ⟨[("b", "new"), ("z", ""), ("\u00e9", "1")], by decide⟩
    IsObject (objectText repeatedMembers) repeatedMembers ∧
      ofText? (objectText repeatedMembers) "queries.json" = .ok catalog ∧
      catalog.Keeps repeatedMembers ∧
      ofText? (objectText singleMembers) "single.json" = .ok catalog := by
  intro catalog
  have object : IsObject (objectText repeatedMembers) repeatedMembers := isObject_objectText _
  obtain ⟨kept, loaded, keeps, same⟩ :=
    @ofText_keeps_last (objectText repeatedMembers) "queries.json" repeatedMembers object
  have read : ofText? (objectText repeatedMembers) "queries.json" = .ok catalog :=
    ofText_eq_ok_iff.mpr ⟨repeatedMembers, object, by decide⟩
  obtain rfl : kept = catalog := Except.ok.inj (loaded.symm.trans read)
  have ways : Relation.EqvGen Rearranges repeatedMembers singleMembers := by
    have dropped : Rearranges repeatedMembers [("\u00e9", "1"), ("z", ""), ("b", "new")] :=
      .dropped [("\u00e9", "1")] [("z", ""), ("b", "new")] "b" "old" (by decide)
    have swapped : Rearranges [("\u00e9", "1"), ("z", ""), ("b", "new")] singleMembers :=
      .swapped [] [("b", "new")] ("\u00e9", "1") ("z", "") (by decide)
    exact .trans _ _ _ (.rel _ _ dropped) (.rel _ _ swapped)
  exact ⟨object, loaded, keeps, (same _ _ _ (isObject_objectText singleMembers)).mpr ways⟩

end QueryCatalog

end FixtureHarness
