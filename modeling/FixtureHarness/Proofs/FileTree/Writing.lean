import FixtureHarness.FileTree.Basic
import Mathlib.Data.List.Basic
import Mathlib.Tactic.SplitIfs

/-! # What writing a file changes

A write that succeeds changes one location, which its path leads to from then on. Writes and new
directories only let a tree grow: what is there stays there and directories stay directories, so a
path that leads somewhere keeps leading there.
-/

namespace FixtureHarness.FileTree

/-- Everything that is there stays there, and directories stay directories. -/
structure Grown (before after : FileTree) : Prop where
  working : after.working = before.working
  directory : ∀ location, before.lookup? location = some .directory →
    after.lookup? location = some .directory
  present : ∀ location, before.lookup? location ≠ none → after.lookup? location ≠ none

variable {tree before middle after : FileTree} {path : Path}

theorem Grown.refl (tree : FileTree) : Grown tree tree :=
  ⟨rfl, fun _ held => held, fun _ held => held⟩

theorem Grown.trans (first : Grown before middle) (second : Grown middle after) :
    Grown before after :=
  ⟨second.working.trans first.working,
    fun location held => second.directory location (first.directory location held),
    fun location held => second.present location (first.present location held)⟩

theorem Grown.origin (grown : Grown before after) (path : Path) :
    after.origin path = before.origin path := by
  rw [FileTree.origin, FileTree.origin, grown.working]

/-! ## Entries -/

@[simp] theorem lookup?_nil (tree : FileTree) : tree.lookup? [] = some .directory := rfl

theorem lookup?_of_ne_nil (tree : FileTree) {location : Location} (below : location ≠ []) :
    tree.lookup? location = (tree.entries.find? fun entry => entry.1 = location).map (·.2) := by
  rw [lookup?, if_neg (by simpa using below)]

theorem lookup?_put_of_any {tree : FileTree} {location other : Location} (entry : Entry)
    (held : (tree.entries.any fun other => other.1 = location) = true) (below : other ≠ []) :
    (tree.put location entry).lookup? other =
      if other = location then some entry else tree.lookup? other := by
  rw [lookup?_of_ne_nil _ below, lookup?_of_ne_nil _ below, put, if_pos held]
  have sameKeys : ((fun pair : Location × Entry => decide (pair.1 = other)) ∘ fun pair =>
      if pair.1 = location then (location, entry) else pair) =
        fun pair => decide (pair.1 = other) := by
    funext pair
    by_cases there : pair.1 = location <;> simp [there]
  simp only [List.find?_map, sameKeys, Option.map_map]
  cases found : tree.entries.find? fun pair => decide (pair.1 = other) with
  | none =>
    split_ifs with same
    · obtain ⟨pair, member, there⟩ := List.any_eq_true.mp held
      have absent := List.find?_eq_none.mp found pair member
      rw [same] at absent
      exact (absent there).elim
    · rfl
  | some pair =>
    have there : pair.1 = other := by simpa using List.find?_some found
    split_ifs with same
    · simp [there, same]
    · simp [there, same]

theorem lookup?_put_of_not_any {tree : FileTree} {location other : Location} (entry : Entry)
    (free : ¬ (tree.entries.any fun other => other.1 = location) = true) (below : other ≠ []) :
    (tree.put location entry).lookup? other =
      if other = location then some entry else tree.lookup? other := by
  rw [lookup?_of_ne_nil _ below, lookup?_of_ne_nil _ below, put, if_neg free]
  rw [List.find?_append]
  by_cases same : other = location
  · have absent : (tree.entries.find? fun pair => decide (pair.1 = other)) = none := by
      rw [List.find?_eq_none, same]
      intro pair member there
      exact free (List.any_eq_true.mpr ⟨pair, member, there⟩)
    rw [absent]
    simp [same]
  · simp [same, Ne.symm same]

/-- What is put somewhere is there, and nothing else changes. -/
theorem lookup?_put (tree : FileTree) {location : Location} (below : location ≠ []) (entry : Entry)
    (other : Location) :
    (tree.put location entry).lookup? other =
      if other = location then some entry else tree.lookup? other := by
  by_cases root : other = []
  · rw [root, lookup?_nil, lookup?_nil, if_neg (Ne.symm below)]
  · by_cases held : (tree.entries.any fun other => other.1 = location) = true
    · exact lookup?_put_of_any entry held root
    · exact lookup?_put_of_not_any entry held root

theorem Grown.put {location : Location} (below : location ≠ []) {entry : Entry}
    (kept : tree.lookup? location = some .directory → entry = .directory) :
    Grown tree (tree.put location entry) := by
  refine ⟨?_, ?_, ?_⟩
  · unfold FileTree.put
    split_ifs <;> rfl
  · intro other held
    rw [lookup?_put tree below]
    split_ifs with same
    · rw [same] at held
      rw [kept held]
    · exact held
  · intro other held
    rw [lookup?_put tree below]
    split_ifs
    · exact Option.some_ne_none _
    · exact held

/-! ## Paths -/

theorem walk_append (tree : FileTree) (here : Location) (first second : List (List Char)) :
    tree.walk here (first ++ second) =
      (tree.walk here first).bind fun location => tree.walk location second := by
  induction first generalizing here with
  | nil => rfl
  | cons name rest ih =>
    simp only [List.cons_append, walk]
    split
    · rfl
    · rfl
    · split_ifs
      · exact ih _
      · exact ih _
      · rfl
      · rfl
      · exact ih _

theorem Grown.walk (grown : Grown before after) {here location : Location}
    {names : List (List Char)} (walked : before.walk here names = .ok location) :
    after.walk here names = .ok location := by
  induction names generalizing here with
  | nil => exact walked
  | cons name rest ih =>
    unfold FileTree.walk at walked ⊢
    split at walked
    · contradiction
    · contradiction
    · next held =>
      rw [grown.directory here held]
      dsimp only
      split_ifs at walked ⊢ with dot dots long absent' absent
      · exact ih walked
      · exact ih walked
      · have held : before.lookup? (here ++ [name]) ≠ none := by simpa using absent
        exact (grown.present _ held (by simpa using absent')).elim
      · exact ih walked

theorem locate_ok_iff {location : Location} :
    tree.locate path = .ok location ↔
      pathFault? path = none ∧ tree.walk (tree.origin path) (names path) = .ok location ∧
        (endsInSlash path = true → tree.hasDirectory location = true) := by
  unfold locate
  cases pathFault? path with
  | some fault => simp
  | none =>
    cases tree.walk (tree.origin path) (names path) with
    | error fault => simp
    | ok found =>
      dsimp only
      constructor
      · intro located
        split_ifs at located with astray
        obtain rfl := Except.ok.inj located
        exact ⟨rfl, rfl, fun slash => by simpa [slash] using astray⟩
      · rintro ⟨-, same, directory⟩
        obtain rfl := Except.ok.inj same
        rw [if_neg]
        simpa using directory

theorem Grown.locate (grown : Grown before after) {location : Location}
    (located : before.locate path = .ok location) : after.locate path = .ok location := by
  rw [locate_ok_iff] at located ⊢
  obtain ⟨sound, walked, directory⟩ := located
  refine ⟨sound, ?_, fun slash => ?_⟩
  · rw [grown.origin]
    exact grown.walk walked
  · have held := directory slash
    unfold hasDirectory at held ⊢
    simp only [decide_eq_true_eq] at held ⊢
    exact grown.directory location held

/-- The slot of a path is a directory that exists, and the path leads through it. -/
theorem slot_ok {directory : Location} {name : List Char}
    (found : tree.slot path = .ok ⟨directory, some name⟩) :
    pathFault? path = none ∧ tree.walk (tree.origin path) (names path).dropLast = .ok directory ∧
      tree.lookup? directory = some .directory ∧ (names path).getLast? = some name ∧
      name ≠ ['.'] ∧ name ≠ ['.', '.'] := by
  unfold slot at found
  split at found
  · contradiction
  · next sound =>
    split at found
    · contradiction
    · next reached walked =>
      split at found
      · contradiction
      · contradiction
      · next held =>
        split at found
        · simp at found
        · next last ends =>
          simp only [Except.ok.injEq, Slot.mk.injEq] at found
          obtain ⟨rfl, named⟩ := found
          split_ifs at named with dots
          obtain rfl := Option.some.inj named
          have plain : last ≠ ['.'] ∧ last ≠ ['.', '.'] := by simpa using dots
          exact ⟨sound, walked, held, ends, plain⟩

theorem walk_single {here : Location} {name : List Char}
    (directory : tree.lookup? here = some .directory) (plain : name ≠ ['.'] ∧ name ≠ ['.', '.'])
    (short : isLong name = false) (present : tree.lookup? (here ++ [name]) ≠ none) :
    tree.walk here [name] = .ok (here ++ [name]) := by
  have there : (tree.lookup? (here ++ [name])).isNone = false :=
    Bool.eq_false_iff.mpr fun absent => present (Option.isNone_iff_eq_none.mp absent)
  simp only [walk, directory, plain.1, plain.2, short, there, if_false, Bool.false_eq_true]

theorem writeLocation_ok {location : Location} {executable : Bool}
    (found : tree.writeLocation path = .ok (location, executable)) :
    location ≠ [] ∧ tree.lookup? location ≠ some .directory ∧
      ∀ after, Grown tree after → after.lookup? location ≠ none →
        after.locate path = .ok location := by
  unfold writeLocation at found
  split at found
  · contradiction
  · contradiction
  · next directory name slot =>
    obtain ⟨sound, walked, held, ends, plain⟩ := slot_ok slot
    split_ifs at found with slash long
    have target : location = directory ++ [name] ∧ tree.lookup? (directory ++ [name]) ≠ some .directory := by
      split at found
      · next free =>
        simp only [Except.ok.injEq, Prod.mk.injEq] at found
        exact ⟨found.1.symm, by simp [free]⟩
      · contradiction
      · next content _ file =>
        simp only [Except.ok.injEq, Prod.mk.injEq] at found
        exact ⟨found.1.symm, by simp [file]⟩
    obtain ⟨rfl, notDirectory⟩ := target
    refine ⟨by simp, notDirectory, fun after grown present => ?_⟩
    rw [locate_ok_iff]
    refine ⟨sound, ?_, fun ended => (slash ended).elim⟩
    rw [grown.origin, ← List.dropLast_append_getLast? name ends, walk_append, grown.walk walked]
    exact walk_single (grown.directory _ held) plain (by simpa using long) present

/-! ## Writing -/

/-- A write that succeeds leaves its content where its path then leads to, and changes nothing else.
-/
theorem write_ok {content : List UInt8} (wrote : tree.write path content = .ok after) :
    Grown tree after ∧ ∃ location executable, after.locate path = .ok location ∧
      ∀ other, after.lookup? other =
        if other = location then some (.file content executable) else tree.lookup? other := by
  unfold write at wrote
  split at wrote
  · contradiction
  · next location executable found =>
    obtain rfl := Except.ok.inj wrote
    obtain ⟨below, notDirectory, leads⟩ := writeLocation_ok found
    have grown : Grown tree (tree.put location (.file content executable)) :=
      .put below fun directory => (notDirectory directory).elim
    have entries := lookup?_put tree below (.file content executable)
    refine ⟨grown, location, executable, leads _ grown ?_, entries⟩
    rw [entries, if_pos rfl]
    exact Option.some_ne_none _

theorem read_of_locate {location : Location} (located : tree.locate path = .ok location) :
    tree.read path =
      match tree.lookup? location with
      | none => .error .notFound
      | some .directory => .error .isADirectory
      | some (.file content _) => .ok content := by
  unfold read
  cases there : tree.lookup? location with
  | none => simp only [located, there]
  | some entry => cases entry <;> simp only [located, there]

/-- What was written is read back. -/
theorem read_write {content : List UInt8} (wrote : tree.write path content = .ok after) :
    after.read path = .ok content := by
  obtain ⟨_, location, executable, located, entries⟩ := write_ok wrote
  rw [read_of_locate located, entries, if_pos rfl]

/-- A path that led somewhere before a write leads there after it, and what is read there is what
was written if the two paths lead to one file, and otherwise what it was. -/
theorem read_after_write {content : List UInt8} {other : Path} {there : Location}
    (wrote : tree.write path content = .ok after) (located : tree.locate other = .ok there) :
    after.read other =
      if after.locate other = after.locate path then .ok content else tree.read other := by
  obtain ⟨grown, location, executable, leads, entries⟩ := write_ok wrote
  have still := grown.locate located
  rw [read_of_locate still, read_of_locate located, entries, still, leads]
  by_cases same : there = location
  · rw [if_pos same, if_pos (congrArg Except.ok same)]
  · rw [if_neg same, if_neg fun equal => same (Except.ok.inj equal)]

end FixtureHarness.FileTree
