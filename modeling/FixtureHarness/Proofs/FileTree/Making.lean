import FixtureHarness.Proofs.FileTree.Writing

/-! # Making directories

A directory that was made with all that is missing above it is there from then on. Making it again,
in whatever the tree has grown to, changes nothing.
-/

namespace FixtureHarness.FileTree

variable {tree before after : FileTree} {location : Location} {path : Path}

theorem isDirectory_iff :
    tree.isDirectory path = true ↔
      ∃ location, tree.locate path = .ok location ∧ tree.lookup? location = some .directory := by
  unfold isDirectory find?
  cases tree.locate path <;> simp

theorem Grown.isDirectory (grown : Grown before after) (there : before.isDirectory path = true) :
    after.isDirectory path = true := by
  rw [isDirectory_iff] at there ⊢
  obtain ⟨location, located, held⟩ := there
  exact ⟨location, grown.locate located, grown.directory location held⟩

/-- The last name of a path that leads somewhere is followed from a directory. -/
theorem walk_concat {here : Location} {first : List (List Char)} {last : List Char}
    (walked : tree.walk here (first ++ [last]) = .ok location) :
    ∃ directory, tree.walk here first = .ok directory ∧
      tree.lookup? directory = some .directory ∧
      (last = ['.'] ∨ last = ['.', '.'] ∨
        isLong last = false ∧ location = directory ++ [last] ∧
          (tree.lookup? location).isSome = true) := by
  rw [walk_append] at walked
  cases reached : tree.walk here first with
  | error fault =>
    rw [reached] at walked
    cases walked
  | ok directory =>
    rw [reached] at walked
    simp only [Except.bind, walk] at walked
    refine ⟨directory, rfl, ?_⟩
    split at walked
    · cases walked
    · cases walked
    · next held =>
      refine ⟨held, ?_⟩
      split_ifs at walked with dot dots long absent
      · exact .inl dot
      · exact .inr (.inl dots)
      · obtain rfl := Except.ok.inj walked
        exact .inr (.inr ⟨by simpa using long, rfl,
          Option.isSome_iff_ne_none.mpr (by simpa using absent)⟩)

/-- No directory is made where something lies already. -/
theorem makeDirectory_of_isDirectory (there : tree.isDirectory path = true) :
    tree.makeDirectory path = .error .alreadyExists := by
  obtain ⟨location, located, held⟩ := isDirectory_iff.mp there
  obtain ⟨sound, walked, _⟩ := locate_ok_iff.mp located
  rcases List.eq_nil_or_concat (names path) with none | ⟨first, last, named⟩
  · rw [none, walk] at walked
    obtain rfl := Except.ok.inj walked
    simp only [makeDirectory, slot, sound, none, List.dropLast_nil, walk, held,
      List.getLast?_nil]
  · rw [named, List.concat_eq_append] at walked
    obtain ⟨directory, reached, within, last⟩ := walk_concat walked
    simp only [makeDirectory, slot, sound, named, List.concat_eq_append, List.dropLast_concat,
      reached, within, List.getLast?_concat]
    rcases last with rfl | rfl | ⟨short, rfl, present⟩
    · rfl
    · rfl
    · by_cases dots : (decide (last = ['.']) || decide (last = ['.', '.'])) = true
      · simp only [dots, if_true]
      · simp only [dots, short, present, Bool.false_eq_true, if_false, if_true]

/-- A directory is made where nothing lies, and the path leads to it from then on. -/
theorem makeDirectory_made (made : tree.makeDirectory path = .ok after) :
    ∃ location, location ≠ [] ∧ tree.lookup? location = none ∧
      after = tree.put location .directory ∧ after.locate path = .ok location := by
  unfold makeDirectory at made
  split at made
  · cases made
  · cases made
  · next directory name found =>
    split_ifs at made with long present
    obtain rfl := Except.ok.inj made
    obtain ⟨sound, walked, held, ends, plain⟩ := slot_ok found
    have below : directory ++ [name] ≠ [] := by simp
    have grown : Grown tree (tree.put (directory ++ [name]) .directory) :=
      .put below fun _ => rfl
    have own : (tree.put (directory ++ [name]) .directory).lookup? (directory ++ [name]) =
        some .directory := by
      rw [lookup?_put tree below, if_pos rfl]
    refine ⟨directory ++ [name], below, by simpa using present, rfl, ?_⟩
    rw [locate_ok_iff]
    refine ⟨sound, ?_, fun _ => by simp [hasDirectory, own]⟩
    rw [grown.origin, ← List.dropLast_append_getLast? name ends, walk_append, grown.walk walked]
    exact walk_single (grown.directory _ held) plain (by simpa using long) (by simp [own])

/-- A directory that was made is there. -/
theorem makeDirectory_ok (made : tree.makeDirectory path = .ok after) :
    Grown tree after ∧ after.isDirectory path = true := by
  obtain ⟨location, below, _, rfl, located⟩ := makeDirectory_made made
  have own : (tree.put location .directory).lookup? location = some .directory := by
    rw [lookup?_put tree below, if_pos rfl]
  exact ⟨.put below fun _ => rfl, isDirectory_iff.mpr ⟨location, located, own⟩⟩

theorem ensureDirectory_of_isDirectory (there : tree.isDirectory path = true) :
    tree.ensureDirectory path = .ok tree := by
  simp [ensureDirectory, makeDirectory_of_isDirectory there, there]

theorem ensureDirectory_ok (ensured : tree.ensureDirectory path = .ok after) :
    Grown tree after ∧ after.isDirectory path = true := by
  unfold ensureDirectory at ensured
  split at ensured
  · next made =>
    obtain rfl := Except.ok.inj ensured
    exact makeDirectory_ok made
  · split_ifs at ensured with there
    obtain rfl := Except.ok.inj ensured
    simp only [Bool.and_eq_true] at there
    exact ⟨.refl tree, there.2⟩

theorem ensureAll_ok {paths : List Path} (ensured : tree.ensureAll paths = (after, none)) :
    Grown tree after ∧ ∀ path ∈ paths, after.isDirectory path = true := by
  induction paths generalizing tree with
  | nil =>
    obtain rfl := (Prod.mk.inj ensured).1
    exact ⟨.refl tree, by simp⟩
  | cons path rest ih =>
    unfold ensureAll at ensured
    split at ensured
    · next made one =>
      obtain ⟨grown, there⟩ := ensureDirectory_ok one
      obtain ⟨later, others⟩ := ih ensured
      exact ⟨grown.trans later, List.forall_mem_cons.mpr ⟨later.isDirectory there, others⟩⟩
    · cases ensured

/-- The first of the paths to be made is there in the end, and so are all that were missing. -/
theorem ensureFrom_ok {paths missing : List Path}
    (ensured : tree.ensureFrom paths missing = (after, none)) :
    Grown tree after ∧ ∀ path ∈ paths.head?.toList ++ missing, after.isDirectory path = true := by
  induction paths generalizing missing with
  | nil => exact ensureAll_ok ensured
  | cons path rest ih =>
    unfold ensureFrom at ensured
    split at ensured
    · next made one =>
      obtain ⟨grown, there⟩ := ensureDirectory_ok one
      obtain ⟨later, others⟩ := ensureAll_ok ensured
      exact ⟨grown.trans later, List.forall_mem_cons.mpr ⟨later.isDirectory there, others⟩⟩
    · obtain ⟨grown, all⟩ := ih ensured
      refine ⟨grown, fun other member => all other ?_⟩
      exact List.mem_append_right _ member
    · cases ensured

/-- A directory that was made with all above it need not be made again, however the tree grew. -/
theorem ensureTree_of_grown {made : FileTree} (ensured : tree.ensureTree path = (made, none))
    (grown : Grown made after) : after.ensureTree path = (after, none) := by
  unfold ensureTree at ensured ⊢
  obtain ⟨_, all⟩ := ensureFrom_ok ensured
  cases ancestry : ancestors (path.text.length + 1) path with
  | nil => rfl
  | cons first rest =>
    have there : made.isDirectory first = true := all first (by simp [ancestry])
    simp only [ensureFrom, ensureDirectory_of_isDirectory (grown.isDirectory there), ensureAll]

end FixtureHarness.FileTree
