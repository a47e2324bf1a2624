import FixtureHarness.Proofs.FileTree.Writing

/-! # Writing the same files again

Filling a file decides its content and nothing else: where paths lead and which files are executable
stay as they are. So after filling some files twice, the tree is the one that the second filling
alone would have made, down to the order of its entries.
-/

namespace FixtureHarness.FileTree

variable {tree before after : FileTree} {location other : Location} {path : Path}

/-! ## Putting something in the same place again -/

/-- The locations of the entries, in their order. -/
def keys (tree : FileTree) : List Location :=
  tree.entries.map (·.1)

/-- The entries with another one in the place of those at a location. -/
def replaced (location : Location) (entry : Entry) (entries : List (Location × Entry)) :
    List (Location × Entry) :=
  entries.map fun held => if held.1 = location then (location, entry) else held

theorem put_of_mem (held : location ∈ tree.keys) (entry : Entry) :
    tree.put location entry = { tree with entries := replaced location entry tree.entries } := by
  obtain ⟨own, member, same⟩ := List.mem_map.mp held
  rw [put, if_pos]
  · rfl
  · exact List.any_eq_true.mpr ⟨own, member, by simpa using same⟩

theorem put_of_not_mem (free : location ∉ tree.keys) (entry : Entry) :
    tree.put location entry = { tree with entries := tree.entries ++ [(location, entry)] } := by
  rw [put, if_neg]
  intro held
  obtain ⟨own, member, same⟩ := List.any_eq_true.mp held
  exact free (List.mem_map.mpr ⟨own, member, by simpa using same⟩)

theorem map_fst_replaced (location : Location) (entry : Entry) (entries : List (Location × Entry)) :
    (replaced location entry entries).map (·.1) = entries.map (·.1) := by
  rw [replaced, List.map_map]
  apply List.map_congr_left
  intro held _
  by_cases same : held.1 = location <;> simp [same]

theorem mem_keys_put (entry : Entry) :
    other ∈ (tree.put location entry).keys ↔ other = location ∨ other ∈ tree.keys := by
  by_cases held : location ∈ tree.keys
  · rw [put_of_mem held, keys, map_fst_replaced, ← keys]
    constructor
    · exact Or.inr
    · rintro (rfl | there)
      · exact held
      · exact there
  · rw [put_of_not_mem held, keys, List.map_append, List.mem_append, ← keys, or_comm]
    simp

theorem replaced_replaced (location : Location) (first second : Entry)
    (entries : List (Location × Entry)) :
    replaced location second (replaced location first entries) =
      replaced location second entries := by
  rw [replaced, replaced, List.map_map]
  apply List.map_congr_left
  intro held _
  by_cases same : held.1 = location <;> simp [same]

theorem replaced_of_not_mem {entries : List (Location × Entry)}
    (free : location ∉ entries.map (·.1)) (entry : Entry) :
    replaced location entry entries = entries := by
  rw [replaced, List.map_congr_left (g := id), List.map_id]
  intro held member
  rw [if_neg]
  · rfl
  · rintro rfl
    exact free (List.mem_map.mpr ⟨held, member, rfl⟩)

theorem replaced_comm (apart : location ≠ other) (entry second : Entry)
    (entries : List (Location × Entry)) :
    replaced location entry (replaced other second entries) =
      replaced other second (replaced location entry entries) := by
  simp only [replaced, List.map_map]
  apply List.map_congr_left
  intro held _
  by_cases here : held.1 = location
  · simp [here, apart]
  · by_cases there : held.1 = other <;> simp [here, there, Ne.symm apart]

/-- The second thing put somewhere is what is there. -/
theorem put_put (tree : FileTree) (location : Location) (first second : Entry) :
    (tree.put location first).put location second = tree.put location second := by
  have held : location ∈ (tree.put location first).keys := (mem_keys_put first).mpr (.inl rfl)
  rw [put_of_mem held]
  by_cases before : location ∈ tree.keys
  · simp only [put_of_mem before, replaced_replaced]
  · have own : replaced location second [(location, first)] = [(location, second)] := by
      simp [replaced]
    have same := replaced_of_not_mem before second
    simp only [put_of_not_mem before, replaced, List.map_append] at own same ⊢
    rw [own, same]

/-- What is put in the place of something may as well be put there earlier. -/
theorem put_comm (held : location ∈ tree.keys) (apart : location ≠ other) (entry second : Entry) :
    (tree.put other second).put location entry = (tree.put location entry).put other second := by
  rw [put_of_mem ((mem_keys_put second).mpr (.inr held))]
  by_cases there : other ∈ tree.keys
  · rw [put_of_mem there, put_of_mem ((mem_keys_put entry).mpr (.inr there)), put_of_mem held,
      replaced_comm apart]
  · have free : other ∉ (tree.put location entry).keys := by
      rw [mem_keys_put]
      rintro (rfl | member)
      · exact apart rfl
      · exact there member
    rw [put_of_not_mem there, put_of_not_mem free, put_of_mem held]
    simp [replaced, Ne.symm apart]

/-! ## Filling files -/

/-- Whether the file at a location is executable. -/
def isExecutable (tree : FileTree) (location : Location) : Bool :=
  match tree.lookup? location with
  | some (.file _ executable) => executable
  | _ => false

/-- Gives the file at a location a content, with a new file where there is none. -/
def fill (tree : FileTree) (location : Location) (content : List UInt8) : FileTree :=
  tree.put location (.file content (tree.isExecutable location))

theorem isExecutable_fill (tree : FileTree) (below : location ≠ []) (content : List UInt8)
    (other : Location) : (tree.fill location content).isExecutable other = tree.isExecutable other := by
  rw [isExecutable, fill, lookup?_put tree below]
  split_ifs with same
  · rw [same]
  · rfl

/-- Fills files one after the other. -/
def fillAll : FileTree → List Location → List (List UInt8) → FileTree
  | tree, location :: places, content :: contents =>
    fillAll (tree.fill location content) places contents
  | tree, _, _ => tree

theorem fill_fill (tree : FileTree) (below : location ≠ []) (first second : List UInt8) :
    (tree.fill location first).fill location second = tree.fill location second := by
  rw [fill, isExecutable_fill tree below, fill, put_put, ← fill]

theorem fill_comm (held : location ∈ tree.keys) (below : location ≠ []) (otherBelow : other ≠ [])
    (apart : location ≠ other) (content second : List UInt8) :
    (tree.fill other second).fill location content =
      (tree.fill location content).fill other second := by
  rw [fill, isExecutable_fill tree otherBelow, fill, put_comm held apart]
  rw [fill, isExecutable_fill tree below, fill]

theorem mem_keys_fill (content : List UInt8) :
    other ∈ (tree.fill location content).keys ↔ other = location ∨ other ∈ tree.keys :=
  mem_keys_put _

theorem mem_keys_fillAll {places : List Location} (contents : List (List UInt8))
    (held : location ∈ tree.keys) : location ∈ (fillAll tree places contents).keys := by
  induction places generalizing tree contents with
  | nil => exact held
  | cons place places ih =>
    cases contents with
    | nil => exact held
    | cons content contents => exact ih contents ((mem_keys_fill content).mpr (.inr held))

variable {places : List Location} {contents : List (List UInt8)}

/-- A file that is filled again later may be filled with anything before. -/
theorem fillAll_fill_of_mem (member : location ∈ places) (held : location ∈ tree.keys)
    (below : ∀ place ∈ places, place ≠ []) (counted : places.length = contents.length)
    (content : List UInt8) :
    fillAll (tree.fill location content) places contents = fillAll tree places contents := by
  induction places generalizing tree contents with
  | nil => exact (List.not_mem_nil member).elim
  | cons place places ih =>
    cases contents with
    | nil => simp at counted
    | cons next contents =>
      have own : location ≠ [] := below location member
      have here : place ≠ [] := below place (List.mem_cons_self ..)
      rw [fillAll, fillAll]
      by_cases same : location = place
      · rw [← same, fill_fill tree own]
      · rw [← fill_comm held own here same]
        exact ih ((List.mem_cons.mp member).resolve_left same)
          ((mem_keys_fill next).mpr (.inr held))
          (fun other there => below other (List.mem_cons_of_mem _ there))
          (Nat.succ.inj counted)

/-- A file that is there and is filled at the end may as well be filled at the beginning, if it is
not filled between. -/
theorem fill_fillAll_of_not_mem (absent : location ∉ places) (held : location ∈ tree.keys)
    (own : location ≠ []) (below : ∀ place ∈ places, place ≠ []) (content : List UInt8) :
    (fillAll tree places contents).fill location content =
      fillAll (tree.fill location content) places contents := by
  induction places generalizing tree contents with
  | nil => rfl
  | cons place places ih =>
    cases contents with
    | nil => rfl
    | cons next contents =>
      have apart : location ≠ place := List.ne_of_not_mem_cons absent
      have later : location ∉ places := List.not_mem_of_not_mem_cons absent
      rw [fillAll, fillAll, ← fill_comm held own (below place (List.mem_cons_self ..)) apart]
      exact ih later ((mem_keys_fill next).mpr (.inr held))
        fun other there => below other (List.mem_cons_of_mem _ there)

/-- Filling the same files twice leaves what the second time alone would have left. -/
theorem fillAll_fillAll {first second : List (List UInt8)}
    (below : ∀ place ∈ places, place ≠ []) (firstCounted : places.length = first.length)
    (secondCounted : places.length = second.length) :
    fillAll (fillAll tree places first) places second = fillAll tree places second := by
  induction places generalizing tree first second with
  | nil => rfl
  | cons place places ih =>
    cases first with
    | nil => simp at firstCounted
    | cons old first =>
      cases second with
      | nil => simp at secondCounted
      | cons new second =>
        have own : place ≠ [] := below place (List.mem_cons_self ..)
        have later (other : Location) (there : other ∈ places) : other ≠ [] :=
          below other (List.mem_cons_of_mem _ there)
        have held : place ∈ (tree.fill place old).keys := (mem_keys_fill old).mpr (.inl rfl)
        simp only [List.length_cons, Nat.add_right_cancel_iff] at firstCounted secondCounted
        rw [fillAll, fillAll, fillAll, ← fill_fill tree own old new]
        by_cases again : place ∈ places
        · rw [fillAll_fill_of_mem again (mem_keys_fillAll first held) later secondCounted,
            fillAll_fill_of_mem again held later secondCounted]
          exact ih later firstCounted secondCounted
        · rw [fill_fillAll_of_not_mem again held own later]
          exact ih later firstCounted secondCounted

/-! ## Where files are written -/

/-- A tree that grew by files only, and in which no file became executable or ceased to be. -/
structure Filled (before after : FileTree) : Prop extends Grown before after where
  noDirectory : ∀ location, after.lookup? location = some .directory →
    before.lookup? location = some .directory
  executable : ∀ location, after.isExecutable location = before.isExecutable location

theorem Filled.refl (tree : FileTree) : Filled tree tree :=
  ⟨.refl tree, fun _ held => held, fun _ => rfl⟩

theorem Filled.trans {middle : FileTree} (first : Filled before middle)
    (second : Filled middle after) : Filled before after :=
  ⟨first.toGrown.trans second.toGrown,
    fun location held => first.noDirectory location (second.noDirectory location held),
    fun location => (second.executable location).trans (first.executable location)⟩

/-- Filling a file where no directory lies is such a growth. -/
theorem Filled.of_fill (below : location ≠ []) (free : tree.lookup? location ≠ some .directory)
    (content : List UInt8) : Filled tree (tree.fill location content) := by
  refine ⟨.put below fun held => (free held).elim, ?_, isExecutable_fill tree below content⟩
  intro other held
  rw [FileTree.fill, lookup?_put tree below] at held
  split_ifs at held
  · cases held
  · exact held

/-- A file may be filled differently in a tree that grew by files. -/
theorem Filled.fill (filled : Filled before after) (below : location ≠ [])
    (free : before.lookup? location ≠ some .directory) (first second : List UInt8) :
    Filled (before.fill location first) (after.fill location second) := by
  have stillFree : after.lookup? location ≠ some .directory :=
    fun held => free (filled.noDirectory location held)
  refine ⟨⟨?_, ?_, ?_⟩, ?_, ?_⟩
  · have kept (tree : FileTree) (content : List UInt8) :
        (tree.fill location content).working = tree.working := by
      unfold FileTree.fill put
      split_ifs <;> rfl
    rw [kept, kept, filled.working]
  · intro other held
    rw [FileTree.fill, lookup?_put _ below] at held ⊢
    split_ifs at held ⊢
    · cases held
    · exact filled.directory other held
  · intro other held
    rw [FileTree.fill, lookup?_put _ below] at held ⊢
    split_ifs at held ⊢
    · exact Option.some_ne_none _
    · exact filled.present other held
  · intro other held
    rw [FileTree.fill, lookup?_put _ below] at held ⊢
    split_ifs at held ⊢
    · cases held
    · exact filled.noDirectory other held
  · intro other
    rw [isExecutable_fill _ below, isExecutable_fill _ below, filled.executable]

/-- A file is written in a slot with a name, where no directory lies, and it stays as executable as
it was. -/
theorem writeLocation_eq_ok_iff {executable : Bool} :
    tree.writeLocation path = .ok (location, executable) ↔
      ∃ directory name, tree.slot path = .ok ⟨directory, some name⟩ ∧ endsInSlash path = false ∧
        isLong name = false ∧ location = directory ++ [name] ∧
        tree.lookup? location ≠ some .directory ∧ executable = tree.isExecutable location := by
  constructor
  · intro found
    obtain ⟨_, free, _⟩ := writeLocation_ok found
    unfold writeLocation at found
    split at found
    · contradiction
    · contradiction
    · next directory name slot =>
      split_ifs at found with slash long
      refine ⟨directory, name, slot, by simpa using slash, by simpa using long, ?_⟩
      split at found
      all_goals simp only [Except.ok.injEq, Prod.mk.injEq, reduceCtorEq] at found
      · next absent =>
        obtain ⟨rfl, rfl⟩ := found
        exact ⟨rfl, free, by simp only [isExecutable, absent]⟩
      · next file =>
        obtain ⟨rfl, rfl⟩ := found
        exact ⟨rfl, free, by simp only [isExecutable, file]⟩
  · rintro ⟨directory, name, slot, slash, long, rfl, free, rfl⟩
    simp only [writeLocation, slot, slash, long, isExecutable, Bool.false_eq_true, if_false]
    cases held : tree.lookup? (directory ++ [name]) with
    | none => rfl
    | some entry =>
      cases entry with
      | directory => exact (free held).elim
      | file content executable => rfl

/-- A slot stays the slot of a path. -/
theorem Grown.slot (grown : Grown before after) {directory : Location} {name : List Char}
    (found : before.slot path = .ok ⟨directory, some name⟩) :
    after.slot path = .ok ⟨directory, some name⟩ := by
  obtain ⟨sound, walked, held, ends, plain⟩ := slot_ok found
  have dots : (decide (name = ['.']) || decide (name = ['.', '.'])) = false := by simp [plain]
  simp only [FileTree.slot, sound, grown.origin, grown.walk walked, grown.directory _ held, ends, dots,
    Bool.false_eq_true, if_false]

/-- A file that can be written can still be written, at the same location, in a tree that grew by
files. -/
theorem Filled.writeLocation (filled : Filled before after) {executable : Bool}
    (found : before.writeLocation path = .ok (location, executable)) :
    after.writeLocation path = .ok (location, executable) := by
  rw [writeLocation_eq_ok_iff] at found ⊢
  obtain ⟨directory, name, slot, slash, long, there, free, same⟩ := found
  exact ⟨directory, name, filled.toGrown.slot slot, slash, long, there,
    fun held => free (filled.noDirectory location held), same.trans (filled.executable location).symm⟩

/-- Writing a file fills it. -/
theorem write_eq_ok_iff {content : List UInt8} :
    tree.write path content = .ok after ↔
      ∃ location executable, tree.writeLocation path = .ok (location, executable) ∧
        after = tree.fill location content := by
  unfold write
  cases found : tree.writeLocation path with
  | error fault => simp
  | ok place =>
    obtain ⟨location, executable⟩ := place
    obtain ⟨_, _, _, _, _, _, _, same⟩ := writeLocation_eq_ok_iff.mp found
    simp only [Except.ok.injEq, Prod.mk.injEq, fill]
    constructor
    · rintro rfl
      exact ⟨location, executable, ⟨rfl, rfl⟩, by rw [← same]⟩
    · rintro ⟨_, _, ⟨rfl, rfl⟩, rfl⟩
      rw [← same]

end FixtureHarness.FileTree
