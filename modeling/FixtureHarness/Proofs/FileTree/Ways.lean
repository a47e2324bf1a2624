import FixtureHarness.Proofs.FileTree.Making
import FixtureHarness.Proofs.Path.Parents

/-! # What making directories changes

Making a directory with all that are missing above it adds directories and nothing else, also when
it fails on the way: each new one lies where some first names of the path lead. In the end the names
of the path lead to a directory. The empty path, for which nothing is made, stands for the working
directory.
-/

namespace FixtureHarness.FileTree

variable {tree before middle after : FileTree} {path way : Path} {location : Location}
  {places : Location → Prop}

/-- A directory was made on the way that a path goes: nothing was there before, and some first names
of the path lead there. -/
structure MadeOnWay (before after : FileTree) (way : Path) (location : Location) : Prop where
  absent : before.lookup? location = none
  made : after.lookup? location = some .directory
  leads : ∃ first, first <+: names way ∧ after.walk (after.origin way) first = .ok location

/-- Outside some places all is as before, but for directories made on the way that a path goes. -/
def KeptBut (before after : FileTree) (way : Path) (places : Location → Prop) : Prop :=
  ∀ location, ¬ places location →
    after.lookup? location = before.lookup? location ∨ MadeOnWay before after way location

/-- The names of a path lead to a directory, however long the path is. -/
def LeadsToDirectory (tree : FileTree) (path : Path) : Prop :=
  ∃ location, tree.walk (tree.origin path) (names path) = .ok location ∧
    tree.lookup? location = some .directory

theorem KeptBut.of_same (same : ∀ location, ¬ places location →
    after.lookup? location = before.lookup? location) : KeptBut before after way places :=
  fun location outside => .inl (same location outside)

theorem KeptBut.refl (tree : FileTree) : KeptBut tree tree way places :=
  .of_same fun _ _ => rfl

theorem KeptBut.mono {more : Location → Prop} (kept : KeptBut before after way places)
    (within : ∀ location, places location → more location) : KeptBut before after way more :=
  fun location outside => kept location fun inside => outside (within location inside)

/-- What a tree that grows keeps twice it keeps at once. -/
theorem KeptBut.trans (first : KeptBut before middle way places)
    (second : KeptBut middle after way places) (grown : Grown middle after) :
    KeptBut before after way places := by
  intro location outside
  rcases first location outside with same | ⟨absent, made, names, starts, leads⟩
  · rcases second location outside with still | ⟨absent, made, leads⟩
    · exact .inl (still.trans same)
    · exact .inr ⟨same.symm.trans absent, made, leads⟩
  · refine .inr ⟨absent, grown.directory location made, names, starts, ?_⟩
    rw [grown.origin]
    exact grown.walk leads

/-- The way of a path goes where the way of a path above it goes. -/
theorem KeptBut.of_ancestor (kept : KeptBut before after path places)
    (starts : names path <+: names way) (origin : after.origin path = after.origin way) :
    KeptBut before after way places := by
  intro location outside
  rcases kept location outside with same | ⟨absent, made, first, begins, leads⟩
  · exact .inl same
  · exact .inr ⟨absent, made, first, begins.trans starts, origin ▸ leads⟩

theorem LeadsToDirectory.of_isDirectory (there : tree.isDirectory path = true) :
    tree.LeadsToDirectory path := by
  obtain ⟨location, located, held⟩ := isDirectory_iff.mp there
  exact ⟨location, (locate_ok_iff.mp located).2.1, held⟩

theorem Grown.leadsToDirectory (grown : Grown before after)
    (leads : before.LeadsToDirectory path) : after.LeadsToDirectory path := by
  obtain ⟨location, walked, held⟩ := leads
  refine ⟨location, ?_, grown.directory location held⟩
  rw [grown.origin]
  exact grown.walk walked

/-! ## Paths above a path -/

theorem ancestors_of_empty (empty : path.text.toList = []) (fuel : Nat) :
    ancestors fuel path = [] := by
  have none : path.text.isEmpty = true := by simpa using empty
  cases fuel with
  | zero => rfl
  | succ fuel =>
    rw [ancestors]
    cases path.parent? with
    | none => rfl
    | some parent => simp [none]

theorem of_mem_ancestors {fuel : Nat} {ancestor : Path} (member : ancestor ∈ ancestors fuel path) :
    names ancestor <+: names path ∧ ancestor.isAbsolute = path.isAbsolute := by
  induction fuel generalizing path with
  | zero => exact (List.not_mem_nil member).elim
  | succ fuel ih =>
    rw [ancestors] at member
    cases found : path.parent? with
    | none =>
      rw [found] at member
      exact (List.not_mem_nil member).elim
    | some parent =>
      rw [found] at member
      split_ifs at member
      · exact (List.not_mem_nil member).elim
      · rcases List.mem_cons.mp member with rfl | above
        · exact ⟨List.prefix_rfl, rfl⟩
        · have there : parent.text.toList ≠ [] := by
            intro empty
            rw [ancestors_of_empty empty] at above
            exact List.not_mem_nil above
          obtain ⟨starts, same⟩ := ih above
          exact ⟨starts.trans (Path.names_parent? found),
            same.trans (Path.isAbsolute_parent? found there)⟩

/-! ## Making directories -/

/-- A tree that grew by directories on the way that a path goes. -/
structure Paved (before after : FileTree) (way : Path) : Prop extends Grown before after where
  kept : KeptBut before after way fun _ => False

theorem Paved.refl (tree : FileTree) : Paved tree tree way :=
  ⟨.refl tree, .refl tree⟩

theorem Paved.trans (first : Paved before middle way) (second : Paved middle after way) :
    Paved before after way :=
  ⟨first.toGrown.trans second.toGrown, first.kept.trans second.kept second.toGrown⟩

theorem makeDirectory_paved (made : tree.makeDirectory path = .ok after) :
    Paved tree after path := by
  obtain ⟨location, below, absent, rfl, located⟩ := makeDirectory_made made
  refine ⟨.put below fun _ => rfl, fun other _ => ?_⟩
  rw [lookup?_put tree below]
  split_ifs with here
  · rw [here]
    refine .inr ⟨absent, ?_, names path, List.prefix_rfl, (locate_ok_iff.mp located).2.1⟩
    rw [lookup?_put tree below, if_pos rfl]
  · exact .inl rfl

theorem ensureDirectory_paved (ensured : tree.ensureDirectory path = .ok after) :
    Paved tree after path := by
  unfold ensureDirectory at ensured
  split at ensured
  · next made =>
    obtain rfl := Except.ok.inj ensured
    exact makeDirectory_paved made
  · split_ifs at ensured
    obtain rfl := Except.ok.inj ensured
    exact .refl tree

/-- A path whose way is part of the way of another one. -/
def IsOnWay (way path : Path) : Prop :=
  names path <+: names way ∧ path.isAbsolute = way.isAbsolute

theorem Paved.of_isOnWay (paved : Paved before after path) (onWay : IsOnWay way path) :
    Paved before after way := by
  have origin : after.origin path = after.origin way := by
    rw [FileTree.origin, FileTree.origin, onWay.2]
  exact ⟨paved.toGrown, paved.kept.of_ancestor onWay.1 origin⟩

theorem ensureAll_paved {paths : List Path} (onWay : ∀ path ∈ paths, IsOnWay way path) :
    Paved tree (tree.ensureAll paths).1 way := by
  induction paths generalizing tree with
  | nil => exact .refl tree
  | cons path rest ih =>
    rw [List.forall_mem_cons] at onWay
    unfold ensureAll
    split
    · next made ensured =>
      exact ((ensureDirectory_paved ensured).of_isOnWay onWay.1).trans (ih onWay.2)
    · exact .refl tree

theorem ensureFrom_paved {paths missing : List Path} (onWay : ∀ path ∈ paths, IsOnWay way path)
    (missingOnWay : ∀ path ∈ missing, IsOnWay way path) :
    Paved tree (tree.ensureFrom paths missing).1 way := by
  induction paths generalizing missing with
  | nil => exact ensureAll_paved missingOnWay
  | cons path rest ih =>
    rw [List.forall_mem_cons] at onWay
    unfold ensureFrom
    split
    · next made ensured =>
      exact ((ensureDirectory_paved ensured).of_isOnWay onWay.1).trans
        (ensureAll_paved missingOnWay)
    · exact ih onWay.2 (List.forall_mem_cons.mpr ⟨onWay.1, missingOnWay⟩)
    · exact .refl tree

/-- Whether or not a directory can be made with all above it, what changes is that directories are
added on the way to it. -/
theorem ensureTree_paved (tree : FileTree) (path : Path) :
    Paved tree (tree.ensureTree path).1 path :=
  ensureFrom_paved (fun _ member => of_mem_ancestors member)
    (fun _ member => (List.not_mem_nil member).elim)

theorem walk_dots {dots : List (List Char)} (only : ∀ name ∈ dots, name = ['.']) :
    tree.walk [] dots = .ok [] := by
  induction dots with
  | nil => rfl
  | cons name rest ih =>
    obtain ⟨rfl, later⟩ := List.forall_mem_cons.mp only
    exact ih later

/-- A directory that was made with all above it is there. Of the empty path this holds if there is a
working directory. -/
theorem ensureTree_leadsToDirectory (ensured : tree.ensureTree path = (after, none))
    (working : path = Path.empty → tree.hasDirectory tree.working = true) :
    after.LeadsToDirectory path := by
  unfold ensureTree at ensured
  obtain ⟨grown, all⟩ := ensureFrom_ok ensured
  cases found : path.parent? with
  | none =>
    apply grown.leadsToDirectory
    rcases Path.parent?_eq_none found with empty | ⟨absolute, dots⟩
    · have none : path = Path.empty := by
        rw [Path.empty, Path.mk.injEq]
        exact String.toList_eq_nil_iff.mp empty
      rw [none] at working ⊢
      exact ⟨tree.working, rfl, by simpa [hasDirectory] using working rfl⟩
    · refine ⟨[], ?_, rfl⟩
      rw [origin, if_pos absolute]
      exact walk_dots dots
  | some parent =>
    by_cases none : path.text.isEmpty = true
    · have empty : path = Path.empty := by
        rw [Path.empty, Path.mk.injEq]
        simpa using none
      rw [empty] at found
      cases found
    · apply LeadsToDirectory.of_isDirectory
      apply all
      rw [ancestors, found]
      simp [none]

end FixtureHarness.FileTree
