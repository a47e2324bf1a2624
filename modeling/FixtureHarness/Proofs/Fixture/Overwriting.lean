import FixtureHarness.Proofs.FileTree.Making
import FixtureHarness.Proofs.FileTree.Overwriting
import FixtureHarness.Proofs.Fixture.Pages

/-! # Writing one fixture over another

Whether a fixture can be written depends on the tree and not on its texts. A fixture that is written
over another leaves the tree that it would have left on its own: nothing of the other stays, however
the names collide and whether or not the directory was there before.
-/

namespace FixtureHarness.FixtureWriter

/-- Pages are written at locations, one after the other. -/
def Lands : FileTree → List (Path × String) → List Location → Prop
  | _, [], [] => True
  | tree, (path, text) :: pages, location :: places =>
    (∃ executable, tree.writeLocation path = .ok (location, executable)) ∧
      Lands (tree.fill location (Utf8.bytesOf text)) pages places
  | _, _, _ => False

/-- The bytes of pages. -/
def contents (pages : List (Path × String)) : List (List UInt8) :=
  pages.map fun page => Utf8.bytesOf page.2

variable {tree before after : FileTree} {pages first second : List (Path × String)}
  {places : List Location}

theorem Lands.below (lands : Lands tree pages places) : ∀ place ∈ places, place ≠ [] := by
  induction pages generalizing tree places with
  | nil =>
    cases places with
    | nil => simp
    | cons place places => exact lands.elim
  | cons page pages ih =>
    cases places with
    | nil => exact lands.elim
    | cons place places =>
      obtain ⟨⟨_, found⟩, later⟩ := lands
      exact List.forall_mem_cons.mpr ⟨(FileTree.writeLocation_ok found).1, ih later⟩

theorem Lands.length (lands : Lands tree pages places) : places.length = pages.length := by
  induction pages generalizing tree places with
  | nil =>
    cases places with
    | nil => rfl
    | cons place places => exact lands.elim
  | cons page pages ih =>
    cases places with
    | nil => exact lands.elim
    | cons place places => exact congrArg Nat.succ (ih lands.2)

/-- Other texts go to the same locations, also in a tree that grew by files. -/
theorem Lands.of_filled (filled : before.Filled after) (lands : Lands before first places)
    (targets : first.map (·.1) = second.map (·.1)) : Lands after second places := by
  induction first generalizing before after second places with
  | nil =>
    obtain rfl := List.map_eq_nil_iff.mp targets.symm
    cases places with
    | nil => trivial
    | cons place places => exact lands.elim
  | cons page first ih =>
    cases second with
    | nil => cases targets
    | cons other second =>
      cases places with
      | nil => exact lands.elim
      | cons place places =>
        obtain ⟨⟨executable, found⟩, later⟩ := lands
        obtain ⟨same, rest⟩ := List.cons.inj targets
        dsimp only at same
        obtain ⟨below, free, _⟩ := FileTree.writeLocation_ok found
        refine ⟨⟨executable, ?_⟩, ih (filled.fill below free _ _) later rest⟩
        rw [← same]
        exact filled.writeLocation found

theorem Lands.filled (lands : Lands tree pages places) :
    tree.Filled (tree.fillAll places (contents pages)) := by
  induction pages generalizing tree places with
  | nil =>
    cases places with
    | nil => exact .refl tree
    | cons place places => exact lands.elim
  | cons page pages ih =>
    cases places with
    | nil => exact lands.elim
    | cons place places =>
      obtain ⟨⟨_, found⟩, later⟩ := lands
      obtain ⟨below, free, _⟩ := FileTree.writeLocation_ok found
      exact (FileTree.Filled.of_fill below free _).trans (ih later)

variable {writer : FixtureWriter} {fixture other : Fixture}

/-- A fixture is written by making the directory and filling the files of its pages. -/
theorem writes_iff_lands :
    writer.Writes fixture before after ↔
      ∃ made places, before.ensureTree writer.directory = (made, none) ∧
        Lands made (writer.pages fixture) places ∧
        after = made.fillAll places (contents (writer.pages fixture)) := by
  simp only [Writes, WritesTexts, FileTree.writeText, FileTree.write_eq_ok_iff]
  constructor
  · rintro ⟨made, _, _, directory, ⟨script, _, scriptFound, rfl⟩, ⟨input, _, inputFound, rfl⟩,
      ⟨output, _, outputFound, rfl⟩⟩
    exact ⟨made, [script, input, output], directory,
      ⟨⟨_, scriptFound⟩, ⟨_, inputFound⟩, ⟨_, outputFound⟩, trivial⟩, rfl⟩
  · rintro ⟨made, places, directory, lands, rfl⟩
    obtain ⟨script, input, output, rfl⟩ := List.length_eq_three.mp lands.length
    obtain ⟨⟨_, scriptFound⟩, ⟨_, inputFound⟩, ⟨_, outputFound⟩, _⟩ := lands
    exact ⟨made, _, _, directory, ⟨script, _, scriptFound, rfl⟩, ⟨input, _, inputFound, rfl⟩,
      ⟨output, _, outputFound, rfl⟩⟩

/-- Where one fixture can be written any other can, and then it makes no difference whether the one
was written before: the tree is the same. -/
theorem Writes.overwrite (writes : writer.Writes fixture before after) (other : Fixture) :
    ∃ final, writer.Writes other before final ∧ writer.Writes other after final := by
  obtain ⟨made, places, directory, lands, rfl⟩ := writes_iff_lands.mp writes
  have grown := lands.filled
  have targets : (writer.pages fixture).map (·.1) = (writer.pages other).map (·.1) := rfl
  have again : made.Filled (made.fillAll places (contents (writer.pages fixture))) := lands.filled
  refine ⟨made.fillAll places (contents (writer.pages other)), ?_, ?_⟩
  · exact writes_iff_lands.mpr
      ⟨made, places, directory, lands.of_filled (.refl made) targets, rfl⟩
  · refine writes_iff_lands.mpr ⟨_, places, FileTree.ensureTree_of_grown directory again.toGrown,
      lands.of_filled again targets, ?_⟩
    have counted (written : Fixture) :
        places.length = (contents (writer.pages written)).length := lands.length
    exact (FileTree.fillAll_fillAll lands.below (counted fixture) (counted other)).symm

end FixtureHarness.FixtureWriter
