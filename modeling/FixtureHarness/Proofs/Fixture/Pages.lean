import FixtureHarness.Fixture.Writer
import FixtureHarness.Proofs.FileTree.Writing

/-! # What the files of a fixture hold

Pages are written one after the other, so a file holds the last page that was written to it. Two
paths may lead to one file however they are spelled; which do is decided by the tree. For a fixture
this means that the output is always held, the input unless the output took its file, and the script
unless one of the two took its file.
-/

namespace FixtureHarness

namespace FixtureWriter

/-- The text of the last page that goes to the file that a path leads to. -/
def lastText? (files : FileTree) : List (Path × String) → Path → Option String
  | [], _ => none
  | (target, text) :: rest, path =>
    (lastText? files rest path).or
      (if files.locate path = files.locate target then some text else none)

variable {paths result : FixturePaths} {files : FileTree} {pages : List (Path × String)}

theorem writePages_grown (paths : FixturePaths) (files : FileTree) (pages : List (Path × String)) :
    files.Grown (writePages paths files pages).files := by
  induction pages generalizing files with
  | nil => exact .refl files
  | cons page rest ih =>
    unfold writePages
    split
    · next after wrote => exact (FileTree.write_ok wrote).1.trans (ih after)
    · exact .refl files

/-- Pages that are all written: the first, and then the rest. -/
theorem writePages_cons_ok {path : Path} {text : String}
    (done : (writePages paths files ((path, text) :: pages)).result = .ok result) :
    ∃ after, files.writeText path text = .ok after ∧
      (writePages paths after pages).result = .ok result ∧
      (writePages paths files ((path, text) :: pages)).files =
        (writePages paths after pages).files := by
  cases wrote : files.writeText path text with
  | error fault => simp [writePages, wrote] at done
  | ok after => exact ⟨after, rfl, by simpa [writePages, wrote] using done, by simp [writePages, wrote]⟩

/-- What a path that led somewhere before leads to holds the last page that went there, and without
one what it held before. -/
theorem read_writePages (done : (writePages paths files pages).result = .ok result) {path : Path}
    {location : Location} (located : files.locate path = .ok location) :
    (writePages paths files pages).files.read path =
      match lastText? (writePages paths files pages).files pages path with
      | some text => .ok (Utf8.bytesOf text)
      | none => files.read path := by
  induction pages generalizing files with
  | nil => rfl
  | cons page rest ih =>
    obtain ⟨target, text⟩ := page
    obtain ⟨middle, wrote, finished, same⟩ := writePages_cons_ok done
    obtain ⟨grown, place, _, leads, _⟩ := FileTree.write_ok wrote
    have grownRest := writePages_grown paths middle rest
    rw [same, ih finished (grown.locate located), lastText?]
    cases lastText? (writePages paths middle rest).files rest path with
    | some later => rfl
    | none =>
      rw [Option.none_or, grownRest.locate leads, grownRest.locate (grown.locate located), ← leads,
        ← grown.locate located]
      dsimp only
      rw [FileTree.read_after_write wrote located]
      by_cases one : middle.locate path = middle.locate target
      · rw [if_pos one, if_pos one]
      · rw [if_neg one, if_neg one]

/-- The file of every page holds the last page that went there. -/
theorem read_page (done : (writePages paths files pages).result = .ok result) {path : Path}
    {text : String} (member : (path, text) ∈ pages) :
    ∃ last, lastText? (writePages paths files pages).files pages path = some last ∧
      (writePages paths files pages).files.read path = .ok (Utf8.bytesOf last) := by
  induction pages generalizing files with
  | nil => exact (List.not_mem_nil member).elim
  | cons page rest ih =>
    obtain ⟨target, own⟩ := page
    obtain ⟨middle, wrote, finished, same⟩ := writePages_cons_ok done
    rw [same, lastText?]
    rcases List.mem_cons.mp member with here | later
    · obtain ⟨rfl, rfl⟩ := Prod.mk.inj here
      obtain ⟨_, place, _, leads, _⟩ := FileTree.write_ok wrote
      rw [read_writePages finished leads, if_pos rfl]
      cases lastText? (writePages paths middle rest).files rest path with
      | some last => exact ⟨last, rfl, rfl⟩
      | none => exact ⟨text, rfl, FileTree.read_write wrote⟩
    · obtain ⟨last, isLast, held⟩ := ih finished later
      exact ⟨last, by rw [isLast, Option.some_or], held⟩

/-! ## The three files -/

/-- The directory is made, and then a script, an input and an output are written in this order. -/
def WritesTexts (writer : FixtureWriter) (script input output : String)
    (before after : FileTree) : Prop :=
  ∃ made first second, before.ensureTree writer.directory = (made, none) ∧
    made.writeText writer.paths.script script = .ok first ∧
    first.writeText writer.paths.input input = .ok second ∧
    second.writeText writer.paths.output output = .ok after

/-- The texts of a fixture are written. -/
def Writes (writer : FixtureWriter) (fixture : Fixture) (before after : FileTree) : Prop :=
  writer.WritesTexts fixture.script fixture.input fixture.output before after

variable {writer : FixtureWriter} {fixture : Fixture} {before after : FileTree}

theorem Writes.write_eq (writes : writer.Writes fixture before after) :
    (writer.write fixture before).result = .ok writer.paths ∧
      (writer.write fixture before).files = after := by
  obtain ⟨made, first, second, directory, script, input, output⟩ := writes
  simp [write, directory, pages, writePages, script, input, output]

theorem writePages_pages_ok {made : FileTree}
    (done : (writePages paths made (writer.pages fixture)).result = .ok result) :
    result = paths ∧ ∃ first second, made.writeText writer.paths.script fixture.script = .ok first ∧
      first.writeText writer.paths.input fixture.input = .ok second ∧
      second.writeText writer.paths.output fixture.output =
        .ok (writePages paths made (writer.pages fixture)).files := by
  obtain ⟨first, script, done, files⟩ := writePages_cons_ok done
  rw [pages, files]
  obtain ⟨second, input, done, files⟩ := writePages_cons_ok done
  rw [files]
  obtain ⟨third, output, done, files⟩ := writePages_cons_ok done
  rw [files]
  exact ⟨(Except.ok.inj done).symm, first, second, script, input, output⟩

theorem writes_of_ok (done : (writer.write fixture before).result = .ok result) :
    result = writer.paths ∧ writer.Writes fixture before (writer.write fixture before).files := by
  unfold write at done ⊢
  rcases directory : before.ensureTree writer.directory with ⟨made, fault | fault⟩
  · simp only [directory] at done ⊢
    obtain ⟨same, first, second, script, input, output⟩ := writePages_pages_ok done
    exact ⟨same, made, first, second, directory, script, input, output⟩
  · simp [directory] at done

/-- An attempt to write a fixture succeeds exactly if all four of its steps do. -/
theorem write_ok_iff :
    (writer.write fixture before).result = .ok result ↔
      result = writer.paths ∧ ∃ after, writer.Writes fixture before after := by
  constructor
  · intro done
    obtain ⟨same, writes⟩ := writes_of_ok done
    exact ⟨same, _, writes⟩
  · rintro ⟨rfl, after, writes⟩
    exact writes.write_eq.1

end FixtureWriter

/-- The three files hold a script, an input and an output: the file of the output holds this, and
each other file its text unless a later text went to the same file. -/
structure FixturePaths.Hold (paths : FixturePaths) (files : FileTree)
    (script input output : String) : Prop where
  holdsOutput : files.read paths.output = .ok (Utf8.bytesOf output)
  holdsInput : files.read paths.input = .ok (Utf8.bytesOf
    (if files.locate paths.input = files.locate paths.output then output else input))
  holdsScript : files.read paths.script = .ok (Utf8.bytesOf
    (if files.locate paths.script = files.locate paths.output then output
      else if files.locate paths.script = files.locate paths.input then input
      else script))

theorem FixtureWriter.Writes.hold {writer : FixtureWriter} {fixture : Fixture}
    {before after : FileTree} (writes : writer.Writes fixture before after) :
    writer.paths.Hold after fixture.script fixture.input fixture.output := by
  obtain ⟨made, first, second, _, script, input, output⟩ := writes
  have done : (writePages writer.paths made (writer.pages fixture)).result = .ok writer.paths := by
    simp [pages, writePages, script, input, output]
  have files : (writePages writer.paths made (writer.pages fixture)).files = after := by
    simp [pages, writePages, script, input, output]
  have held (path : Path) (text last : String) (member : (path, text) ∈ writer.pages fixture)
      (isLast : lastText? after (writer.pages fixture) path = some last) :
      after.read path = .ok (Utf8.bytesOf last) := by
    obtain ⟨other, isOther, holds⟩ := read_page done member
    rw [files] at isOther holds
    rw [holds, Option.some.inj (isOther.symm.trans isLast)]
  constructor
  · exact held _ fixture.output _ (by simp [pages]) (by simp [pages, lastText?])
  · apply held _ fixture.input _ (by simp [pages])
    simp only [pages, lastText?, Option.none_or, if_true]
    split_ifs <;> rfl
  · apply held _ fixture.script _ (by simp [pages])
    simp only [pages, lastText?, Option.none_or, if_true]
    split_ifs <;> rfl

end FixtureHarness
