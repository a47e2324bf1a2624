import FixtureHarness.Proofs.FileTree.Ways
import FixtureHarness.Proofs.Fixture.Pages

/-! # How an attempt to write a fixture ends

The directory cannot be made, or one of the three pages is the first that cannot be written, or all
of them are written. What was written by then is held, with a record for every page that was begun;
everything else is as before, but for directories on the way to the fixtures.
-/

namespace FixtureHarness.FixtureWriter

/-- The record that an attempt begins with. -/
def announcement (writer : FixtureWriter) : Log.Record :=
  .updating writer.names.statements writer.names.input writer.names.output

/-- The records of pages whose writing is begun. -/
def writingLog (pages : List (Path × String)) : List Log.Record :=
  pages.map fun page => .writing page.1.text

variable {paths result : FixturePaths} {files before after : FileTree} {location : Location}
  {pages done first : List (Path × String)}

/-! ## Pages -/

theorem writePages_append (written : (writePages paths files first).result = .ok result)
    (second : List (Path × String)) :
    let between := writePages paths files first
    let more := writePages paths between.files second
    writePages paths files (first ++ second) =
      { more with log := between.log ++ more.log } := by
  induction first generalizing files with
  | nil => rfl
  | cons page first ih =>
    obtain ⟨path, text⟩ := page
    obtain ⟨middle, wrote, later, _⟩ := writePages_cons_ok written
    simp only [List.cons_append, writePages, wrote, ih later]

theorem writePages_log (written : (writePages paths files pages).result = .ok result) :
    (writePages paths files pages).log = writingLog pages := by
  induction pages generalizing files with
  | nil => rfl
  | cons page pages ih =>
    obtain ⟨path, text⟩ := page
    obtain ⟨middle, wrote, later, _⟩ := writePages_cons_ok written
    simp only [writePages, wrote, ih later, writingLog, List.map_cons]

/-- All pages are written, or some are and the next cannot be. -/
theorem writePages_cases (paths : FixturePaths) (files : FileTree) (pages : List (Path × String)) :
    (writePages paths files pages).result = .ok paths ∨
      ∃ done page rest fault, pages = done ++ page :: rest ∧
        (writePages paths files done).result = .ok paths ∧
        (writePages paths files done).files.writeText page.1 page.2 = .error fault := by
  induction pages generalizing files with
  | nil => exact .inl rfl
  | cons page pages ih =>
    obtain ⟨path, text⟩ := page
    cases wrote : files.writeText path text with
    | error fault => exact .inr ⟨[], (path, text), pages, fault, rfl, rfl, wrote⟩
    | ok after =>
      rcases ih after with all | ⟨done, next, rest, fault, rfl, written, failed⟩
      · exact .inl (by simpa [writePages, wrote] using all)
      · refine .inr ⟨(path, text) :: done, next, rest, fault, rfl, ?_, ?_⟩
        · simpa [writePages, wrote] using written
        · simpa [writePages, wrote] using failed

/-- The pages that are written change their own files only. -/
theorem lookup?_writePages (written : (writePages paths files pages).result = .ok result)
    (apart : ∀ page ∈ pages,
      (writePages paths files pages).files.locate page.1 ≠ .ok location) :
    (writePages paths files pages).files.lookup? location = files.lookup? location := by
  induction pages generalizing files with
  | nil => rfl
  | cons page pages ih =>
    obtain ⟨path, text⟩ := page
    obtain ⟨middle, wrote, later, same⟩ := writePages_cons_ok written
    rw [same] at apart ⊢
    rw [List.forall_mem_cons] at apart
    obtain ⟨_, place, _, leads, entries⟩ := FileTree.write_ok wrote
    have other : location ≠ place := by
      rintro rfl
      exact apart.1 ((writePages_grown paths middle pages).locate leads)
    rw [ih later apart.2, entries, if_neg other]

/-! ## Attempts -/

/-- How an attempt to write a fixture can end, with what it leaves. -/
inductive Attempt (writer : FixtureWriter) (fixture : Fixture) (before : FileTree) :
    Written → Prop where
  | unmade {made : FileTree} {fault : FileFault} :
      before.ensureTree writer.directory = (made, some fault) →
      Attempt writer fixture before
        ⟨.error (.fileAccess writer.directory fault), made, [writer.announcement]⟩
  | cut {made : FileTree} {done rest : List (Path × String)} {page : Path × String}
      {fault : FileFault} :
      before.ensureTree writer.directory = (made, none) →
      writer.pages fixture = done ++ page :: rest →
      (writePages writer.paths made done).result = .ok writer.paths →
      (writePages writer.paths made done).files.writeText page.1 page.2 = .error fault →
      Attempt writer fixture before
        ⟨.error (.fileAccess page.1 fault), (writePages writer.paths made done).files,
          writer.announcement :: writingLog (done ++ [page])⟩
  | complete {made : FileTree} :
      before.ensureTree writer.directory = (made, none) →
      (writePages writer.paths made (writer.pages fixture)).result = .ok writer.paths →
      Attempt writer fixture before
        ⟨.ok writer.paths, (writePages writer.paths made (writer.pages fixture)).files,
          writer.announcement :: writingLog (writer.pages fixture)⟩

variable {writer : FixtureWriter} {fixture : Fixture} {made : FileTree} {fault : FileFault}

theorem write_of_unmade (directory : before.ensureTree writer.directory = (made, some fault)) :
    writer.write fixture before =
      ⟨.error (.fileAccess writer.directory fault), made, [writer.announcement]⟩ := by
  simp only [write, directory, announcement]

theorem write_of_cut {rest : List (Path × String)} {page : Path × String}
    (directory : before.ensureTree writer.directory = (made, none))
    (split : writer.pages fixture = done ++ page :: rest)
    (written : (writePages writer.paths made done).result = .ok writer.paths)
    (failed : (writePages writer.paths made done).files.writeText page.1 page.2 = .error fault) :
    writer.write fixture before =
      ⟨.error (.fileAccess page.1 fault), (writePages writer.paths made done).files,
        writer.announcement :: writingLog (done ++ [page])⟩ := by
  have begun : writingLog (done ++ [page]) = writingLog done ++ [.writing page.1.text] :=
    List.map_append
  simp only [write, directory, split, writePages_append written, writePages, failed,
    writePages_log written, announcement, begun]

theorem write_of_complete (directory : before.ensureTree writer.directory = (made, none))
    (written : (writePages writer.paths made (writer.pages fixture)).result = .ok writer.paths) :
    writer.write fixture before =
      ⟨.ok writer.paths, (writePages writer.paths made (writer.pages fixture)).files,
        writer.announcement :: writingLog (writer.pages fixture)⟩ := by
  simp only [write, directory, written, writePages_log written, announcement]

theorem write_attempt (writer : FixtureWriter) (fixture : Fixture) (before : FileTree) :
    writer.Attempt fixture before (writer.write fixture before) := by
  rcases directory : before.ensureTree writer.directory with ⟨made, fault | fault⟩
  · rcases writePages_cases writer.paths made (writer.pages fixture) with
      all | ⟨done, page, rest, fault, split, written, failed⟩
    · rw [write_of_complete directory all]
      exact .complete directory all
    · rw [write_of_cut directory split written failed]
      exact .cut directory split written failed
  · rw [write_of_unmade directory]
    exact .unmade directory

theorem Writes.write_log (writes : writer.Writes fixture before after) :
    (writer.write fixture before).log =
      writer.announcement :: writingLog (writer.pages fixture) := by
  obtain ⟨made, first, second, directory, script, input, output⟩ := writes
  rw [write_of_complete directory]
  simp [pages, writePages, script, input, output]

/-- Of the files of some pages each holds the last page that went to it. Everything else is as
before, but for directories on the way to the fixtures. -/
structure Holds (writer : FixtureWriter) (pages : List (Path × String)) (before after : FileTree) :
    Prop where
  read : ∀ page ∈ pages, ∃ last, lastText? after pages page.1 = some last ∧
    after.read page.1 = .ok (Utf8.bytesOf last)
  kept : before.KeptBut after writer.directory fun location =>
    ∃ page ∈ pages, after.locate page.1 = .ok location

/-- Pages that are written after the directory was made are held. -/
theorem holds_writePages
    (directory : before.ensureTree writer.directory = (made, none))
    (written : (writePages paths made pages).result = .ok result) :
    writer.Holds pages before (writePages paths made pages).files := by
  refine ⟨fun page member => read_page written member, ?_⟩
  have paved := before.ensureTree_paved writer.directory
  rw [directory] at paved
  refine (paved.kept.mono fun _ absurd => absurd.elim).trans (.of_same ?_)
    (writePages_grown paths made pages)
  intro location outside
  exact lookup?_writePages written fun page member located => outside ⟨page, member, located⟩

variable {written : Written} {cause : Failure}

/-- An attempt that succeeds leaves all pages in a directory that is there. The empty path is taken
to name the working directory. -/
theorem Attempt.holds_all (attempt : writer.Attempt fixture before written)
    (succeeded : written.result = .ok paths) :
    writer.Holds (writer.pages fixture) before written.files ∧
      ((writer.directory = Path.empty → before.hasDirectory before.working = true) →
        written.files.LeadsToDirectory writer.directory) := by
  cases attempt with
  | unmade _ => cases succeeded
  | cut _ _ _ _ => cases succeeded
  | complete directory all =>
    refine ⟨holds_writePages directory all, fun working => ?_⟩
    exact (writePages_grown _ _ _).leadsToDirectory
      (FileTree.ensureTree_leadsToDirectory directory working)

/-- An attempt that fails names the directory that could not be made, or the page that could not be
written behind those that were. -/
theorem Attempt.holds_some (attempt : writer.Attempt fixture before written)
    (failed : written.result = .error cause) :
    (∃ fault, cause = .fileAccess writer.directory fault ∧
        (before.ensureTree writer.directory).2 = some fault ∧
        writer.Holds [] before written.files) ∨
      ∃ done page rest fault, writer.pages fixture = done ++ page :: rest ∧
        cause = .fileAccess page.1 fault ∧
        written.files.writeText page.1 page.2 = .error fault ∧
        writer.Holds done before written.files := by
  cases attempt with
  | unmade directory =>
    obtain rfl := Except.error.inj failed
    refine .inl ⟨_, rfl, by rw [directory], fun page member => (List.not_mem_nil member).elim, ?_⟩
    have paved := before.ensureTree_paved writer.directory
    rw [directory] at paved
    exact paved.kept.mono fun _ absurd => absurd.elim
  | cut directory split all fault =>
    obtain rfl := Except.error.inj failed
    exact .inr ⟨_, _, _, _, split, rfl, fault, holds_writePages directory all⟩
  | complete _ _ => cases failed

end FixtureHarness.FixtureWriter
