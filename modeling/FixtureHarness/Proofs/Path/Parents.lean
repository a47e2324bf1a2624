import FixtureHarness.FileTree.Basic
import FixtureHarness.Proofs.Text.Lines
import Mathlib.Data.List.DropRight

/-! # The paths above a path

Taking the last component off a path cuts its text between two names. So the names of a path above
it are the first names of the path, and both start from the same place. A path without a parent is
empty, or it leads to the root by dots alone.
-/

namespace FixtureHarness

/-- A text of some pieces begins with the text of the first of them. -/
theorem Text.intercalate_prefix {separator : List Char} {first pieces : List (List Char)}
    (starts : first <+: pieces) :
    separator.intercalate first <+: separator.intercalate pieces := by
  induction first generalizing pieces with
  | nil => simp
  | cons piece first ih =>
    obtain ⟨others, rfl, later⟩ := List.cons_prefix_iff.mp starts
    cases first with
    | nil =>
      cases others with
      | nil => exact List.prefix_rfl
      | cons other others =>
        rw [List.intercalate_singleton, List.intercalate_cons_cons, List.append_assoc]
        exact List.prefix_append _ _
    | cons next first =>
      cases others with
      | nil => simp at later
      | cons other others =>
        rw [List.intercalate_cons_cons, List.intercalate_cons_cons]
        exact (List.prefix_append_right_inj _).mpr (ih later)

namespace FileTree

/-- The names in a text. -/
def namesIn (text : List Char) : List (List Char) :=
  (text.splitOn '/').filter fun name => !name.isEmpty

theorem names_eq_namesIn (path : Path) : names path = namesIn path.text.toList := by
  rw [names, Path.parts, Text.splitAt_eq_splitOn, namesIn]

theorem namesIn_slash_cons (text : List Char) : namesIn ('/' :: text) = namesIn text := by
  have split := List.splitOn_append_cons_self (a := '/') [] text
  rw [List.nil_append, List.splitOn_nil] at split
  rw [namesIn, split]
  rfl

theorem namesIn_append_slash_cons (first second : List Char) :
    namesIn (first ++ '/' :: second) = namesIn first ++ namesIn second := by
  rw [namesIn, List.splitOn_append_cons_self, List.filter_append, ← namesIn, ← namesIn]

theorem namesIn_intercalate {pieces : List (List Char)} (plain : ∀ piece ∈ pieces, '/' ∉ piece) :
    namesIn (List.intercalate ['/'] pieces) = pieces.filter fun name => !name.isEmpty := by
  by_cases none : pieces = []
  · rw [none, List.intercalate_nil]
    rfl
  · rw [namesIn, List.splitOn_intercalate '/' plain none]

/-- The names of a text behind the anchor of a path. -/
theorem namesIn_anchored {anchor : List Char} {pieces : List (List Char)}
    (plain : ∀ piece ∈ pieces, '/' ∉ piece)
    (fits : anchor = ['/'] ∨ anchor = [] ∨ anchor = ['.'] ∧ pieces.head?.getD [] = []) :
    namesIn (anchor ++ List.intercalate ['/'] pieces) =
      (if anchor = ['.'] then [['.']] else []) ++ pieces.filter fun name => !name.isEmpty := by
  rcases fits with rfl | rfl | ⟨rfl, empty⟩
  · rw [List.singleton_append, namesIn_slash_cons, namesIn_intercalate plain]
    rfl
  · rw [List.nil_append, namesIn_intercalate plain]
    rfl
  · rw [if_pos rfl]
    match pieces with
    | [] | [[]] => rfl
    | [] :: next :: others =>
      have later : ∀ piece ∈ next :: others, '/' ∉ piece := fun piece member =>
        plain piece (List.mem_cons_of_mem _ member)
      have dotted : ['.'] ++ List.intercalate ['/'] ([] :: next :: others) =
          ['.'] ++ '/' :: List.intercalate ['/'] (next :: others) :=
        congrArg (['.'] ++ ·) List.intercalate_cons_cons
      rw [dotted, namesIn_append_slash_cons, namesIn_intercalate later]
      rfl
    | (char :: piece) :: others => simp at empty

end FileTree

namespace Path

variable {path parent : Path}

theorem anchor_cases (path : Path) :
    (path.anchor = ['/'] ∧ ∃ rest, path.text.toList = '/' :: rest) ∨
      (path.anchor = ['.'] ∧
        (path.text.toList = ['.'] ∨ ∃ rest, path.text.toList = '.' :: '/' :: rest)) ∨
      path.anchor = [] ∧ path.isAbsolute = false ∧ path.parts.head? ≠ some ['.'] := by
  unfold anchor
  split_ifs with absolute dot
  · refine .inl ⟨rfl, ?_⟩
    simpa [isAbsolute, List.head?_eq_some_iff] using absolute
  · refine .inr (.inl ⟨rfl, ?_⟩)
    have joined : List.intercalate ['/'] (path.text.toList.splitOn '/') = path.text.toList :=
      List.intercalate_splitOn '/'
    rw [parts, Text.splitAt_eq_splitOn, List.head?_eq_some_iff] at dot
    obtain ⟨others, split⟩ := dot
    rw [← joined, split]
    cases others with
    | nil => exact .inl rfl
    | cons other others => exact .inr ⟨_, List.intercalate_cons_cons⟩
  · exact .inr (.inr ⟨rfl, by simpa using absolute, dot⟩)

/-- The text of a path is its anchor and then its body, piece by piece. -/
theorem text_eq (path : Path) :
    path.text.toList = path.anchor ++ List.intercalate ['/'] path.body := by
  rw [body, Text.splitAt_eq_splitOn, List.intercalate_splitOn]
  rcases path.anchor_cases with ⟨root, rest, text⟩ | ⟨dot, text | ⟨rest, text⟩⟩ | ⟨bare, _⟩
  · simp [root, text]
  · simp [dot, text]
  · simp [dot, text]
  · simp [bare]

theorem body_plain : ∀ piece ∈ path.body, '/' ∉ piece := by
  intro piece member
  rw [body, Text.splitAt_eq_splitOn] at member
  exact Text.not_mem_of_mem_splitOn member

/-- Behind a leading dot the body begins with a slash. -/
theorem body_fits (path : Path) :
    path.anchor = ['/'] ∨ path.anchor = [] ∨
      path.anchor = ['.'] ∧ path.body.head?.getD [] = [] := by
  rcases path.anchor_cases with ⟨anchor, _⟩ | ⟨anchor, text⟩ | ⟨anchor, _⟩
  · exact .inl anchor
  · refine .inr (.inr ⟨anchor, ?_⟩)
    rcases text with text | ⟨rest, text⟩
    · simp [body, anchor, text, Text.splitAt]
    · simp [body, anchor, text, Text.splitAt]
  · exact .inr (.inl anchor)

/-- The text of a parent that is not empty is the anchor and then some first pieces of the body. -/
theorem parent?_eq_some (found : path.parent? = some parent) :
    parent.text.toList = [] ∨ ∃ kept, kept <+: path.body ∧
      parent.text.toList = path.anchor ++ List.intercalate ['/'] kept := by
  unfold parent? at found
  split at found
  · split_ifs at found
    obtain rfl := Option.some.inj found
    exact .inl rfl
  · next last rest held =>
    obtain rfl := Option.some.inj found
    refine .inr ⟨dropVoidEnd rest.reverse, ?_, String.toList_ofList⟩
    have whole : rest.reverse <+: dropVoidEnd path.body :=
      ⟨[last], by rw [← List.reverse_reverse (dropVoidEnd path.body), held, List.reverse_cons]⟩
    exact (List.rdropWhile_prefix isVoidPart _).trans
      (whole.trans (List.rdropWhile_prefix isVoidPart _))

theorem names_parent? (found : path.parent? = some parent) :
    FileTree.names parent <+: FileTree.names path := by
  rw [FileTree.names_eq_namesIn, FileTree.names_eq_namesIn]
  rcases parent?_eq_some found with empty | ⟨kept, starts, text⟩
  · rw [empty]
    exact List.nil_prefix
  · have keptFits : path.anchor = ['/'] ∨ path.anchor = [] ∨
        path.anchor = ['.'] ∧ kept.head?.getD [] = [] := by
      rcases path.body_fits with root | none | ⟨dot, slash⟩
      · exact .inl root
      · exact .inr (.inl none)
      · refine .inr (.inr ⟨dot, ?_⟩)
        cases kept with
        | nil => rfl
        | cons piece kept =>
          obtain ⟨others, same, _⟩ := List.cons_prefix_iff.mp starts
          simpa [same] using slash
    rw [text, path.text_eq, FileTree.namesIn_anchored body_plain path.body_fits,
      FileTree.namesIn_anchored (fun piece member => body_plain piece (starts.subset member))
        keptFits]
    exact (List.prefix_append_right_inj _).mpr (starts.filter _)

theorem isAbsolute_parent? (found : path.parent? = some parent) (there : parent.text.toList ≠ []) :
    parent.isAbsolute = path.isAbsolute := by
  rcases parent?_eq_some found with empty | ⟨kept, starts, text⟩
  · exact (there empty).elim
  · have cut : parent.text.toList <+: path.text.toList := by
      rw [text, path.text_eq]
      exact (List.prefix_append_right_inj _).mpr (Text.intercalate_prefix starts)
    obtain ⟨rest, same⟩ := cut
    rw [isAbsolute, isAbsolute, ← same, List.head?_append_of_ne_nil _ there]

/-- A path without a parent is empty, or it leads to the root by dots alone. -/
theorem parent?_eq_none (none : path.parent? = none) :
    path.text.toList = [] ∨
      path.isAbsolute = true ∧ ∀ name ∈ FileTree.names path, name = ['.'] := by
  unfold parent? at none
  split at none
  · next held =>
    have empty : dropVoidEnd path.body = [] := List.reverse_eq_nil_iff.mp held
    have allVoid : ∀ part ∈ path.body, isVoidPart part = true :=
      List.rdropWhile_eq_nil_iff.mp empty
    have dots : ∀ name ∈ path.body.filter fun name => !name.isEmpty, name = ['.'] := by
      intro name member
      obtain ⟨inside, full⟩ := List.mem_filter.mp member
      simpa [isVoidPart, by simpa using full] using allVoid name inside
    rcases path.anchor_cases with ⟨root, rest, text⟩ | ⟨dot, _⟩ | ⟨bare, relative, first⟩
    · refine .inr ⟨by simp [isAbsolute, text], ?_⟩
      rw [FileTree.names_eq_namesIn, path.text_eq,
        FileTree.namesIn_anchored body_plain path.body_fits, root]
      exact dots
    · simp [dot] at none
    · left
      have whole : path.parts = path.body := by simp [parts, body, bare]
      have joined := path.text_eq
      rw [bare, List.nil_append] at joined
      rw [whole] at first
      cases pieces : path.body with
      | nil => rw [joined, pieces, List.intercalate_nil]
      | cons piece others =>
        have void := allVoid piece (by simp [pieces])
        have empty : piece = [] := by
          have notDot : piece ≠ ['.'] := fun same => first (by simp [pieces, same])
          simpa [isVoidPart, notDot] using void
        cases others with
        | nil => rw [joined, pieces, empty, List.intercalate_singleton]
        | cons other others =>
          rw [pieces, empty, List.intercalate_cons_cons] at joined
          simp [isAbsolute, joined] at relative
  · cases none

end Path

end FixtureHarness
