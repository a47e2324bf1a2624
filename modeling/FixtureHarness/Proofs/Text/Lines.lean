import FixtureHarness.Text.Lines
import Mathlib.Data.List.Basic
import Mathlib.Tactic.SplitIfs

/-! # The lines of a text

A line feed ends a line whatever stands around it, so the lines of a text are those up to a line feed
and those behind it. Of texts that are written line by line the last line is the one that was written
last. The pieces of a text that is split at some character do not hold that character.
-/

namespace FixtureHarness.Text

variable {front line rest : List Char}

/-! ## Lines of a text -/

/-- Puts a character in front of the first line. -/
def extendLine (char : Char) : List (List Char) → List (List Char)
  | [] => [[char]]
  | line :: others => (char :: line) :: others

theorem lines_feed (rest : List Char) : lines ('\n' :: rest) = [] :: lines rest := by
  rw [lines]

/-- A carriage return before a line feed belongs to the line ending. -/
theorem lines_return (rest : List Char) : lines ('\r' :: '\n' :: rest) = lines ('\n' :: rest) := by
  have ended : lines ('\r' :: '\n' :: rest) = [] :: lines rest := by rw [lines]
  rw [ended, lines_feed]

theorem lines_cons {char : Char} (notFeed : char ≠ '\n')
    (notEnding : char = '\r' → rest.head? ≠ some '\n') :
    lines (char :: rest) = extendLine char (lines rest) := by
  rw [lines]
  · cases lines rest <;> rfl
  · exact notFeed
  · rintro more rfl rfl
    exact notEnding rfl rfl

theorem lines_ne_nil {char : Char} : lines (char :: rest) ≠ [] := by
  by_cases feed : char = '\n'
  · rw [feed, lines_feed]
    exact List.cons_ne_nil _ _
  by_cases ending : char = '\r' ∧ rest.head? = some '\n'
  · obtain ⟨rfl, head⟩ := ending
    obtain ⟨more, rfl⟩ := List.head?_eq_some_iff.mp head
    rw [lines_return, lines_feed]
    exact List.cons_ne_nil _ _
  · rw [lines_cons feed fun same head => ending ⟨same, head⟩]
    cases lines rest <;> exact List.cons_ne_nil _ _

theorem extendLine_append {char : Char} {first second : List (List Char)} (there : first ≠ []) :
    extendLine char (first ++ second) = extendLine char first ++ second := by
  cases first with
  | nil => exact (there rfl).elim
  | cons line others => rfl

/-- A line feed divides the lines before it from those behind it. -/
theorem lines_append_feed (front rest : List Char) :
    lines (front ++ '\n' :: rest) = lines (front ++ ['\n']) ++ lines rest := by
  induction front with
  | nil => rw [List.nil_append, List.nil_append, lines_feed, lines_feed, lines, List.singleton_append]
  | cons char front ih =>
    rw [List.cons_append, List.cons_append]
    by_cases feed : char = '\n'
    · rw [feed, lines_feed, lines_feed, ih, List.cons_append]
    -- Of what follows, the first character decides whether a carriage return is kept.
    have sameHead : (front ++ '\n' :: rest).head? = (front ++ ['\n']).head? := by
      cases front <;> rfl
    by_cases ending : char = '\r' ∧ (front ++ ['\n']).head? = some '\n'
    · obtain ⟨rfl, head⟩ := ending
      obtain ⟨more, text⟩ := List.head?_eq_some_iff.mp head
      obtain ⟨others, longer⟩ := List.head?_eq_some_iff.mp (sameHead.trans head)
      rw [text, longer, lines_return, lines_return, ← text, ← longer, ih]
    · have plain : char = '\r' → (front ++ ['\n']).head? ≠ some '\n' :=
        fun same head => ending ⟨same, head⟩
      have there : lines (front ++ ['\n']) ≠ [] := by
        cases front <;> exact lines_ne_nil
      rw [lines_cons feed (sameHead ▸ plain), lines_cons feed plain, ih, extendLine_append there]

theorem lines_line (plain : '\n' ∉ line) (kept : line.getLast? ≠ some '\r') :
    lines (line ++ ['\n']) = [line] := by
  induction line with
  | nil => rw [List.nil_append, lines_feed, lines]
  | cons char line ih =>
    rw [List.mem_cons, not_or] at plain
    have notEnding : char = '\r' → (line ++ ['\n']).head? ≠ some '\n' := by
      rintro rfl head
      cases line with
      | nil => exact kept rfl
      | cons next line =>
        obtain rfl : next = '\n' := by simpa using head
        exact plain.2 (List.mem_cons_self ..)
    have keptBehind : line.getLast? ≠ some '\r' := by
      cases line with
      | nil => simp
      | cons next line => simpa [List.getLast?_cons_cons] using kept
    rw [List.cons_append, lines_cons (Ne.symm plain.1) notEnding, ih plain.2 keptBehind, extendLine]

/-- No line has a line feed inside. -/
theorem newLine_not_mem_of_mem_lines {text : List Char} (member : line ∈ lines text) :
    '\n' ∉ line := by
  induction text generalizing line with
  | nil => cases member
  | cons char rest ih =>
    by_cases feed : char = '\n'
    · rw [feed, lines_feed] at member
      rcases List.mem_cons.mp member with rfl | later
      · exact List.not_mem_nil
      · exact ih later
    by_cases ending : char = '\r' ∧ rest.head? = some '\n'
    · obtain ⟨rfl, head⟩ := ending
      obtain ⟨more, rfl⟩ := List.head?_eq_some_iff.mp head
      rw [lines_return] at member
      exact ih member
    rw [lines_cons feed fun same head => ending ⟨same, head⟩] at member
    cases inside : lines rest with
    | nil =>
      rw [inside, extendLine, List.mem_singleton] at member
      simpa [member] using Ne.symm feed
    | cons first others =>
      rw [inside] at ih
      rw [inside, extendLine] at member
      rcases List.mem_cons.mp member with rfl | later
      · simpa [Ne.symm feed] using ih (List.mem_cons_self ..)
      · exact ih (List.mem_cons_of_mem _ later)

/-! ## Texts of lines -/

theorem toList_unlines (lines : List String) :
    (unlines lines).toList = lines.flatMap fun line => line.toList ++ ['\n'] := by
  simp [unlines, String.toList_join, List.flatMap_map, String.toList_append]

theorem toList_unlines_append (first second : List String) :
    (unlines (first ++ second)).toList = (unlines first).toList ++ (unlines second).toList := by
  simp [toList_unlines]

/-! ## Pieces -/

theorem splitAt_eq_splitOn (separator : Char) (text : List Char) :
    splitAt separator text = text.splitOn separator := by
  induction text with
  | nil => rfl
  | cons char rest ih =>
    rw [splitAt, List.splitOn_cons_eq_if_modifyHead, ih]
    by_cases here : char = separator
    · rw [if_pos here, if_pos (beq_iff_eq.mpr here)]
    · rw [if_neg here, if_neg (by simpa using here)]
      cases pieces : rest.splitOn separator with
      | nil => exact (List.splitOn_ne_nil separator rest pieces).elim
      | cons piece others => rfl

/-- The separator is in none of the pieces. -/
theorem not_mem_of_mem_splitOn {separator : Char} {text piece : List Char}
    (member : piece ∈ text.splitOn separator) : separator ∉ piece := by
  induction text generalizing piece with
  | nil =>
    rw [List.splitOn_nil, List.mem_singleton] at member
    simp [member]
  | cons char rest ih =>
    rw [List.splitOn_cons_eq_if_modifyHead] at member
    split_ifs at member with here
    · rcases List.mem_cons.mp member with rfl | later
      · simp
      · exact ih later
    · cases pieces : rest.splitOn separator with
      | nil => exact (List.splitOn_ne_nil separator rest pieces).elim
      | cons first others =>
        rw [pieces, List.modifyHead_cons] at member
        rcases List.mem_cons.mp member with rfl | later
        · have apart : separator ∉ first := ih (by simp [pieces])
          simpa [apart] using fun same : separator = char => here (by simp [same])
        · exact ih (by simp [pieces, later])

end FixtureHarness.Text
