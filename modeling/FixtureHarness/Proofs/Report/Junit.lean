import FixtureHarness.Proofs.Text.Lines
import FixtureHarness.Proofs.Xml.Escaping
import FixtureHarness.Report.Writer

/-! # When the JUnit form of a report is an XML document

The tags of the form balance and its texts are escaped, whatever the report says. What can keep it
from being a document is a character that no document may have: escaping lets control characters
pass, and so the form is a document exactly if none of the texts that it shows has such a character.
-/

namespace FixtureHarness

open Text Text.Xml

/-- The texts that the element of a case shows. -/
def CaseReport.shownTexts (case : CaseReport) : List String :=
  case.name ::
    match case.status with
    | .passed => []
    | .failed => case.output?.toList
    | .error => case.error?.toList

/-- The texts that the document of a report shows. -/
def SuiteReport.shownTexts (report : SuiteReport) : List String :=
  report.suite :: report.cases.flatMap CaseReport.shownTexts

/-! ## Numbers -/

theorem isText_toDigits (number : Nat) : IsText (Nat.toDigits 10 number) :=
  fun _ member => isChar_of_isDigit (Nat.isDigit_of_mem_toDigits (by decide) (by decide) member)

theorem isText_toString (number : Nat) : IsText (toString number).toList := by
  have digits : (toString number).toList = Nat.toDigits 10 number := String.toList_ofList
  rw [digits]
  exact isText_toDigits number

theorem isText_timeText (milliseconds : Nat) : IsText (timeText milliseconds).toList := by
  rw [timeText, String.toList_ofList, secondsText]
  split
  · simp only [thousandths, isText_append, isText_cons]
    refine ⟨⟨isText_toDigits _, by decide, ?_⟩, isText_toDigits _⟩
    intro char member
    rw [(List.mem_replicate.mp member).2]
    decide
  · exact isText_nil

/-! ## Elements -/

/-- A line of its own for an element, at some depth. -/
theorem content_line (depth : Nat) {name : String} {attributes : List (String × String)}
    {inner rest : List Char} (own : isName name.toList = true)
    (named : ∀ entry ∈ attributes, isName entry.1.toList = true)
    (allowed : ∀ entry ∈ attributes, IsText entry.2.toList)
    (different : (attributes.map (·.1)).Nodup) (content : Content inner) (after : Content rest) :
    Content (List.replicate depth ' ' ++ ((openTag name attributes).toList ++
      (inner ++ ((closeTag name).toList ++ '\n' :: rest)))) := by
  have element := Content.element_append own named allowed different content after.newLine
  exact element.blank_append (isBlank_replicate depth)

/-- The text of a failed case on lines of its own, with white space behind. -/
theorem content_output {output? : Option String}
    (allowed : ∀ output ∈ output?, IsText output.toList) (depth : Nat) :
    Content ('\n' :: ((unlines (output?.toList.map escape)).toList ++ List.replicate depth ' ')) := by
  have space : Content (List.replicate depth ' ') := content_of_isBlank (isBlank_replicate depth)
  refine .newLine ?_
  cases output? with
  | none => exact space
  | some output =>
    have shape : (unlines ((some output).toList.map escape)).toList ++ List.replicate depth ' ' =
        (escape output).toList ++ '\n' :: List.replicate depth ' ' := by
      simp [toList_unlines]
    rw [shape]
    exact .escape_append (allowed output rfl) space.newLine (by simp [sectionEnd])

theorem content_junitContent (case : CaseReport)
    (allowed : ∀ text ∈ case.shownTexts, IsText text.toList) {rest : List Char}
    (after : Content rest) : Content ((unlines case.junitContent).toList ++ rest) := by
  obtain ⟨name, status, milliseconds, output?, error?, missing⟩ := case
  rw [CaseReport.shownTexts, List.forall_mem_cons] at allowed
  obtain ⟨_, allowed⟩ := allowed
  cases status with
  | passed => exact after
  | failed =>
    have shape : (unlines (CaseReport.junitContent
        ⟨name, .failed, milliseconds, output?, error?, missing⟩)).toList ++ rest =
        List.replicate 6 ' ' ++ ((openTag "failure" [("message", "TEST FAILED!!")]).toList ++
          ('\n' :: ((unlines (output?.toList.map escape)).toList ++ List.replicate 6 ' ') ++
            ((closeTag "failure").toList ++ '\n' :: rest))) := by
      simp [CaseReport.junitContent, toList_unlines, List.replicate]
    rw [shape]
    refine content_line _ (by decide) (by decide) ?_ (by decide) ?_ after
    · exact List.forall_mem_singleton.mpr (isText_literal (by decide))
    · exact content_output (fun output member => allowed output (Option.mem_toList.mpr member)) 6
  | error =>
    cases error? with
    | none => exact after
    | some error =>
      have shown : IsText error.toList := allowed error (by simp)
      have shape : (unlines (CaseReport.junitContent
          ⟨name, .error, milliseconds, output?, some error, missing⟩)).toList ++ rest =
          List.replicate 6 ' ' ++ ((openTag "error" [("message", error)]).toList ++
            ((escape error).toList ++ ((closeTag "error").toList ++ '\n' :: rest))) := by
        simp [CaseReport.junitContent, toList_unlines, List.replicate]
      have inner : Content (escape error).toList := by
        have content := Content.escape_append shown .nil (by simp)
        rwa [List.append_nil] at content
      rw [shape]
      refine content_line _ (by decide) ?_ (by simpa using shown) (by simp) inner after
      rw [List.forall_mem_singleton]
      show isName "message".toList = true
      decide

theorem content_junitLines (suite : String) (case : CaseReport) (suiteAllowed : IsText suite.toList)
    (allowed : ∀ text ∈ case.shownTexts, IsText text.toList) {rest : List Char}
    (after : Content rest) : Content ((unlines (case.junitLines suite)).toList ++ rest) := by
  have shape : (unlines (case.junitLines suite)).toList ++ rest =
      List.replicate 4 ' ' ++ ((openTag "testcase" [("name", case.name), ("classname", suite),
          ("time", timeText case.milliseconds)]).toList ++
        ('\n' :: ((unlines case.junitContent).toList ++ List.replicate 4 ' ') ++
          ((closeTag "testcase").toList ++ '\n' :: rest))) := by
    simp [CaseReport.junitLines, toList_unlines, List.replicate]
  have inner : Content ('\n' :: ((unlines case.junitContent).toList ++ List.replicate 4 ' ')) :=
    .newLine (content_junitContent case allowed (content_of_isBlank (isBlank_replicate 4)))
  have named : IsText case.name.toList := allowed _ (List.mem_cons_self ..)
  rw [shape]
  refine content_line _ (by decide) ?_ ?_ (by simp) inner after
  · simp only [List.forall_mem_cons]
    decide
  · simpa [List.forall_mem_cons] using ⟨named, suiteAllowed, isText_timeText case.milliseconds⟩

theorem content_cases {suite : String} {cases : List CaseReport}
    (suiteAllowed : IsText suite.toList)
    (allowed : ∀ text ∈ cases.flatMap CaseReport.shownTexts, IsText text.toList)
    {rest : List Char} (after : Content rest) :
    Content ((unlines (cases.flatMap (CaseReport.junitLines suite))).toList ++ rest) := by
  induction cases with
  | nil => exact after
  | cons case cases ih =>
    rw [List.flatMap_cons, List.forall_mem_append] at allowed
    rw [List.flatMap_cons, toList_unlines_append, List.append_assoc]
    exact content_junitLines suite case suiteAllowed allowed.1 (ih allowed.2)

/-! ## The document -/

namespace SuiteReport

variable {report : SuiteReport}

theorem declaration_line :
    Declaration "<?xml version=\"1.0\" encoding=\"UTF-8\"?>".toList := by
  have sign : Equals ['='] := ⟨[], [], by simp [IsBlank], by simp [IsBlank], rfl⟩
  have letters : "TF-8".toList.all
      (fun char => char.isAlphanum ∨ char = '.' ∨ char = '_' ∨ char = '-') = true := by decide
  have encoding (char : Char) (member : char ∈ "TF-8".toList) :
      char.isAlphanum ∨ char = '.' ∨ char = '_' ∨ char = '-' :=
    of_decide_eq_true (List.all_eq_true.mp letters char member)
  refine ⟨" version=\"1.0\"".toList, " encoding=\"UTF-8\"".toList, [], [], ?_, .inr ?_, .inl rfl,
    by simp [IsBlank], by decide⟩
  · exact ⟨[' '], ['='], '"', "1.0".toList, by simp, by simp [IsBlank], sign, by decide,
      ⟨['0'], by simp, by decide, by decide⟩, by decide⟩
  · exact ⟨[' '], ['='], '"', "UTF-8".toList, by simp, by simp [IsBlank], sign, by decide,
      ⟨'U', "TF-8".toList, by decide, by decide, encoding⟩, by decide⟩

theorem junitAttributes_named (report : SuiteReport) (tests : Nat) :
    ∀ entry ∈ report.junitAttributes tests, isName entry.1.toList = true := by
  simp only [junitAttributes, List.forall_mem_cons]
  decide

theorem junitAttributes_allowed (suiteAllowed : IsText report.suite.toList) (tests : Nat) :
    ∀ entry ∈ report.junitAttributes tests, IsText entry.2.toList := by
  simp only [junitAttributes, List.forall_mem_cons]
  exact ⟨suiteAllowed, isText_toString _, isText_toString _, isText_toString _,
    isText_timeText _, by simp⟩

theorem junitAttributes_different (report : SuiteReport) (tests : Nat) :
    ((report.junitAttributes tests).map (·.1)).Nodup := by
  simp [junitAttributes]

/-- Without characters that no document may have, the form is a document. -/
theorem document_junitText (allowed : ∀ text ∈ report.shownTexts, IsText text.toList) :
    Document report.junitText.toList := by
  rw [shownTexts, List.forall_mem_cons] at allowed
  obtain ⟨suiteAllowed, casesAllowed⟩ := allowed
  have outer := junitAttributes_allowed suiteAllowed report.summary.total
  have inner := junitAttributes_allowed suiteAllowed report.cases.length
  have cases : Content ('\n' ::
      ((unlines (report.cases.flatMap (CaseReport.junitLines report.suite))).toList ++
        List.replicate 2 ' ')) :=
    .newLine (content_cases suiteAllowed casesAllowed (content_of_isBlank (isBlank_replicate 2)))
  have ownName : isName "testsuite".toList = true := by decide
  have suites := Content.newLine (content_line 2 ownName (report.junitAttributes_named _) inner
    (report.junitAttributes_different _) cases .nil)
  have outerName : isName "testsuites".toList = true := by decide
  have opening := startTag_openTag outerName (report.junitAttributes_named _) outer
    (report.junitAttributes_different _)
  have newLine : Misc ['\n'] := .blank (by simp [IsBlank]) .nil
  refine ⟨_, ['\n'], _, ['\n'], .inr declaration_line, newLine,
    .inr ⟨_, _, _, _, opening, suites, endTag_closeTag "testsuites", rfl⟩, newLine, ?_⟩
  simp [junitText, junitLines, toList_unlines, List.replicate]

end SuiteReport

/-! ## The characters of the document -/

/-- A line has no character that the text of all lines does not have. -/
theorem isText_of_mem_lines {lines : List String} (allowed : IsText (unlines lines).toList)
    {line : String} (member : line ∈ lines) : IsText line.toList := by
  rw [toList_unlines] at allowed
  intro char held
  exact allowed char (List.mem_flatMap.mpr ⟨line, member, List.mem_append_left _ held⟩)

theorem isText_of_isText_indented {space name : String} {attributes : List (String × String)}
    (allowed : IsText (space ++ openTag name attributes).toList) {entry : String × String}
    (member : entry ∈ attributes) : IsText entry.2.toList := by
  rw [String.toList_append, isText_append] at allowed
  exact isText_of_isText_openTag allowed.2 member

namespace CaseReport

theorem shownTexts_of_isText {suite : String} {case : CaseReport}
    (allowed : ∀ line ∈ case.junitLines suite, IsText line.toList) :
    ∀ text ∈ case.shownTexts, IsText text.toList := by
  rw [junitLines, List.forall_mem_append, List.forall_mem_append] at allowed
  obtain ⟨⟨opening, content⟩, _⟩ := allowed
  rw [List.forall_mem_singleton] at opening
  refine List.forall_mem_cons.mpr ⟨isText_of_isText_indented opening (List.mem_cons_self ..), ?_⟩
  unfold junitContent at content
  cases ended : case.status with
  | passed => simp
  | failed =>
    rw [ended] at content
    intro output member
    have line : escape output ∈ case.output?.toList.map escape := List.mem_map.mpr ⟨output, member, rfl⟩
    exact isText_escape.mp (content _ (List.mem_append_left _ (List.mem_append_right _ line)))
  | error =>
    rw [ended] at content
    intro error member
    have line := content _ (List.mem_map.mpr ⟨error, member, rfl⟩)
    rw [String.toList_append, String.toList_append, isText_append, isText_append] at line
    exact isText_escape.mp line.1.2

end CaseReport

namespace SuiteReport

variable {report : SuiteReport}

/-- A document shows no text with a character that no document may have. -/
theorem shownTexts_of_document (document : Document report.junitText.toList) :
    ∀ text ∈ report.shownTexts, IsText text.toList := by
  have lines (line : String) (member : line ∈ report.junitLines) : IsText line.toList :=
    isText_of_mem_lines document.isText member
  refine List.forall_mem_cons.mpr ⟨?_, ?_⟩
  · have outer := lines (openTag "testsuites" (report.junitAttributes report.summary.total))
      (by simp [junitLines])
    exact isText_of_isText_openTag outer (List.mem_cons_self ..)
  · intro text member
    obtain ⟨case, held, shown⟩ := List.mem_flatMap.mp member
    have ownLines : ∀ line ∈ case.junitLines report.suite, IsText line.toList := by
      intro line own
      refine lines line (List.mem_append_left _ (List.mem_append_right _ ?_))
      exact List.mem_flatMap.mpr ⟨case, held, own⟩
    exact CaseReport.shownTexts_of_isText ownLines text shown

/-- The JUnit form of a report is a well-formed XML document exactly if every character of the texts
that it shows is one that a document may have: the name of the suite, the names of the cases, the
outputs of the failed ones and the errors of those that could not be executed. -/
theorem junit_document_iff (report : SuiteReport) :
    Document (report.write .junit).toList ↔
      ∀ text ∈ report.shownTexts, IsText text.toList :=
  ⟨shownTexts_of_document, document_junitText⟩

/-- A runner that colours its output makes a report that is no document. -/
theorem junit_of_coloured_output :
    let outcome : Outcome := ⟨"coloured", false, "\x1b[31mTest failed", some 1, []⟩
    let report := SuiteReport.ofCases "suite" ⟨0⟩ ⟨0⟩ [.ofOutcome outcome 5]
    ¬ Document (report.write .junit).toList := by
  intro outcome report document
  have member : outcome.output ∈ report.shownTexts := by
    simp [report, shownTexts, ofCases, CaseReport.shownTexts, CaseReport.ofOutcome, outcome]
  have shown := shownTexts_of_document document outcome.output member
  have escapeCharacter := shown '\x1b' (by decide)
  exact absurd escapeCharacter (by decide)

end SuiteReport

end FixtureHarness
