import FixtureHarness.Proofs.Text.Lines
import FixtureHarness.Proofs.Text.Occurrence
import FixtureHarness.Report.Writer
import Mathlib.Data.List.Forall2

/-! # Outputs in the text of a report

Every line of an output stands behind a bar. Without the lines that begin with the bar the text of a
report is the same whatever the outputs are. The lines behind the bars in turn tell the lines of each
output, as the block of a case ends at the empty line behind it.
-/

namespace FixtureHarness

open Text

/-! ## Lines that begin alike -/

namespace Text

/-- The lines of a text that do not begin like some other text. A line ends at a line feed. -/
def linesWithout (start : List Char) (text : List Char) : List (List Char) :=
  (splitAt '\n' text).filter fun line => !start.isPrefixOf line

/-- A text without the lines that begin like some other text. -/
def dropLines (start : List Char) (text : String) : String :=
  String.ofList (List.intercalate ['\n'] (linesWithout start text.toList))

variable {start : List Char}

theorem linesWithout_append_feed (start front rest : List Char) :
    linesWithout start (front ++ '\n' :: rest) =
      linesWithout start front ++ linesWithout start rest := by
  simp only [linesWithout, splitAt_eq_splitOn, List.splitOn_append_cons_self, List.filter_append]

theorem linesWithout_unlines (start : List Char) (lines : List String) :
    linesWithout start (unlines lines).toList =
      (lines.flatMap fun line => linesWithout start line.toList) ++ linesWithout start [] := by
  induction lines with
  | nil => rfl
  | cons line lines ih =>
    rw [toList_unlines] at ih ⊢
    rw [List.flatMap_cons, List.append_assoc, List.singleton_append, linesWithout_append_feed, ih,
      List.flatMap_cons, List.append_assoc]

/-- A single line that begins so is dropped as a whole. -/
theorem linesWithout_of_prefix {line : List Char} (oneLine : '\n' ∉ line) (starts : start <+: line) :
    linesWithout start line = [] := by
  have whole : line.splitOn '\n' = [line] := List.splitOn_eq_singleton oneLine
  rw [linesWithout, splitAt_eq_splitOn, whole]
  simpa using starts

end Text

/-! ## Cases -/

namespace CaseReport

variable {case other : CaseReport} {rest more : List Char}

/-- What stands in front of every line of an output. -/
def bar : List Char := "   | ".toList

/-- A line of an output as it is shown. -/
def barredLine (line : List Char) : String :=
  s!"   | {String.ofList line}"

/-- The case with an empty output instead of the one it has. -/
def withoutText (case : CaseReport) : CaseReport :=
  { case with output? := case.output?.map fun _ => "" }

/-- The lines of the output of a case that failed. -/
def shownLines? (case : CaseReport) : Option (List (List Char)) :=
  if case.status = .failed then case.output?.map fun output => lines output.toList else none

/-- The lines of a case before those of its output. -/
def frontLines (case : CaseReport) : List String :=
  ["", s!"[{case.status.heading}] {case.name} ({case.milliseconds}ms)"] ++
    (if case.missing.isEmpty then []
      else ["   Missing queries: " ++ ", ".intercalate case.missing]) ++
    case.error?.toList.map fun error => s!"   ERROR: {error}"

theorem plainLines_eq (case : CaseReport) :
    case.plainLines = case.frontLines ++ case.outputLines := rfl

theorem exists_toList_frontLines (case : CaseReport) :
    ∃ tail, (unlines case.frontLines).toList = '\n' :: tail := by
  refine ⟨(unlines case.frontLines.tail).toList, ?_⟩
  simp [frontLines, toList_unlines]

theorem frontLines_eq (alike : case.withoutText = other.withoutText) :
    case.frontLines = other.frontLines := by
  have fronts := congrArg frontLines alike
  exact fronts

theorem outputLines_eq (case : CaseReport) :
    case.outputLines =
      case.shownLines?.elim [] fun shown => "   TEST FAILED!!" :: shown.map barredLine := by
  obtain ⟨name, status, milliseconds, output?, error?, missing⟩ := case
  cases status <;> cases output? <;> rfl

theorem toList_barredLine (line : List Char) : (barredLine line).toList = bar ++ line := by
  have parts : barredLine line = "   | " ++ String.ofList line := rfl
  simp [parts, bar]

theorem shownLines?_withoutText (case : CaseReport) :
    case.withoutText.shownLines? = case.shownLines?.map fun _ => [] := by
  obtain ⟨name, status, milliseconds, output?, error?, missing⟩ := case
  cases status <;> cases output? <;> rfl

theorem newLine_not_mem_of_shownLines {shown : List (List Char)}
    (given : case.shownLines? = some shown) : ∀ line ∈ shown, '\n' ∉ line := by
  rw [shownLines?] at given
  split at given
  · obtain ⟨output, -, rfl⟩ := Option.map_eq_some_iff.mp given
    exact fun line => newLine_not_mem_of_mem_lines
  · cases given

/-! ## What is left without the barred lines -/

/-- What is left of lines without those that begin with the bar. -/
def leftOf (lines : List String) : List (List Char) :=
  lines.flatMap fun line => linesWithout bar line.toList

theorem leftOf_append (front back : List String) :
    leftOf (front ++ back) = leftOf front ++ leftOf back :=
  List.flatMap_append

theorem leftOf_barredLines {shown : List (List Char)} (plain : ∀ line ∈ shown, '\n' ∉ line) :
    leftOf (shown.map barredLine) = [] := by
  rw [leftOf, List.flatMap_map, List.flatMap_eq_nil_iff]
  intro line member
  have oneLine : '\n' ∉ bar ++ line := by
    rw [List.mem_append, not_or]
    exact ⟨by decide, plain line member⟩
  rw [toList_barredLine]
  exact linesWithout_of_prefix oneLine (List.prefix_append ..)

/-- What is left of a case is the same whatever its output is. -/
theorem leftOf_plainLines (case : CaseReport) :
    leftOf case.plainLines = leftOf case.withoutText.plainLines := by
  have front : case.withoutText.frontLines = case.frontLines := rfl
  have outputs : leftOf case.outputLines = leftOf case.withoutText.outputLines := by
    rw [outputLines_eq, outputLines_eq, shownLines?_withoutText]
    cases given : case.shownLines? with
    | none => rfl
    | some shown =>
      have dropped := leftOf_barredLines (newLine_not_mem_of_shownLines given)
      rw [leftOf] at dropped
      simp only [Option.elim_some, Option.map_some, leftOf, List.flatMap_cons, dropped]
      rfl
  rw [plainLines_eq, plainLines_eq, leftOf_append, leftOf_append, front, outputs]

/-! ## What the barred lines tell -/

/-- A block of barred lines ends at the first empty line. -/
theorem barredLines_append_inj {first second : List (List Char)}
    (plain : ∀ line ∈ first, '\n' ∉ line) (plainOther : ∀ line ∈ second, '\n' ∉ line)
    (same : (unlines (first.map barredLine)).toList ++ '\n' :: rest =
      (unlines (second.map barredLine)).toList ++ '\n' :: more) : first = second ∧ rest = more := by
  have cons (line : List Char) (others : List (List Char)) (rest : List Char) :
      (unlines ((line :: others).map barredLine)).toList ++ rest =
        bar ++ (line ++ '\n' :: ((unlines (others.map barredLine)).toList ++ rest)) := by
    simp [toList_unlines, toList_barredLine]
  induction first generalizing second with
  | nil =>
    cases second with
    | nil => exact ⟨rfl, (List.cons.inj same).2⟩
    | cons line second =>
      rw [cons] at same
      exact absurd (List.cons.inj same).1 (by decide)
  | cons line first ih =>
    cases second with
    | nil =>
      rw [cons] at same
      exact absurd (List.cons.inj same).1 (by decide)
    | cons other second =>
      rw [List.forall_mem_cons] at plain plainOther
      rw [cons, cons, List.append_cancel_left_eq,
        append_cons_inj_of_not_mem plain.1 plainOther.1] at same
      obtain ⟨rfl, behind⟩ := same
      obtain ⟨rfl, rfl⟩ := ih plain.2 plainOther.2 behind
      exact ⟨rfl, rfl⟩

theorem outputLines_append_inj (alike : case.withoutText = other.withoutText)
    (same : (unlines case.outputLines).toList ++ '\n' :: rest =
      (unlines other.outputLines).toList ++ '\n' :: more) :
    case.shownLines? = other.shownLines? ∧ rest = more := by
  have both : (case.shownLines?.map fun _ => ([] : List (List Char))) =
      other.shownLines?.map fun _ => [] := by
    rw [← shownLines?_withoutText, ← shownLines?_withoutText, alike]
  rw [outputLines_eq, outputLines_eq] at same
  cases given : case.shownLines? with
  | none =>
    cases givenOther : other.shownLines? with
    | none =>
      rw [given, givenOther] at same
      exact ⟨rfl, (List.cons.inj same).2⟩
    | some shown => simp [given, givenOther] at both
  | some shown =>
    cases givenOther : other.shownLines? with
    | none => simp [given, givenOther] at both
    | some shownOther =>
      have block (shown : List (List Char)) (rest : List Char) :
          (unlines ("   TEST FAILED!!" :: shown.map barredLine)).toList ++ rest =
            "   TEST FAILED!!\n".toList ++ ((unlines (shown.map barredLine)).toList ++ rest) := by
        simp [toList_unlines]
      rw [given, givenOther, Option.elim_some, Option.elim_some, block, block,
        List.append_cancel_left_eq] at same
      obtain ⟨rfl, rfl⟩ := barredLines_append_inj (newLine_not_mem_of_shownLines given)
        (newLine_not_mem_of_shownLines givenOther) same
      exact ⟨rfl, rfl⟩

/-- The text of cases, alike but for their outputs, tells the lines of the outputs that it shows. -/
theorem plainLines_cases_inj {cases others : List CaseReport}
    (alike : List.Forall₂ (fun case other => case.withoutText = other.withoutText) cases others)
    (same : (unlines (cases.flatMap plainLines)).toList ++ '\n' :: rest =
      (unlines (others.flatMap plainLines)).toList ++ '\n' :: rest) :
    List.Forall₂ (fun case other => case.shownLines? = other.shownLines?) cases others := by
  have cons (case : CaseReport) (cases : List CaseReport) :
      (unlines ((case :: cases).flatMap plainLines)).toList ++ '\n' :: rest =
        (unlines case.frontLines).toList ++ ((unlines case.outputLines).toList ++
          ((unlines (cases.flatMap plainLines)).toList ++ '\n' :: rest)) := by
    simp only [List.flatMap_cons, plainLines_eq, toList_unlines_append, List.append_assoc]
  -- Behind every block stands the empty line before the next case or before the last line.
  have begins (cases : List CaseReport) : ∃ tail,
      (unlines (cases.flatMap plainLines)).toList ++ '\n' :: rest = '\n' :: tail := by
    cases cases with
    | nil => exact ⟨rest, rfl⟩
    | cons case cases =>
      obtain ⟨tail, starts⟩ := exists_toList_frontLines case
      exact ⟨_, by rw [cons, starts, List.cons_append]⟩
  induction alike with
  | nil => exact .nil
  | @cons case other cases others first _ ih =>
    rw [cons, cons, frontLines_eq first, List.append_cancel_left_eq] at same
    obtain ⟨tail, behind⟩ := begins cases
    obtain ⟨tailOther, behindOther⟩ := begins others
    rw [behind, behindOther] at same
    obtain ⟨lines, tails⟩ := outputLines_append_inj first same
    exact .cons lines (ih (by rw [behind, behindOther, tails]))

theorem plainLines_cases_eq {cases others : List CaseReport}
    (alike : List.Forall₂ (fun case other => case.withoutText = other.withoutText) cases others)
    (shown : List.Forall₂ (fun case other => case.shownLines? = other.shownLines?) cases others) :
    cases.flatMap plainLines = others.flatMap plainLines := by
  induction alike with
  | nil => rfl
  | cons first _ ih =>
    obtain _ | ⟨lines, others⟩ := shown
    simp only [List.flatMap_cons, plainLines_eq, outputLines_eq, frontLines_eq first, lines,
      ih others]

end CaseReport

/-! ## Reports -/

namespace SuiteReport

variable {report other : SuiteReport}

/-- The report with empty outputs instead of those it has. -/
def withoutTexts (report : SuiteReport) : SuiteReport :=
  { report with cases := report.cases.map CaseReport.withoutText }

/-- The lines before those of the cases. -/
def headLines (report : SuiteReport) : List String :=
  ["", "Transformer Test Report", "========================================",
    s!"Suite: {report.suite}", s!"Run ID: {report.runId}", s!"Duration: {report.milliseconds}ms"]

/-- The line behind the last empty line. -/
def lastLine (report : SuiteReport) : String :=
  s!"there are {report.summary.passed} passed and " ++
    s!"{report.summary.unpassed} failed tests"

theorem plainLines_eq (report : SuiteReport) :
    report.plainLines =
      report.headLines ++ report.cases.flatMap CaseReport.plainLines ++ ["", report.lastLine] := rfl

theorem toList_plainText (report : SuiteReport) :
    report.plainText.toList = (unlines report.headLines).toList ++
      ((unlines (report.cases.flatMap CaseReport.plainLines)).toList ++
        '\n' :: (report.lastLine.toList ++ ['\n'])) := by
  rw [plainText, plainLines_eq, toList_unlines_append, toList_unlines_append, List.append_assoc]
  simp [toList_unlines]

/-- Without the barred lines, the text of a report is the one with empty outputs. -/
theorem dropLines_plainText (report : SuiteReport) :
    dropLines CaseReport.bar report.plainText =
      dropLines CaseReport.bar report.withoutTexts.plainText := by
  have head : report.withoutTexts.headLines = report.headLines := rfl
  have last : report.withoutTexts.lastLine = report.lastLine := rfl
  have cases : CaseReport.leftOf (report.cases.flatMap CaseReport.plainLines) =
      CaseReport.leftOf (report.withoutTexts.cases.flatMap CaseReport.plainLines) := by
    rw [withoutTexts, List.flatMap_map, CaseReport.leftOf, CaseReport.leftOf, List.flatMap_assoc,
      List.flatMap_assoc]
    exact List.flatMap_congr fun case _ => case.leftOf_plainLines
  have lines : CaseReport.leftOf report.plainLines =
      CaseReport.leftOf report.withoutTexts.plainLines := by
    simp only [plainLines_eq, CaseReport.leftOf_append, head, last, cases]
  rw [CaseReport.leftOf, CaseReport.leftOf] at lines
  rw [dropLines, dropLines, plainText, plainText, linesWithout_unlines, linesWithout_unlines, lines]

/-- Reports that are alike but for their outputs have the same text exactly if each failed case has
the same lines of output in both. -/
theorem plainText_eq_iff (alike : report.withoutTexts = other.withoutTexts) :
    report.plainText = other.plainText ↔
      List.Forall₂ (fun case other => case.shownLines? = other.shownLines?) report.cases other.cases := by
  have cases : List.Forall₂ (fun case other => CaseReport.withoutText case = other.withoutText)
      report.cases other.cases := by
    have each : report.cases.map CaseReport.withoutText = other.cases.map CaseReport.withoutText :=
      congrArg (·.cases) alike
    rwa [← List.forall₂_eq_eq_eq, List.forall₂_map_left_iff, List.forall₂_map_right_iff] at each
  have head : report.headLines = other.headLines := by
    have heads := congrArg headLines alike
    exact heads
  have last : report.lastLine = other.lastLine := by
    have lasts := congrArg lastLine alike
    exact lasts
  constructor
  · intro same
    rw [← String.toList_inj, toList_plainText, toList_plainText, head, last,
      List.append_cancel_left_eq] at same
    exact CaseReport.plainLines_cases_inj cases same
  · intro shown
    rw [plainText, plainText, plainLines_eq, plainLines_eq, head, last,
      CaseReport.plainLines_cases_eq cases shown]

/-- Two reports that differ in the texts of outputs only, whatever these texts are, are the same text
but for the lines behind bars. They are the same text as a whole exactly if every case that failed
has the same lines of output in both. -/
theorem text_confines_outputs (alike : report.withoutTexts = other.withoutTexts) :
    dropLines CaseReport.bar (report.write .text) = dropLines CaseReport.bar (other.write .text) ∧
      (report.write .text = other.write .text ↔
        List.Forall₂ (fun case other => case.shownLines? = other.shownLines?)
          report.cases other.cases) := by
  refine ⟨?_, plainText_eq_iff alike⟩
  rw [write, write, dropLines_plainText report, dropLines_plainText other, alike]

/-- A report of a case that failed with some output, and of one that could not be executed. -/
def failing (output : String) : SuiteReport :=
  .ofCases "suite" ⟨0⟩ ⟨0⟩
    [.ofOutcome ⟨"t1", false, output, some 1, []⟩ 5, .ofFailure "t2" (.unknownTestCase "t2") 0]

/-- Lines that look like an error, a heading and the end of the report, with different endings. -/
theorem text_confines_misleading_outputs :
    let report := failing
      "\r\n   ERROR: none\n\n[PASSED] t1 (5ms)\n\nthere are 2 passed and 0 failed tests"
    let other := failing
      "\n   ERROR: none\r\n\n[PASSED] t1 (5ms)\r\n\nthere are 2 passed and 0 failed tests\n"
    report.withoutTexts = other.withoutTexts ∧
      dropLines CaseReport.bar (report.write .text) = dropLines CaseReport.bar (other.write .text) ∧
      report.write .text = other.write .text ∧ report ≠ other := by
  intro report other
  have alike : report.withoutTexts = other.withoutTexts := rfl
  have shown : List.Forall₂ (fun case other => CaseReport.shownLines? case = other.shownLines?)
      report.cases other.cases := .cons (by decide) (.cons rfl .nil)
  obtain ⟨rest, whole⟩ := text_confines_outputs alike
  refine ⟨alike, rest, whole.mpr shown, fun same => ?_⟩
  have outputs := congrArg (fun report => report.cases.map (·.output?)) same
  exact absurd outputs (by decide)

end SuiteReport

end FixtureHarness
