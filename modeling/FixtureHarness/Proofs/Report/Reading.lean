import FixtureHarness.Proofs.Json.Decoding
import FixtureHarness.Report.Writer

/-! # Reading a report back

A report that was written as a JSON document is read back as it was, whatever characters its texts
hold. A text that is missing, an empty one and a list without queries stay apart, because what is
left out on writing is what reading takes its absence for.
-/

namespace FixtureHarness

open Json

/-! ## Decoding -/

theorem CaseStatus.restores_name : Restores ofJson? fun status => .text status.name := by
  intro status
  cases status with
  | passed => rfl
  | failed => rfl
  | error => rfl

theorem Summary.restores_toJson : Restores ofJson? toJson := by
  intro summary
  obtain ⟨members, form⟩ : ∃ members, summary.toJson.canonical = .object members := ⟨_, rfl⟩
  have total : decodeMember? members "total" (decodeCount "usize") = .ok (some summary.total) :=
    (restores_count _).member form rfl
  have passed : decodeMember? members "passed" (decodeCount "usize") = .ok (some summary.passed) :=
    (restores_count _).member form rfl
  have failed : decodeMember? members "failed" (decodeCount "usize") = .ok (some summary.failed) :=
    (restores_count _).member form rfl
  have errors : decodeMember? members "errors" (decodeCount "usize") = .ok (some summary.errors) :=
    (restores_count _).member form rfl
  rw [form, ofJson?]
  simp only [ofMembers?, total, passed, failed, errors]
  rfl

namespace CaseReport

/-- The missing queries as they are written: an empty list is left out. -/
def writtenMissing? (case : CaseReport) : Option (List String) :=
  if case.missing.isEmpty then none else some case.missing

theorem getD_writtenMissing (case : CaseReport) : case.writtenMissing?.getD [] = case.missing := by
  unfold writtenMissing?
  cases case.missing with
  | nil => rfl
  | cons query rest => rfl

/-- What is written under a key. Each of the last three fields may have been left out. -/
theorem written_toJson (case : CaseReport) (key : String) :
    case.toJson.written? key =
      ((if "missing_queries" = key then
          case.writtenMissing?.map fun queries => .array (queries.map .text) else none).or <|
        (if "error" = key then case.error?.map .text else none).or <|
        (if "output" = key then case.output?.map .text else none).or <|
        lastValue? key [("name", .text case.name), ("status", .text case.status.name),
          ("duration_ms", .number (.integer case.milliseconds))]) := by
  have missing : (if case.missing.isEmpty then []
      else [("missing_queries", Json.array (case.missing.map .text))]) =
      case.writtenMissing?.toList.map fun queries =>
        ("missing_queries", Json.array (queries.map .text)) := by
    unfold writtenMissing?
    split <;> rfl
  rw [toJson, missing, written?, lastValue_append_entries, lastValue_append_entries,
    lastValue_append_entries, lastValue_optional, lastValue_optional, lastValue_optional]

theorem restores_toJson : Restores ofJson? toJson := by
  intro case
  obtain ⟨members, form⟩ : ∃ members, case.toJson.canonical = .object members := ⟨_, rfl⟩
  have name : decodeMember? members "name" decodeText = .ok (some case.name) :=
    restores_text.member form (by rw [written_toJson]; rfl)
  have status : decodeMember? members "status" CaseStatus.ofJson? = .ok (some case.status) :=
    CaseStatus.restores_name.member form (by rw [written_toJson]; rfl)
  have milliseconds : decodeMember? members "duration_ms" (decodeCount "u64") =
      .ok (some case.milliseconds) :=
    (restores_count _).member form (by rw [written_toJson]; rfl)
  have output : decodeMember? members "output" (decodeOptional decodeText) =
      .ok (case.output?.map some) := by
    apply restores_optionalText.member form
    rw [written_toJson]
    cases case.output? <;> rfl
  have error : decodeMember? members "error" (decodeOptional decodeText) =
      .ok (case.error?.map some) := by
    apply restores_optionalText.member form
    rw [written_toJson]
    cases case.error? <;> rfl
  have missing : decodeMember? members "missing_queries" (decodeList decodeText) =
      .ok case.writtenMissing? := by
    apply restores_text.list.member form
    rw [written_toJson]
    cases case.writtenMissing? <;> rfl
  have joined (text? : Option String) : (text?.map some).join = text? := by
    cases text? <;> rfl
  rw [form, ofJson?]
  simp only [ofMembers?, name, status, milliseconds, output, error, missing, needField, bind,
    Except.bind, joined, getD_writtenMissing]

end CaseReport

theorem SuiteReport.restores_toJson : Restores ofJson? toJson := by
  intro report
  obtain ⟨members, form⟩ : ∃ members, report.toJson.canonical = .object members := ⟨_, rfl⟩
  have suite : decodeMember? members "suite" decodeText = .ok (some report.suite) :=
    restores_text.member form rfl
  have runId : decodeMember? members "run_id" decodeText = .ok (some report.runId) :=
    restores_text.member form rfl
  have startTime : decodeMember? members "start_time" decodeText = .ok (some report.startTime) :=
    restores_text.member form rfl
  have endTime : decodeMember? members "end_time" decodeText = .ok (some report.endTime) :=
    restores_text.member form rfl
  have milliseconds : decodeMember? members "duration_ms" (decodeCount "u64") =
      .ok (some report.milliseconds) :=
    (restores_count _).member form rfl
  have summary : decodeMember? members "summary" Summary.ofJson? = .ok (some report.summary) :=
    Summary.restores_toJson.member form rfl
  have cases : decodeMember? members "cases" (decodeList CaseReport.ofJson?) =
      .ok (some report.cases) :=
    CaseReport.restores_toJson.list.member form rfl
  rw [form, ofJson?]
  simp only [ofMembers?, suite, runId, startTime, endTime, milliseconds, summary, cases]
  rfl

/-! ## Bounds -/

/-- A count that has room in 64 bits. -/
def IsCount64 (count : Nat) : Prop :=
  count < 2 ^ 64

/-- The numbers of cases have room in 64 bits. -/
structure Summary.Fits (summary : Summary) : Prop where
  total : IsCount64 summary.total
  passed : IsCount64 summary.passed
  failed : IsCount64 summary.failed
  errors : IsCount64 summary.errors

/-- All numbers of a report have room in 64 bits. -/
structure SuiteReport.Fits (report : SuiteReport) : Prop where
  milliseconds : IsCount64 report.milliseconds
  summary : report.summary.Fits
  cases : ∀ case ∈ report.cases, IsCount64 case.milliseconds

theorem IsCount64.hasIntegers {count : Nat} (fits : IsCount64 count) :
    (Json.number (.integer count)).HasIntegers := by
  have notNegative : (0 : Int) ≤ count := Int.natCast_nonneg count
  have bounded : (count : Int) < 2 ^ 64 := by
    unfold IsCount64 at fits
    exact_mod_cast fits
  exact ⟨count, rfl, by omega, bounded⟩

theorem hasIntegers_texts (texts : List String) : (Json.array (texts.map .text)).HasIntegers := by
  refine ⟨trivial, everyItem_iff.mpr ?_⟩
  intro item held
  obtain ⟨text, -, rfl⟩ := List.mem_map.mp held
  trivial

theorem nesting_texts (texts : List String) : (Json.array (texts.map .text)).nesting ≤ 1 := by
  rw [nesting]
  apply Nat.succ_le_succ
  apply itemsNesting_le_iff.mpr
  intro item held
  obtain ⟨text, -, rfl⟩ := List.mem_map.mp held
  exact Nat.le_refl 0

namespace CaseReport

/-- The values of a case: texts, a count, and a list of texts. -/
theorem values_toJson {case : CaseReport} {members : List (String × Json)}
    (form : case.toJson = .object members) {member : String × Json} (held : member ∈ members) :
    (∃ text, member.2 = .text text) ∨ member.2 = .number (.integer case.milliseconds) ∨
      member.2 = .array (case.missing.map .text) := by
  obtain rfl := Json.object.inj form
  rcases List.mem_append.mp held with held | missing
  · rcases List.mem_append.mp held with held | error
    · rcases List.mem_append.mp held with held | output
      · simp only [List.mem_cons, List.not_mem_nil, or_false] at held
        rcases held with rfl | rfl | rfl
        · exact .inl ⟨_, rfl⟩
        · exact .inl ⟨_, rfl⟩
        · exact .inr (.inl rfl)
      · obtain ⟨text, -, rfl⟩ := List.mem_map.mp output
        exact .inl ⟨text, rfl⟩
    · obtain ⟨text, -, rfl⟩ := List.mem_map.mp error
      exact .inl ⟨text, rfl⟩
  · split at missing
    · cases missing
    · obtain rfl := List.mem_singleton.mp missing
      exact .inr (.inr rfl)

theorem hasIntegers_toJson {case : CaseReport} (fits : IsCount64 case.milliseconds) :
    case.toJson.HasIntegers := by
  refine ⟨trivial, everyMember_iff.mpr ?_⟩
  intro member held
  rcases values_toJson rfl held with ⟨text, same⟩ | same | same
  · rw [same]
    trivial
  · rw [same]
    exact fits.hasIntegers
  · rw [same]
    exact hasIntegers_texts case.missing

theorem nesting_toJson (case : CaseReport) : case.toJson.nesting ≤ 2 := by
  apply Nat.succ_le_succ
  apply membersNesting_le_iff.mpr
  intro member held
  rcases values_toJson rfl held with ⟨text, same⟩ | same | same
  · rw [same]
    exact Nat.zero_le 1
  · rw [same]
    exact Nat.zero_le 1
  · rw [same]
    exact nesting_texts case.missing

end CaseReport

namespace SuiteReport

variable {report : SuiteReport}

theorem hasIntegers_toJson (fits : report.Fits) : report.toJson.HasIntegers := by
  obtain ⟨milliseconds, ⟨total, passed, failed, errors⟩, cases⟩ := fits
  have summary : report.summary.toJson.HasIntegers :=
    ⟨trivial, total.hasIntegers, passed.hasIntegers, failed.hasIntegers, errors.hasIntegers,
      trivial⟩
  have items : (Json.array (report.cases.map CaseReport.toJson)).HasIntegers := by
    refine ⟨trivial, everyItem_iff.mpr ?_⟩
    intro item held
    obtain ⟨case, member, rfl⟩ := List.mem_map.mp held
    exact CaseReport.hasIntegers_toJson (cases case member)
  exact ⟨trivial, trivial, trivial, trivial, trivial, milliseconds.hasIntegers, summary, items,
    trivial⟩

theorem nesting_toJson (report : SuiteReport) : report.toJson.nesting ≤ nestingLimit := by
  have items : (Json.array (report.cases.map CaseReport.toJson)).nesting ≤ 3 := by
    apply Nat.succ_le_succ
    apply itemsNesting_le_iff.mpr
    intro item held
    obtain ⟨case, -, rfl⟩ := List.mem_map.mp held
    exact case.nesting_toJson
  have bound : report.toJson.nesting ≤ 4 := by
    rw [nesting] at items
    simp only [toJson, Summary.toJson, nesting, membersNesting]
    omega
  exact bound.trans (by decide)

/-! ## Reading back -/

/-- A report whose numbers have room in 64 bits is read back from its JSON document as it was,
whatever its texts are and whichever of them are missing. -/
theorem read_json_of_fits (fits : report.Fits) :
    ∃ document, Json.ofText? (report.write .json) = .ok document ∧
      ofJson? document = .ok report := by
  have lineEnd : IsBlank "\n".toList := by
    simp [IsBlank, Cursor.isSpace]
  exact ⟨report.toJson.canonical,
    ofText_pretty_append (hasIntegers_toJson fits) report.nesting_toJson lineEnd,
    restores_toJson report⟩

/-- A report with the greatest numbers, a missing text beside an empty one, and texts of quotes,
control characters and lines. -/
def strange : SuiteReport where
  suite := "\"suite\"\\ \u0000"
  runId := ""
  startTime := "\n"
  endTime := "\u001b[31m"
  milliseconds := 18446744073709551615
  summary := ⟨18446744073709551615, 0, 1, 18446744073709551615⟩
  cases := [⟨"", .failed, 18446744073709551615, some "", none, ["", "ghost"]⟩,
    ⟨"null", .error, 0, none, some "\u007f\"", []⟩, ⟨"😀", .passed, 7, none, some "", []⟩]

theorem strange_read_json : strange.Fits ∧
    ∃ document, Json.ofText? (strange.write .json) = .ok document ∧
      ofJson? document = .ok strange := by
  have fits : strange.Fits := by
    refine ⟨?_, ⟨?_, ?_, ?_, ?_⟩, ?_⟩
    all_goals simp [IsCount64, strange]
  exact ⟨fits, read_json_of_fits fits⟩

end SuiteReport

end FixtureHarness
