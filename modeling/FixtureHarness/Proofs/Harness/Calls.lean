import FixtureHarness.Proofs.Catalog.Resolving
import FixtureHarness.Proofs.Harness.Suite

/-! # What the runner finds at its calls

Every call of a suite belongs to one position of the list of names. Whatever the runner and the
cases before did to the files, the call is given the paths of the writer. It finds there the
fragments and the datasets of the first test case with the name at that position, and nothing else.
-/

namespace FixtureHarness.Harness

variable {Memory : Type}

/-- An item of a list that grows by at most one item a step was added by one of the steps. -/
theorem exists_growth_step {Item : Type} {states : Nat → List Item} {bound : Nat}
    (start : states 0 = [])
    (grows : ∀ step < bound, states (step + 1) = states step ∨
      ∃ item, states (step + 1) = states step ++ [item])
    {index : Nat} {item : Item} (held : (states bound)[index]? = some item) :
    ∃ step < bound, (states step).length = index ∧ states (step + 1) = states step ++ [item] := by
  induction bound with
  | zero => simp [start] at held
  | succ bound ih =>
    have earlier := ih fun step below => grows step (Nat.lt_succ_of_lt below)
    have later (found : (states bound)[index]? = some item) :
        ∃ step < bound + 1, (states step).length = index ∧
          states (step + 1) = states step ++ [item] := by
      obtain ⟨step, below, counted, added⟩ := earlier found
      exact ⟨step, Nat.lt_succ_of_lt below, counted, added⟩
    rcases grows bound (Nat.lt_succ_self bound) with same | ⟨other, added⟩
    · rw [same] at held
      exact later held
    · rw [added, List.getElem?_append] at held
      split_ifs at held with before
      · exact later held
      · obtain ⟨behind, rfl⟩ := List.getElem?_eq_some_iff.mp held
        have counted : (states bound).length = index := by
          simp only [List.length_singleton] at behind
          omega
        refine ⟨bound, Nat.lt_succ_self bound, counted, ?_⟩
        simpa using added

/-- A name makes no call, or one that finds the fragments and datasets of its first test case. -/
theorem callsOf_cases (harness : Harness) (runner : Runner Memory) (name : String)
    (files : FileTree) (memory : Memory) :
    harness.callsOf runner name files memory = [] ∨
      ∃ call record, harness.callsOf runner name files memory = [call] ∧
        harness.catalog.tests.find? name = some record ∧ call.paths = harness.writer.paths ∧
        call.paths.Hold call.files
          (String.join (record.queries.filterMap harness.catalog.queries.get?))
          record.input record.output := by
  have step := harness.perform_step runner name files memory
  generalize (harness.perform runner name files memory).result = result at step
  generalize harness.callsOf runner name files memory = made at step ⊢
  cases step with
  | refused _ => exact .inl rfl
  | ran readies _ =>
    have held := readies.2.hold
    rw [Catalog.fixture_eq] at held
    exact .inr ⟨_, _, rfl, readies.1, rfl, held⟩

/-- A position adds no call, or one that finds the fragments and datasets of the first test case with
its name. -/
theorem calls_succ_cases (harness : Harness) (runner : Runner Memory) (clock : Clock)
    (files : FileTree) (memory : Memory) {names : List String} (position : Fin names.length) :
    let calls (count : Nat) := harness.calls runner clock (names.take count) files memory
    calls (position + 1) = calls position ∨
      ∃ call record, calls (position + 1) = calls position ++ [call] ∧
        harness.catalog.tests.find? (names.get position) = some record ∧
        call.paths = harness.writer.paths ∧
        call.paths.Hold call.files
          (String.join (record.queries.filterMap harness.catalog.queries.get?))
          record.input record.output := by
  intro calls
  have added := (harness.runSuite_at runner clock files memory position).2
  rcases harness.callsOf_cases runner (names.get position)
    (harness.runSuite runner clock (names.take position) files memory).files
    (harness.runSuite runner clock (names.take position) files memory).memory with
    none | ⟨call, record, one, found⟩
  · rw [none, List.append_nil] at added
    exact .inl added
  · rw [one] at added
    exact .inr ⟨call, record, added, found⟩

/-- At every call of a suite, the runner is given the three files of the writer in its directory. They
hold the first test case that has the name the call is made for: the fragments of its queries joined
in their order, its input and its output. -/
theorem calls_hold_fixture (harness : Harness) (runner : Runner Memory) (clock : Clock)
    (names : List String) (files : FileTree) (memory : Memory) :
    let writer := harness.writer
    let calls (count : Nat) := harness.calls runner clock (names.take count) files memory
    ∀ index : Fin (harness.calls runner clock names files memory).length,
      let call := (harness.calls runner clock names files memory).get index
      ∃ (position : Fin names.length) (record : TestCase),
        (calls position).length = index ∧ calls (position + 1) = calls position ++ [call] ∧
          harness.catalog.tests.find? (names.get position) = some record ∧
          call.paths =
            { script := writer.directory.join ⟨writer.names.statements⟩
              input := writer.directory.join ⟨writer.names.input⟩
              output := writer.directory.join ⟨writer.names.output⟩ } ∧
          call.paths.Hold call.files
            (String.join (record.queries.filterMap harness.catalog.queries.get?))
            record.input record.output := by
  intro writer calls index call
  have grows (position : Fin names.length) :=
    harness.calls_succ_cases runner clock files memory position
  have whole : (calls names.length)[index.val]? = some call := by
    simp only [calls, List.take_length]
    exact List.getElem?_eq_getElem index.isLt
  have start : calls 0 = [] := rfl
  have oneByOne : ∀ step < names.length, calls (step + 1) = calls step ∨
      ∃ item, calls (step + 1) = calls step ++ [item] := by
    intro step below
    rcases grows ⟨step, below⟩ with same | ⟨made, _, added, _⟩
    · exact .inl same
    · exact .inr ⟨made, added⟩
  obtain ⟨step, below, counted, grown⟩ := exists_growth_step start oneByOne whole
  rcases grows ⟨step, below⟩ with same | ⟨made, record, added, found⟩
  · have none := List.append_right_eq_self.mp (grown.symm.trans same)
    cases none
  · have own := List.append_cancel_left (grown.symm.trans added)
    obtain rfl : call = made := (List.cons.inj own).1
    exact ⟨⟨step, below⟩, record, counted, grown, found⟩

end FixtureHarness.Harness
