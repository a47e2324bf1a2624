import FixtureHarness.Catalog.TestCase
import FixtureHarness.Proofs.Json.Skipping
import FixtureHarness.Proofs.Json.Typed

/-! # Reading the test-case catalog

Which documents are test cases, and which catalog a text is read to. A case is an object with each of
its fields once, whatever other members it has, or an array of its four fields; only the names of the
fragments may be missing, and only in an object.
-/

namespace FixtureHarness

open Json

namespace TestCase

/-! ## Written test cases -/

/-- The fields of a test case as they are written, with the datasets as documents. -/
structure Form where
  name : String
  queries : List String
  input : Source
  output : Source

/-- The values that members have under a key, in order. -/
def valuesUnder (key : String) (members : List (List Piece × Source)) : List Source :=
  members.filterMap fun member =>
    if decode member.1 = some key.toList then some member.2 else none

/-- The names of fragments that a document lists. -/
def queryNames? : Source → Option (List String) :=
  Source.list? Source.string?

/-- The value of a list that has one. -/
def only? {Item : Type} : List Item → Option Item
  | [item] => some item
  | _ => none

/-- The names of fragments under a key that may be missing. -/
def optionalNames? : List Source → Option (List String)
  | [] => some []
  | values => (only? values).bind queryNames?

/-- The fields of an object. Members under other keys may be anything. -/
def formOfMembers? (members : List (List Piece × Source)) : Option Form :=
  if members.all fun member => (decode member.1).isSome then do
    let name ← (only? (valuesUnder "name" members)).bind Source.string?
    let queries ← optionalNames? (valuesUnder "sql_queries" members)
    let input ← only? (valuesUnder "input" members)
    let output ← only? (valuesUnder "output" members)
    some ⟨name, queries, input, output⟩
  else none

/-- The fields of a document that is a test case. -/
def form? : Source → Option Form
  | .object members => formOfMembers? members
  | .array [name, queries, input, output] => do
    some ⟨← name.string?, ← queryNames? queries, input, output⟩
  | _ => none

/-- The text that a written dataset is stored as. -/
def stored? (dataset : Source) : Option String :=
  (valueWithin? datasetNesting dataset).map datasetText

/-- The test case of some written fields. -/
def Form.case? (form : Form) : Option TestCase := do
  some ⟨form.name, form.queries, ← stored? form.input, ← stored? form.output⟩

/-- The test case that a document is read to. -/
def ofSource? (source : Source) : Option TestCase := do
  (← form? source).case?

/-! ## Fields one by one -/

theorem reads_readDataset : Reads readDataset stored? :=
  (reads_readNested datasetNesting).andReturn datasetText

theorem reads_queryNames : Reads (readList readText) queryNames? :=
  reads_readText.list

/-- A draft with one more field of a written case. A field that is there already makes none. -/
def Draft.take? (draft : Draft) (key : String) (value : Source) : Option Draft :=
  match key with
  | "name" =>
    if draft.name?.isSome then none
    else value.string?.map fun name => { draft with name? := some name }
  | "sql_queries" =>
    if draft.queries?.isSome then none
    else (queryNames? value).map fun queries => { draft with queries? := some queries }
  | "input" =>
    if draft.input?.isSome then none
    else (stored? value).map fun input => { draft with input? := some input }
  | "output" =>
    if draft.output?.isSome then none
    else (stored? value).map fun output => { draft with output? := some output }
  | _ => some draft

section
variable {Item Result : Type} {read : Reader Item} {meaning? : Source → Option Item}

/-- What is read behind a colon is a value. -/
theorem behindColon_sound (reads : Reads read meaning?) (update : Item → Result)
    {cursor after : Cursor} {result : Result}
    (taken : (do
      let ((), cursor) ← readColon cursor
      let (item, cursor) ← read cursor
      .ok (update item, cursor)) = Except.ok (result, after)) :
    ∃ colon source body, IsColon colon ∧ Source.WrittenAs source body ∧
      cursor.rest = colon ++ (body ++ after.rest) ∧ (meaning? source).map update = some result := by
  simp only [bind_eq_ok_iff, Prod.exists] at taken
  obtain ⟨_, behind, colon, item, last, taken, same⟩ := taken
  cases same
  obtain ⟨before, beforeText, spelledColon⟩ := readColon_sound colon
  obtain ⟨space, source, body, spaceText, written, spelled, means⟩ := reads.sound taken
  refine ⟨before ++ ':' :: space, source, body, ⟨before, space, beforeText, spaceText, rfl⟩,
    written, ?_, by rw [means]; rfl⟩
  rw [spelledColon, spelled]
  simp only [List.append_assoc, List.cons_append]

theorem takes_behindColon (reads : Reads read meaning?) (update : Item → Result)
    {colon body rest : List Char} {source : Source} {result : Result} (isColon : IsColon colon)
    (written : source.WrittenAs body) (means : (meaning? source).map update = some result)
    (delimited : Delimited rest) (offset : Nat) : ∃ after,
      (do
        let ((), cursor) ← readColon ⟨colon ++ (body ++ rest), offset⟩
        let (item, cursor) ← read cursor
        .ok (update item, cursor)) = Except.ok (result, ⟨rest, after⟩) := by
  obtain ⟨item, itemMeans, rfl⟩ := Option.map_eq_some_iff.mp means
  obtain ⟨before, space, beforeText, spaceText, rfl⟩ := isColon
  obtain ⟨middle, colonTaken⟩ := takes_readColon beforeText (space ++ (body ++ rest)) offset
  obtain ⟨after, taken⟩ := reads.complete spaceText written itemMeans delimited middle
  refine ⟨after, ?_⟩
  simp only [List.append_assoc, List.cons_append, colonTaken, taken, bind, Except.bind]

/-- What is read as a field is a value behind a colon, and the field was not there yet. -/
theorem absentField_sound (reads : Reads read meaning?) {update : Item → Result} {present : Bool}
    {failed : ReadError} {cursor after : Cursor} {result : Result}
    (taken : (if present then .error failed else do
      let ((), cursor) ← readColon cursor
      let (item, cursor) ← read cursor
      .ok (update item, cursor)) = Except.ok (result, after)) :
    ∃ colon source body, IsColon colon ∧ Source.WrittenAs source body ∧
      cursor.rest = colon ++ (body ++ after.rest) ∧
      (if present then none else (meaning? source).map update) = some result := by
  cases present with
  | true => cases taken
  | false => exact behindColon_sound reads update taken

theorem takes_absentField (reads : Reads read meaning?) {update : Item → Result}
    {present : Bool} (failed : ReadError) {colon body rest : List Char} {source : Source}
    {result : Result} (isColon : IsColon colon) (written : source.WrittenAs body)
    (means : (if present then none else (meaning? source).map update) = some result)
    (delimited : Delimited rest) (offset : Nat) : ∃ after,
      (if present then .error failed else do
        let ((), cursor) ← readColon ⟨colon ++ (body ++ rest), offset⟩
        let (item, cursor) ← read cursor
        .ok (update item, cursor)) = Except.ok (result, ⟨rest, after⟩) := by
  cases present with
  | true => cases means
  | false => exact takes_behindColon reads update isColon written means delimited offset

end

theorem readField_sound {key : String} {draft draft' : Draft} {cursor after : Cursor}
    (read : readField key draft cursor = .ok (draft', after)) :
    ∃ colon source body, IsColon colon ∧ Source.WrittenAs source body ∧
      cursor.rest = colon ++ (body ++ after.rest) ∧ draft.take? key source = some draft' := by
  unfold readField at read
  unfold Draft.take?
  dsimp only at read
  split at read
  · exact absentField_sound reads_readText read
  · exact absentField_sound reads_queryNames read
  · exact absentField_sound reads_readDataset read
  · exact absentField_sound reads_readDataset read
  · obtain ⟨colon, source, body, isColon, written, spelled, same⟩ :=
      behindColon_sound reads_skipValue (fun _ => draft) read
    cases same
    exact ⟨colon, source, body, isColon, written, spelled, by simp⟩

theorem takes_readField {key : String} {draft draft' : Draft} {colon body rest : List Char}
    {source : Source} (isColon : IsColon colon) (written : source.WrittenAs body)
    (means : draft.take? key source = some draft') (delimited : Delimited rest) :
    Takes (readField key draft) (colon ++ (body ++ rest)) draft' rest := by
  intro offset
  unfold Draft.take? at means
  unfold readField
  dsimp only
  split at means
  · exact takes_absentField reads_readText _ isColon written means delimited offset
  · exact takes_absentField reads_queryNames _ isColon written means delimited offset
  · exact takes_absentField reads_readDataset _ isColon written means delimited offset
  · exact takes_absentField reads_readDataset _ isColon written means delimited offset
  · cases means
    have taken := takes_behindColon reads_skipValue (fun _ => draft) isColon written rfl delimited
      offset
    simpa using taken

/-! ## All fields -/

/-- A draft with the fields of some members. -/
def Draft.takeAll? : Draft → List (List Piece × Source) → Option Draft
  | draft, [] => some draft
  | draft, (key, value) :: rest => do
    let chars ← decode key
    let draft ← draft.take? (String.ofList chars) value
    draft.takeAll? rest

theorem readFields_sound {fuel : Nat} : ∀ {first : Bool} {draft : Draft} {cursor after : Cursor}
    {case : TestCase}, readFields fuel first draft cursor = .ok (case, after) →
      ∃ members body draft', MembersWrittenAs first members body ∧
        cursor.rest = body ++ after.rest ∧ draft.takeAll? members = some draft' ∧
        draft'.complete? = .ok case := by
  induction fuel with
  | zero =>
    intro first draft cursor after case read
    cases read
  | succ fuel ih =>
    intro first draft cursor after case read
    simp only [readFields, bind_eq_ok_iff, Prod.exists] at read
    obtain ⟨key?, behindKey, keyRead, read⟩ := read
    have keySound := readKey_sound keyRead
    cases key? with
    | none =>
      obtain ⟨blank, more, blankText, spelled, found⟩ := keySound
      dsimp only at read
      split at read
      · next complete =>
        cases read
        refine ⟨[], blank ++ ['\x7d'], draft, ⟨blank, blankText, rfl⟩, ?_, rfl, complete⟩
        rw [spelled, found]
        simp [found]
      · cases read
    | some key =>
      obtain ⟨gap, pieces, between, valid, decoded, spelled⟩ := keySound
      simp only [bind_eq_ok_iff, Prod.exists] at read
      obtain ⟨draft', behindField, fieldRead, read⟩ := read
      obtain ⟨colon, source, body, isColon, written, spelledField, means⟩ :=
        readField_sound fieldRead
      obtain ⟨members, tail, last, writtenTail, spelledTail, meanTail, complete⟩ := ih read
      refine ⟨(pieces, source) :: members, gap ++ (quotedText pieces ++ (colon ++ (body ++ tail))),
        last, ⟨gap, colon, body, tail, between, valid, isColon, written, writtenTail, rfl⟩, ?_, ?_,
        complete⟩
      · rw [spelled, spelledField, spelledTail]
        simp only [List.append_assoc]
      · simp [Draft.takeAll?, decoded, means, meanTail]

theorem takes_readFields {members : List (List Piece × Source)} : ∀ {fuel : Nat} {first : Bool}
    {draft draft' : Draft} {body : List Char} {case : TestCase},
      MembersWrittenAs first members body → draft.takeAll? members = some draft' →
        draft'.complete? = .ok case → body.length < fuel → ∀ rest,
          Takes (readFields fuel first draft) (body ++ rest) case rest := by
  induction members with
  | nil =>
    intro fuel first draft draft' body case written means complete enough rest offset
    obtain ⟨blank, blankText, rfl⟩ := written
    obtain _ | fuel := fuel
    · exact (Nat.not_lt_zero _ enough).elim
    cases means
    obtain ⟨after, taken⟩ := takes_readKey_end blankText rest offset
    refine ⟨after + 1, ?_⟩
    rw [List.append_assoc, List.singleton_append, readFields, taken]
    simp [bind, Except.bind, complete]
  | cons member members ih =>
    intro fuel first draft draft' body case written means complete enough rest offset
    obtain ⟨key, source⟩ := member
    obtain ⟨gap, colon, inside, tail, between, valid, isColon, writtenValue, writtenTail, rfl⟩ := written
    obtain _ | fuel := fuel
    · exact (Nat.not_lt_zero _ enough).elim
    simp only [Draft.takeAll?, bind, Option.bind_eq_some_iff] at means
    obtain ⟨chars, decoded, middle, means, meanTail⟩ := means
    have shorter : tail.length < fuel := by
      have quote : 0 < (quotedText key).length := Nat.succ_pos _
      simp only [List.length_append] at enough
      omega
    obtain ⟨o₁, keyRead⟩ := takes_readKey between valid decoded
      (colon ++ (inside ++ (tail ++ rest))) offset
    obtain ⟨o₂, fieldRead⟩ :=
      takes_readField isColon writtenValue means (writtenTail.delimited rest) o₁
    obtain ⟨after, more⟩ := ih writtenTail meanTail complete shorter rest o₂
    refine ⟨after, ?_⟩
    simp only [List.append_assoc, readFields, keyRead, fieldRead, more, bind, Except.bind]

/-! ## Which members make a case -/

/-- What a field holds after some values under its key: nothing may be put over a value. -/
def held? {Item : Type} (meaning? : Source → Option Item) :
    Option Item → List Source → Option (Option Item)
  | item?, [] => some item?
  | none, [value] => (meaning? value).map some
  | _, _ => none

section
variable {Item : Type} {meaning? : Source → Option Item}

@[simp] theorem held_nil (item? : Option Item) : held? meaning? item? [] = some item? := by
  cases item? <;> rfl

theorem held_append (item? : Option Item) (front back : List Source) :
    held? meaning? item? (front ++ back) =
      (held? meaning? item? front).bind fun item? => held? meaning? item? back := by
  obtain _ | ⟨value, more⟩ := front
  · simp
  cases item? with
  | some item => simp [held?]
  | none =>
    obtain _ | ⟨next, more⟩ := more
    · cases back with
      | nil => simp
      | cons next back => cases found : meaning? value <;> simp [held?, found]
    · simp [held?]

theorem held_singleton (item? : Option Item) (value : Source) :
    held? meaning? item? [value] =
      if item?.isSome then none else (meaning? value).map some := by
  cases item? <;> rfl

theorem held_none_eq_some {values : List Source} {item : Item} :
    held? meaning? none values = some (some item) ↔
      (only? values).bind meaning? = some item := by
  obtain _ | ⟨value, _ | ⟨next, more⟩⟩ := values
  · simp [only?]
  · simp [held?, only?]
  · simp [held?, only?]

end

theorem optionalNames_eq_some {values : List Source} {names : List String} :
    optionalNames? values = some names ↔
      ∃ names?, held? queryNames? none values = some names? ∧ names?.getD [] = names := by
  obtain _ | ⟨value, _ | ⟨next, more⟩⟩ := values
  · simp [optionalNames?]
  · cases found : queryNames? value <;> simp [held?, optionalNames?, only?, found]
  · simp [held?, optionalNames?, only?]

/-- Some values under the keys of the fields turn one draft into another. -/
structure Draft.Gains (draft draft' : Draft) (valuesAt : String → List Source) : Prop where
  name : held? Source.string? draft.name? (valuesAt "name") = some draft'.name?
  queries : held? queryNames? draft.queries? (valuesAt "sql_queries") = some draft'.queries?
  input : held? stored? draft.input? (valuesAt "input") = some draft'.input?
  output : held? stored? draft.output? (valuesAt "output") = some draft'.output?

theorem Draft.gains_iff {draft draft' : Draft} {valuesAt : String → List Source} :
    draft.Gains draft' valuesAt ↔
      held? Source.string? draft.name? (valuesAt "name") = some draft'.name? ∧
      held? queryNames? draft.queries? (valuesAt "sql_queries") = some draft'.queries? ∧
      held? stored? draft.input? (valuesAt "input") = some draft'.input? ∧
      held? stored? draft.output? (valuesAt "output") = some draft'.output? := by
  constructor
  · rintro ⟨name, queries, input, output⟩
    exact ⟨name, queries, input, output⟩
  · rintro ⟨name, queries, input, output⟩
    exact ⟨name, queries, input, output⟩

/-- The field of a draft under a key gains a value, the others nothing. -/
theorem Draft.take_eq_some_iff {draft draft' : Draft} {key : String} {value : Source} :
    draft.take? key value = some draft' ↔
      draft.Gains draft' fun field => if key = field then [value] else [] := by
  obtain ⟨name?, queries?, input?, output?⟩ := draft
  obtain ⟨name?', queries?', input?', output?'⟩ := draft'
  rw [gains_iff]
  unfold Draft.take?
  split
  · cases name? <;> cases found : value.string? <;> simp [held_singleton, found]
  · cases queries? <;> cases found : queryNames? value <;>
      simp [held_singleton, found, and_left_comm]
  · cases input? <;> cases found : stored? value <;> simp [held_singleton, found]
  · cases output? <;> cases found : stored? value <;> simp [held_singleton, found]
  · next notName notQueries notInput notOutput =>
    rw [if_neg notName, if_neg notQueries, if_neg notInput, if_neg notOutput]
    simp

/-- Draft after draft, the fields gain the values of all members. -/
theorem Draft.Gains.append_iff {draft draft' : Draft} {front back : String → List Source} :
    draft.Gains draft' (fun field => front field ++ back field) ↔
      ∃ middle, draft.Gains middle front ∧ middle.Gains draft' back := by
  simp only [gains_iff, held_append, Option.bind_eq_some_iff]
  constructor
  · rintro ⟨⟨name?, name, name'⟩, ⟨queries?, queries, queries'⟩, ⟨input?, input, input'⟩,
      output?, output, output'⟩
    exact ⟨⟨name?, queries?, input?, output?⟩, ⟨name, queries, input, output⟩,
      name', queries', input', output'⟩
  · rintro ⟨middle, ⟨name, queries, input, output⟩, name', queries', input', output'⟩
    exact ⟨⟨_, name, name'⟩, ⟨_, queries, queries'⟩, ⟨_, input, input'⟩, _, output, output'⟩

theorem valuesUnder_cons {key field : String} {pieces : List Piece} {value : Source}
    (decoded : decode pieces = some key.toList) (members : List (List Piece × Source)) :
    valuesUnder field ((pieces, value) :: members) =
      (if key = field then [value] else []) ++ valuesUnder field members := by
  by_cases same : key = field
  · simp [valuesUnder, decoded, same]
  · have other : key.toList ≠ field.toList := fun chars => same (String.toList_inj.mp chars)
    simp [valuesUnder, decoded, same, other]

theorem Draft.takeAll_eq_some_iff {members : List (List Piece × Source)} :
    ∀ {draft draft' : Draft}, draft.takeAll? members = some draft' ↔
      (members.all fun member => (decode member.1).isSome) ∧
        draft.Gains draft' (valuesUnder · members) := by
  induction members with
  | nil =>
    rintro ⟨name?, queries?, input?, output?⟩ ⟨name?', queries?', input?', output?'⟩
    simp [takeAll?, gains_iff, valuesUnder]
  | cons member members ih =>
    intro draft draft'
    obtain ⟨pieces, value⟩ := member
    cases decoded : decode pieces with
    | none => simp [takeAll?, decoded]
    | some chars =>
      obtain ⟨key, rfl⟩ : ∃ key : String, key.toList = chars := ⟨String.ofList chars, by simp⟩
      simp only [takeAll?, decoded, valuesUnder_cons decoded, Gains.append_iff, bind,
        Option.bind_some, Option.bind_eq_some_iff, String.ofList_toList, take_eq_some_iff, ih,
        List.all_cons, Option.isSome_some, Bool.true_and]
      constructor
      · rintro ⟨middle, first, all, more⟩
        exact ⟨all, middle, first, more⟩
      · rintro ⟨all, middle, first, more⟩
        exact ⟨middle, first, all, more⟩

theorem Draft.complete_eq_ok_iff {draft : Draft} {case : TestCase} :
    draft.complete? = .ok case ↔ draft.name? = some case.name ∧
      draft.queries?.getD [] = case.queries ∧ draft.input? = some case.input ∧
      draft.output? = some case.output := by
  obtain ⟨name?, queries?, input?, output?⟩ := draft
  obtain ⟨name, queries, input, output⟩ := case
  cases name? <;> cases input? <;> cases output? <;> simp [complete?, and_left_comm]

/-- Members are read to a case exactly if they have its fields. -/
theorem exists_draft_iff {members : List (List Piece × Source)} {case : TestCase} :
    (∃ draft, Draft.empty.takeAll? members = some draft ∧ draft.complete? = .ok case) ↔
      (formOfMembers? members).bind Form.case? = some case := by
  simp only [Draft.takeAll_eq_some_iff, Draft.gains_iff, Draft.complete_eq_ok_iff, Draft.empty]
  by_cases all : members.all fun member => (decode member.1).isSome
  · simp only [formOfMembers?, if_pos all, Form.case?, bind, Option.bind_eq_some_iff]
    constructor
    · rintro ⟨draft, ⟨-, name, queries, input, output⟩, isName, isQueries, isInput, isOutput⟩
      rw [isName, held_none_eq_some] at name
      rw [isInput, held_none_eq_some, Option.bind_eq_some_iff] at input
      rw [isOutput, held_none_eq_some, Option.bind_eq_some_iff] at output
      obtain ⟨inputSource, onlyInput, inputStored⟩ := input
      obtain ⟨outputSource, onlyOutput, outputStored⟩ := output
      exact ⟨⟨case.name, case.queries, inputSource, outputSource⟩,
        ⟨_, Option.bind_eq_some_iff.mp name, _, optionalNames_eq_some.mpr ⟨_, queries, isQueries⟩,
          _, onlyInput, _, onlyOutput, rfl⟩, _, inputStored, _, outputStored, rfl⟩
    · rintro ⟨form, ⟨name, isName, queries, isQueries, input, onlyInput, output, onlyOutput, same⟩,
        inputText, inputStored, outputText, outputStored, same'⟩
      cases same
      cases same'
      obtain ⟨queries?, held, isQueries⟩ := optionalNames_eq_some.mp isQueries
      refine ⟨⟨some name, queries?, some inputText, some outputText⟩, ⟨all, ?_, held, ?_, ?_⟩, rfl,
        isQueries, rfl, rfl⟩
      · exact held_none_eq_some.mpr (Option.bind_eq_some_iff.mpr isName)
      · exact held_none_eq_some.mpr (Option.bind_eq_some_iff.mpr ⟨_, onlyInput, inputStored⟩)
      · exact held_none_eq_some.mpr (Option.bind_eq_some_iff.mpr ⟨_, onlyOutput, outputStored⟩)
  · simp [formOfMembers?, all]

/-! ## Arrays of fields -/

section
variable {Item : Type} {read : Reader Item} {meaning? : Source → Option Item}

/-- What a text has before its rest where a field is looked for: nothing before the closing bracket,
or a value with what stands in front of it. -/
def BeforeElement (meaning? : Source → Option Item) (first : Bool) (written rest : List Char) :
    Option Item → Prop
  | none => ∃ blank more, IsBlank blank ∧ written = blank ++ rest ∧ rest = ']' :: more
  | some item => ∃ gap source body, Gap first gap ∧ Source.WrittenAs source body ∧
      meaning? source = some item ∧ written = gap ++ (body ++ rest)

/-- An element that was found goes before those that follow it. -/
theorem BeforeElement.cons {first : Bool} {written rest tail after : List Char} {item : Item}
    {sources : List Source} (before : BeforeElement meaning? first written rest (some item))
    (more : ItemsWrittenAs false sources tail) (spelledTail : rest = tail ++ after) :
    ∃ source body, ItemsWrittenAs first (source :: sources) body ∧ written = body ++ after ∧
      meaning? source = some item := by
  obtain ⟨gap, source, body, between, writtenValue, means, spelled⟩ := before
  refine ⟨source, gap ++ (body ++ tail), ⟨gap, body, tail, between, writtenValue, more, rfl⟩, ?_, means⟩
  rw [spelled, spelledTail]
  simp only [List.append_assoc]

theorem readElement_sound (reads : Reads read meaning?) {first : Bool} {cursor after : Cursor}
    {item? : Option Item} (taken : readElement? read first cursor = .ok (item?, after)) :
    BeforeElement meaning? first cursor.rest after.rest item? := by
  obtain ⟨blank, blankText, spelled, -⟩ := cursor.exists_blank
  have found {gap : List Char} (between : Gap first gap) {behind last : Cursor} {item : Item}
      (spelled : cursor.rest = gap ++ behind.rest) (inside : read behind = .ok (item, last)) :
      BeforeElement meaning? first cursor.rest last.rest (some item) :=
    reads.sound_behind between spelled inside
  rw [readElement?] at taken
  dsimp only at taken
  split at taken
  · cases taken
  · next more closing =>
    cases taken
    exact ⟨blank, more, blankText, spelled, closing⟩
  · next char more _ begins =>
    split at taken
    · next opening =>
      obtain rfl := opening
      simp only [bind_eq_ok_iff, Prod.exists] at taken
      obtain ⟨item, last, inside, same⟩ := taken
      cases same
      exact found (.opening blankText) spelled inside
    next notFirst =>
    split at taken
    · next comma =>
      obtain rfl := comma
      obtain rfl : first = false := by simpa using notFirst
      obtain ⟨gap, between, spelledGap⟩ := Cursor.exists_comma_gap begins
      split at taken
      · cases taken
      · cases taken
      · simp only [bind_eq_ok_iff, Prod.exists] at taken
        obtain ⟨item, last, inside, same⟩ := taken
        cases same
        exact found between spelledGap inside
    · cases taken

/-- At the end of the array, the fields that follow are missing as well. -/
theorem readElement_at_end {first : Bool} {cursor after : Cursor} {more : List Char}
    {item? : Option Item} (closing : cursor.rest = ']' :: more)
    (taken : readElement? read first cursor = .ok (item?, after)) : item? = none := by
  obtain ⟨rest, offset⟩ := cursor
  obtain rfl : rest = ']' :: more := closing
  cases taken
  rfl

theorem takes_readElement (reads : Reads read meaning?) {first : Bool} {body : List Char}
    {source : Source} {sources : List Source} {item : Item}
    (written : ItemsWrittenAs first (source :: sources) body) (means : meaning? source = some item)
    (rest : List Char) : ∃ tail, ItemsWrittenAs false sources tail ∧
      Takes (readElement? read first) (body ++ rest) (some item) (tail ++ rest) := by
  obtain ⟨gap, inside, tail, between, writtenItem, more, rfl⟩ := written
  refine ⟨tail, more, fun offset => ?_⟩
  have taken := reads.takes writtenItem means (more.delimited rest)
  obtain ⟨head, others, rfl, notSpace, notEnd⟩ := writtenItem.exists_cons
  have begins : NoSpace (head :: (others ++ (tail ++ rest))) := noSpace_cons.mpr notSpace
  have notClosing : head ≠ ']' := List.ne_of_not_mem_cons notEnd
  rw [List.cons_append] at taken
  rw [List.append_assoc, List.append_assoc, List.cons_append, readElement?]
  cases between with
  | opening blankText =>
    obtain ⟨after, taken⟩ := taken (offset + gap.length)
    refine ⟨after, ?_⟩
    rw [Cursor.skipSpace_append blankText begins]
    simp [taken, bind, Except.bind]
  | @comma before blank beforeText afterText =>
    obtain ⟨after, taken⟩ := taken (offset + before.length + 1 + blank.length)
    refine ⟨after, ?_⟩
    have behind := Cursor.skipSpace_append afterText begins (offset + before.length + 1)
    rw [Cursor.skipSpace_comma beforeText]
    simp [behind, notClosing, taken, bind, Except.bind]

end

theorem readArrayEnd_sound {cursor after : Cursor} (read : readArrayEnd cursor = .ok ((), after)) :
    ∃ body, ItemsWrittenAs false [] body ∧ cursor.rest = body ++ after.rest := by
  obtain ⟨blank, blankText, spelled, -⟩ := cursor.exists_blank
  rw [readArrayEnd] at read
  split at read
  · cases read
  · next more found =>
    cases read
    refine ⟨blank ++ [']'], ⟨blank, blankText, rfl⟩, ?_⟩
    rw [Cursor.rest_of_found spelled found rfl, List.append_assoc, List.singleton_append]
  · cases read
  · cases read

theorem takes_readArrayEnd {blank : List Char} (blankText : IsBlank blank) (rest : List Char) :
    Takes readArrayEnd (blank ++ ']' :: rest) () rest := by
  intro offset
  have closing : NoSpace (']' :: rest) := noSpace_cons.mpr (by decide)
  rw [readArrayEnd, Cursor.skipSpace_append blankText closing]
  exact ⟨_, rfl⟩

theorem readArray_sound {cursor after : Cursor} {case : TestCase}
    (read : readArray cursor = .ok (case, after)) :
    ∃ items body, ItemsWrittenAs true items body ∧ cursor.rest = body ++ after.rest ∧
      ofSource? (.array items) = some case := by
  simp only [readArray, bind_eq_ok_iff, Prod.exists] at read
  obtain ⟨name?, behindName, nameRead, read⟩ := read
  have nameSound := readElement_sound reads_readText nameRead
  cases name? with
  | none => cases read
  | some name =>
  simp only [bind_eq_ok_iff, Prod.exists] at read
  obtain ⟨queries?, behindQueries, queriesRead, input?, behindInput, inputRead, read⟩ := read
  have queriesSound := readElement_sound reads_queryNames queriesRead
  have inputSound := readElement_sound reads_readDataset inputRead
  cases input? with
  | none => cases read
  | some input =>
  cases queries? with
  | none =>
    obtain ⟨_, more, _, _, closing⟩ := queriesSound
    cases readElement_at_end closing inputRead
  | some queries =>
  simp only [bind_eq_ok_iff, Prod.exists] at read
  obtain ⟨output?, behindOutput, outputRead, read⟩ := read
  have outputSound := readElement_sound reads_readDataset outputRead
  cases output? with
  | none => cases read
  | some output =>
  simp only [bind_eq_ok_iff, Prod.exists] at read
  obtain ⟨_, last, ended, same⟩ := read
  cases same
  obtain ⟨end_, writtenEnd, spelledEnd⟩ := readArrayEnd_sound ended
  obtain ⟨outputSource, _, writtenOutput, spelledOutput, isOutput⟩ :=
    outputSound.cons writtenEnd spelledEnd
  obtain ⟨inputSource, _, writtenInput, spelledInput, isInput⟩ :=
    inputSound.cons writtenOutput spelledOutput
  obtain ⟨queriesSource, _, writtenQueries, spelledQueries, areQueries⟩ :=
    queriesSound.cons writtenInput spelledInput
  obtain ⟨nameSource, body, writtenName, spelledName, isName⟩ :=
    nameSound.cons writtenQueries spelledQueries
  refine ⟨[nameSource, queriesSource, inputSource, outputSource], body, writtenName, spelledName, ?_⟩
  simp [ofSource?, form?, Form.case?, isName, areQueries, isInput, isOutput]

/-- An array of fields is a case if it has the four of them in their order. -/
theorem exists_of_form_array {items : List Source} {form : Form}
    (formed : form? (.array items) = some form) :
    ∃ name queries, items = [name, queries, form.input, form.output] ∧
      name.string? = some form.name ∧ queryNames? queries = some form.queries := by
  rw [form?.eq_def] at formed
  split at formed
  · next found => cases found
  · next name queries input output found =>
    cases found
    simp only [bind, Option.bind_eq_some_iff] at formed
    obtain ⟨nameText, isName, names, isQueries, same⟩ := formed
    cases same
    exact ⟨name, queries, rfl, isName, isQueries⟩
  · cases formed

theorem takes_readArray {items : List Source} {body : List Char} {case : TestCase}
    (written : ItemsWrittenAs true items body) (means : ofSource? (.array items) = some case)
    (rest : List Char) : Takes readArray (body ++ rest) case rest := by
  intro offset
  simp only [ofSource?, Form.case?, bind, Option.bind_eq_some_iff] at means
  obtain ⟨form, formed, input, isInput, output, isOutput, same⟩ := means
  cases same
  obtain ⟨nameSource, queriesSource, rfl, isName, areQueries⟩ := exists_of_form_array formed
  obtain ⟨_, behindName, nameRead⟩ := takes_readElement reads_readText written isName rest
  obtain ⟨_, behindQueries, queriesRead⟩ :=
    takes_readElement reads_queryNames behindName areQueries rest
  obtain ⟨_, behindInput, inputRead⟩ :=
    takes_readElement reads_readDataset behindQueries isInput rest
  obtain ⟨_, behindOutput, outputRead⟩ :=
    takes_readElement reads_readDataset behindInput isOutput rest
  obtain ⟨blank, blankText, rfl⟩ := behindOutput
  obtain ⟨o₁, nameRead⟩ := nameRead offset
  obtain ⟨o₂, queriesRead⟩ := queriesRead o₁
  obtain ⟨o₃, inputRead⟩ := inputRead o₂
  obtain ⟨o₄, outputRead⟩ := outputRead o₃
  obtain ⟨after, ended⟩ := takes_readArrayEnd blankText rest o₄
  rw [List.append_assoc, List.singleton_append] at outputRead
  refine ⟨after, ?_⟩
  simp only [readArray, nameRead, queriesRead, inputRead, outputRead, ended, bind, Except.bind,
    Option.getD_some]

/-! ## Cases and catalogs -/

theorem reads_reader : Reads reader ofSource? := by
  constructor
  · intro cursor after case read
    obtain ⟨blank, blankText, spelled, -⟩ := cursor.exists_blank
    rw [reader] at read
    split at read
    · cases read
    · next more found =>
      obtain ⟨items, body, written, spelledItems, means⟩ := readArray_sound read
      exact ⟨blank, .array items, '[' :: body, blankText, ⟨body, written, rfl⟩,
        Cursor.rest_of_found spelled found spelledItems, means⟩
    · next more found =>
      obtain ⟨members, body, draft, written, spelledMembers, taken, complete⟩ := readFields_sound read
      exact ⟨blank, .object members, '\x7b' :: body, blankText, ⟨body, written, rfl⟩,
        Cursor.rest_of_found spelled found spelledMembers,
        exists_draft_iff.mp ⟨draft, taken, complete⟩⟩
    · exact (wrongType_ne_ok read).elim
  · intro blank body rest source case blankText written means delimited offset
    cases source with
    | array items =>
      obtain ⟨inside, writtenItems, rfl⟩ := written
      have bracket : NoSpace ('[' :: (inside ++ rest)) := noSpace_cons.mpr (by decide)
      rw [List.cons_append, reader, Cursor.skipSpace_append blankText bracket]
      exact takes_readArray writtenItems means rest _
    | object members =>
      obtain ⟨inside, writtenMembers, rfl⟩ := written
      have brace : NoSpace ('\x7b' :: (inside ++ rest)) := noSpace_cons.mpr (by decide)
      obtain ⟨draft, taken, complete⟩ := exists_draft_iff.mpr means
      rw [List.cons_append, reader, Cursor.skipSpace_append blankText brace]
      exact takes_readFields writtenMembers taken complete (length_inside_lt _ _ _) rest _
    | _ => cases means

end TestCase

namespace TestCatalog

theorem reads_reader : Reads reader fun source =>
    (source.list? TestCase.ofSource?).map TestCatalog.mk :=
  TestCase.reads_reader.list.andReturn TestCatalog.mk

/-- A text is a catalog exactly if it spells an array of test cases, which are then its cases. -/
theorem ofText_eq_ok_iff {string file : String} {catalog : TestCatalog} :
    ofText? string file = .ok catalog ↔ ∃ elements, (Source.array elements).WrittenIn string.toList ∧
      elements.mapM TestCase.ofSource? = some catalog.cases := by
  have read : ofText? string file = .ok catalog ↔ readAll reader string = .ok catalog := by
    rw [ofText?]
    split <;> simp [*]
  rw [read, readAll_eq_ok_iff reads_reader]
  constructor
  · rintro ⟨source, written, means⟩
    obtain ⟨cases, kept, rfl⟩ := Option.map_eq_some_iff.mp means
    cases source with
    | array elements => exact ⟨elements, written, kept⟩
    | _ => cases kept
  · rintro ⟨elements, written, kept⟩
    exact ⟨.array elements, written, Option.map_eq_some_iff.mpr ⟨catalog.cases, kept, rfl⟩⟩

end TestCatalog

end FixtureHarness
