import FixtureHarness.Proofs.Json.Grammar

/-! # What it is to read documents

A reader of values is described by the documents that it takes: `Reads` relates a reader to a partial
function on written documents. It reads a text to a result exactly if the text spells, behind white
space, a document that the function maps to this result. Offsets are of no account here.
-/

namespace FixtureHarness.Json

theorem bind_eq_ok_iff {Cause Result Final : Type} {first : Except Cause Result}
    {next : Result → Except Cause Final} {final : Final} :
    (first >>= next) = .ok final ↔ ∃ result, first = .ok result ∧ next result = .ok final := by
  cases first with
  | error cause => simp [bind, Except.bind]
  | ok result => simp [bind, Except.bind]

/-! ## White space -/

theorem isBlank_nil : IsBlank [] := by
  simp [IsBlank]

theorem IsBlank.append {left right : List Char} (blankLeft : IsBlank left)
    (blankRight : IsBlank right) : IsBlank (left ++ right) := by
  intro char member
  rcases List.mem_append.mp member with held | held
  · exact blankLeft char held
  · exact blankRight char held

theorem isSpace_iff_mem {char : Char} :
    Cursor.isSpace char = true ↔ char ∈ [' ', '\n', '\t', '\r'] := by
  simp [Cursor.isSpace, or_assoc]

/-- A text that does not begin with white space. -/
def NoSpace (text : List Char) : Prop :=
  ∀ char ∈ text.head?, Cursor.isSpace char = false

theorem noSpace_cons {char : Char} {rest : List Char} :
    NoSpace (char :: rest) ↔ Cursor.isSpace char = false := by
  simp [NoSpace]

theorem noSpace_nil : NoSpace [] := by
  simp [NoSpace]

namespace Cursor

@[simp] theorem skip_rest (count : Nat) (cursor : Cursor) :
    (cursor.skip count).rest = cursor.rest.drop count := rfl

@[simp] theorem skip_one_cons (char : Char) (rest : List Char) (offset : Nat) :
    skip 1 ⟨char :: rest, offset⟩ = ⟨rest, offset + 1⟩ := rfl

@[simp] theorem past_rest (char : Char) (rest : List Char) (cursor : Cursor) :
    (cursor.past char rest).rest = rest := rfl

/-- The white space before a cursor and what follows it. -/
theorem exists_blank (cursor : Cursor) : ∃ blank, IsBlank blank ∧
    cursor.rest = blank ++ cursor.skipSpace.rest ∧ NoSpace cursor.skipSpace.rest := by
  have split := List.takeWhile_append_dropWhile (p := isSpace) (l := cursor.rest)
  have behind : cursor.skipSpace.rest = cursor.rest.dropWhile isSpace := by
    have cut : (cursor.rest.takeWhile isSpace ++ cursor.rest.dropWhile isSpace).drop
        (cursor.rest.takeWhile isSpace).length = cursor.rest.dropWhile isSpace := List.drop_left
    rwa [split] at cut
  refine ⟨cursor.rest.takeWhile isSpace, List.all_eq_true.mp List.all_takeWhile, ?_, ?_⟩
  · rw [behind, split]
  · intro char head
    rw [behind] at head
    have notSpace := List.head?_dropWhile_not isSpace cursor.rest
    rw [Option.mem_def.mp head] at notSpace
    simpa using notSpace

theorem skipSpace_append {blank rest : List Char} (blankText : IsBlank blank)
    (begins : NoSpace rest) (offset : Nat) :
    skipSpace ⟨blank ++ rest, offset⟩ = ⟨rest, offset + blank.length⟩ := by
  have stops : rest.takeWhile isSpace = [] := by
    cases rest with
    | nil => rfl
    | cons char more => simp [noSpace_cons.mp begins]
  have run : (blank ++ rest).takeWhile isSpace = blank := by
    rw [List.takeWhile_append_of_pos blankText, stops, List.append_nil]
  simp [skipSpace, skip, run]

/-- White space, a character behind it, and what follows that. -/
theorem rest_of_found {cursor : Cursor} {blank behind more : List Char} {char : Char}
    (spelled : cursor.rest = blank ++ cursor.skipSpace.rest)
    (found : cursor.skipSpace.rest = char :: more)
    (inside : (cursor.skipSpace.skip 1).rest = behind) : cursor.rest = blank ++ char :: behind := by
  rw [skip_rest, found] at inside
  rw [spelled, found]
  exact congrArg (blank ++ char :: ·) inside

/-- The gap before an entry that a comma stands in front of. -/
theorem exists_comma_gap {cursor : Cursor} {more : List Char}
    (found : cursor.skipSpace.rest = ',' :: more) :
    ∃ gap, Gap false gap ∧ cursor.rest = gap ++ (cursor.skipSpace.skip 1).skipSpace.rest := by
  obtain ⟨before, beforeText, spelled, -⟩ := cursor.exists_blank
  obtain ⟨after, afterText, spelledBehind, -⟩ := (cursor.skipSpace.skip 1).exists_blank
  refine ⟨before ++ ',' :: after, .comma beforeText afterText, ?_⟩
  rw [rest_of_found spelled found spelledBehind, List.append_assoc, List.cons_append]

theorem skipSpace_comma {before after : List Char} (beforeText : IsBlank before)
    (rest : List Char) (offset : Nat) :
    skipSpace ⟨(before ++ ',' :: after) ++ rest, offset⟩ =
      ⟨',' :: (after ++ rest), offset + before.length⟩ := by
  rw [List.append_assoc, List.cons_append]
  exact skipSpace_append beforeText (noSpace_cons.mpr (by decide)) offset

end Cursor

theorem Gap.append {first : Bool} {gap blank : List Char} (between : Gap first gap)
    (blankText : IsBlank blank) : Gap first (gap ++ blank) := by
  cases between with
  | opening beforeText => exact .opening (beforeText.append blankText)
  | comma beforeText afterText =>
    rw [List.append_assoc, List.cons_append]
    exact .comma beforeText (afterText.append blankText)

/-! ## Readers -/

/-- What may follow a value: the end of the text, white space, or what ends an entry. -/
def Delimited (rest : List Char) : Prop :=
  ∀ char ∈ rest.head?, Cursor.isSpace char = true ∨ char ∈ [',', ']', '\x7d']

/-- What stands behind the bracket of a container is shorter than its text, so there is fuel for it. -/
theorem length_inside_lt (bracket : Char) (inside rest : List Char) :
    inside.length < (bracket :: (inside ++ rest)).length + 1 := by
  rw [List.length_cons, List.length_append]
  omega

/-- A reader takes a text down to a rest, wherever the text stands. -/
def Takes {Item : Type} (read : Reader Item) (written : List Char) (item : Item)
    (rest : List Char) : Prop :=
  ∀ offset, ∃ after, read ⟨written, offset⟩ = .ok (item, ⟨rest, after⟩)

/-- What has been read may be changed before it is given back. -/
theorem Takes.andReturn {Item Result : Type} {read : Reader Item} {written rest : List Char}
    {item : Item} (taken : Takes read written item rest) (change : Item → Result) :
    Takes (fun cursor => do
      let (item, cursor) ← read cursor
      .ok (change item, cursor)) written (change item) rest := by
  intro offset
  obtain ⟨after, result⟩ := taken offset
  exact ⟨after, by simp only [result, bind, Except.bind]⟩

/-- A reader takes exactly the documents that have a meaning, to that meaning. -/
structure Reads {Item : Type} (read : Reader Item) (meaning? : Source → Option Item) : Prop where
  sound : ∀ {cursor after : Cursor} {item : Item}, read cursor = .ok (item, after) →
    ∃ blank source body, IsBlank blank ∧ Source.WrittenAs source body ∧
      cursor.rest = blank ++ (body ++ after.rest) ∧ meaning? source = some item
  complete : ∀ {blank body rest : List Char} {source : Source} {item : Item}, IsBlank blank →
    source.WrittenAs body → meaning? source = some item → Delimited rest →
      Takes read (blank ++ (body ++ rest)) item rest

theorem Reads.andReturn {Item Result : Type} {read : Reader Item} {meaning? : Source → Option Item}
    (reads : Reads read meaning?) (change : Item → Result) :
    Reads (fun cursor => do
      let (item, cursor) ← read cursor
      .ok (change item, cursor)) fun source => (meaning? source).map change := by
  constructor
  · intro cursor after result taken
    simp only [bind_eq_ok_iff, Prod.exists] at taken
    obtain ⟨item, behind, taken, same⟩ := taken
    cases same
    obtain ⟨blank, source, body, blankText, written, spelled, means⟩ := reads.sound taken
    exact ⟨blank, source, body, blankText, written, spelled, by rw [means]; rfl⟩
  · intro blank body rest source result blankText written means delimited
    obtain ⟨item, kept, rfl⟩ := Option.map_eq_some_iff.mp means
    exact (reads.complete blankText written kept delimited).andReturn change

end FixtureHarness.Json
