import FixtureHarness.Proofs.Json.Values

/-! # Reading typed data

The readers of strings, of lists and of objects of one kind of value. A value of another kind is
refused, whatever it is.
-/

namespace FixtureHarness.Json

namespace Source

/-- The string that a document is. -/
def string? : Source → Option String
  | .text pieces => (decode pieces).map String.ofList
  | _ => none

/-- The list that a document is, with a meaning for each item. -/
def list? {Item : Type} (meaning? : Source → Option Item) : Source → Option (List Item)
  | .array items => items.mapM meaning?
  | _ => none

/-- The entries of the object that a document is, with a meaning for each value. -/
def entries? {Item : Type} (meaning? : Source → Option Item) :
    Source → Option (List (String × Item))
  | .object members => members.mapM (keyed? meaning?)
  | _ => none

end Source

theorem wrongType_ne_ok {Item : Type} {expected : String} {cursor : Cursor} {read : Item × Cursor} :
    wrongType expected cursor ≠ .ok read := by
  intro same
  rw [wrongType] at same
  dsimp only at same
  split at same
  · cases same
  · cases same
  · rw [bind_eq_ok_iff] at same
    obtain ⟨_, -, failed⟩ := same
    cases failed

theorem reads_readText : Reads readText Source.string? := by
  constructor
  · intro cursor after string read
    obtain ⟨blank, blankText, spelled, -⟩ := cursor.exists_blank
    rw [readText] at read
    split at read
    · cases read
    · next more found =>
      obtain ⟨pieces, valid, decoded, spelledString⟩ := readString_sound read
      rw [Cursor.skip_rest, found] at spelledString
      refine ⟨blank, .text pieces, quotedText pieces, blankText, ⟨valid, rfl⟩, ?_, ?_⟩
      · rw [spelled, found]
        exact congrArg (blank ++ ·) spelledString
      · simp [Source.string?, decoded]
    · exact (wrongType_ne_ok read).elim
  · intro blank body rest source string blankText written means delimited offset
    cases source with
    | text pieces =>
      obtain ⟨valid, rfl⟩ := written
      rw [Source.string?, Option.map_eq_some_iff] at means
      obtain ⟨chars, decoded, rfl⟩ := means
      have quote : NoSpace ('"' :: (pieces.flatMap Piece.text ++ '"' :: rest)) :=
        noSpace_cons.mpr (by decide)
      rw [quotedText_append, readText, Cursor.skipSpace_append blankText quote]
      exact takes_readString valid decoded rest _
    | _ => cases means

theorem Reads.list {Item : Type} {read : Reader Item} {meaning? : Source → Option Item}
    (reads : Reads read meaning?) : Reads (readList read) (Source.list? meaning?) := by
  constructor
  · intro cursor after items taken
    obtain ⟨blank, blankText, spelled, -⟩ := cursor.exists_blank
    rw [readList] at taken
    split at taken
    · cases taken
    · next more found =>
      obtain ⟨sources, body, written, spelledItems, means⟩ := readItems_sound reads taken
      exact ⟨blank, .array sources, '[' :: body, blankText, ⟨body, written, rfl⟩,
        Cursor.rest_of_found spelled found spelledItems, means⟩
    · exact (wrongType_ne_ok taken).elim
  · intro blank body rest source items blankText written means delimited offset
    cases source with
    | array sources =>
      obtain ⟨inside, writtenItems, rfl⟩ := written
      have bracket : NoSpace ('[' :: (inside ++ rest)) := noSpace_cons.mpr (by decide)
      rw [List.cons_append, readList, Cursor.skipSpace_append blankText bracket]
      exact takes_readItems reads writtenItems means (length_inside_lt _ _ _) rest _
    | _ => cases means

theorem Reads.map {Item : Type} {read : Reader Item} {meaning? : Source → Option Item}
    (reads : Reads read meaning?) : Reads (readMap read) (Source.entries? meaning?) := by
  constructor
  · intro cursor after entries taken
    obtain ⟨blank, blankText, spelled, -⟩ := cursor.exists_blank
    rw [readMap] at taken
    split at taken
    · cases taken
    · next more found =>
      obtain ⟨members, body, written, spelledMembers, means⟩ := readMembers_sound reads taken
      exact ⟨blank, .object members, '\x7b' :: body, blankText, ⟨body, written, rfl⟩,
        Cursor.rest_of_found spelled found spelledMembers, means⟩
    · exact (wrongType_ne_ok taken).elim
  · intro blank body rest source entries blankText written means delimited offset
    cases source with
    | object members =>
      obtain ⟨inside, writtenMembers, rfl⟩ := written
      have brace : NoSpace ('\x7b' :: (inside ++ rest)) := noSpace_cons.mpr (by decide)
      rw [List.cons_append, readMap, Cursor.skipSpace_append blankText brace]
      exact takes_readMembers reads writtenMembers means (length_inside_lt _ _ _) rest _
    | _ => cases means

end FixtureHarness.Json
