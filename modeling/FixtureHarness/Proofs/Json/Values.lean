import FixtureHarness.Proofs.Json.Numbers
import FixtureHarness.Proofs.Json.Strings

/-! # Reading containers and values

The readers of lists and objects take the documents that are lists and objects of what the reader of
their entries takes. From this the reader of plain values is followed down the nesting that it allows,
and the readers of typed data are built up.
-/

namespace FixtureHarness.Json

/-! ## What documents are kept as -/

mutual

/-- How many containers of a document stand inside each other. -/
def Source.depth : Source → Nat
  | .array items => itemsDepth items + 1
  | .object members => membersDepth members + 1
  | _ => 0

/-- How many containers stand inside each other in some items. -/
def itemsDepth : List Source → Nat
  | [] => 0
  | item :: rest => max item.depth (itemsDepth rest)

/-- How many containers stand inside each other in some members. -/
def membersDepth : List (List Piece × Source) → Nat
  | [] => 0
  | (_, value) :: rest => max value.depth (membersDepth rest)

end

mutual

/-- The value that a document is kept as; `none` if a string has half a surrogate pair or a number is
too large. -/
def Source.value? : Source → Option Json
  | .null => some .null
  | .boolean value => some (.boolean value)
  | .number literal => literal.number?.map .number
  | .text pieces => (decode pieces).map fun chars => .text (String.ofList chars)
  | .array items => (itemValues? items).map .array
  | .object members => (memberValues? members).map fun entries => .object (sortEntries entries)

/-- The values that items are kept as. -/
def itemValues? : List Source → Option (List Json)
  | [] => some []
  | item :: rest => do
    let value ← item.value?
    let values ← itemValues? rest
    some (value :: values)

/-- The entries that members are kept as, before they are sorted. -/
def memberValues? : List (List Piece × Source) → Option (List (String × Json))
  | [] => some []
  | (key, value) :: rest => do
    let chars ← decode key
    let value ← value.value?
    let entries ← memberValues? rest
    some ((String.ofList chars, value) :: entries)

end

/-- The value of a document that is nested no deeper than a limit. -/
def valueWithin? (limit : Nat) (source : Source) : Option Json :=
  if source.depth ≤ limit then source.value? else none

/-- An entry of an object whose value has a meaning. -/
def keyed? {Item : Type} (meaning? : Source → Option Item) (member : List Piece × Source) :
    Option (String × Item) := do
  let chars ← decode member.1
  let item ← meaning? member.2
  some (String.ofList chars, item)

/-! ## Written containers -/

/-- No value begins with white space or with what ends an entry. -/
theorem Source.WrittenAs.exists_cons {source : Source} {body : List Char}
    (written : source.WrittenAs body) : ∃ first rest, body = first :: rest ∧
      Cursor.isSpace first = false ∧ first ∉ [']', '\x7d', ',', ':'] := by
  cases source with
  | null =>
    rw [Source.WrittenAs] at written
    exact ⟨'n', ['u', 'l', 'l'], written, by decide⟩
  | boolean value =>
    rw [Source.WrittenAs] at written
    cases value with
    | true => exact ⟨'t', ['r', 'u', 'e'], written, by decide⟩
    | false => exact ⟨'f', ['a', 'l', 's', 'e'], written, by decide⟩
  | number literal =>
    rw [Source.WrittenAs] at written
    obtain ⟨valid, rfl⟩ := written
    obtain ⟨first, rest, spelled, minus | digit⟩ := valid.exists_cons
    · exact ⟨first, rest, spelled, by rw [minus]; decide⟩
    · have checked : ([' ', '\n', '\t', '\r'] ++ [']', '\x7d', ',', ':']).all
          (fun char => isDigit char = false) = true := by decide
      have other (char : Char) (member : char ∈ [' ', '\n', '\t', '\r'] ++ [']', '\x7d', ',', ':']) :
          isDigit char = false := of_decide_eq_true (List.all_eq_true.mp checked char member)
      refine ⟨first, rest, spelled, Bool.eq_false_iff.mpr fun space => ?_, fun ends => ?_⟩
      · rw [other first (List.mem_append_left _ (isSpace_iff_mem.mp space))] at digit
        cases digit
      · rw [other first (List.mem_append_right _ ends)] at digit
        cases digit
  | text pieces =>
    rw [Source.WrittenAs] at written
    exact ⟨'"', _, written.2, by decide⟩
  | array items =>
    rw [Source.WrittenAs] at written
    obtain ⟨inside, -, rfl⟩ := written
    exact ⟨'[', inside, rfl, by decide⟩
  | object members =>
    rw [Source.WrittenAs] at written
    obtain ⟨inside, -, rfl⟩ := written
    exact ⟨'\x7b', inside, rfl, by decide⟩

theorem Source.WrittenAs.noSpace {source : Source} {body : List Char}
    (written : source.WrittenAs body) (rest : List Char) : NoSpace (body ++ rest) := by
  obtain ⟨first, more, rfl, notSpace, -⟩ := written.exists_cons
  exact noSpace_cons.mpr notSpace

theorem delimited_blank {blank rest : List Char} (blankText : IsBlank blank) {char : Char}
    (ends : char ∈ [',', ']', '\x7d']) : Delimited (blank ++ char :: rest) := by
  cases blank with
  | nil => simpa [Delimited] using Or.inr ends
  | cons first more => simpa [Delimited] using Or.inl (blankText first (List.mem_cons_self ..))

theorem ItemsWrittenAs.delimited {items : List Source} {body : List Char}
    (written : ItemsWrittenAs false items body) (rest : List Char) : Delimited (body ++ rest) := by
  cases items with
  | nil =>
    rw [ItemsWrittenAs] at written
    obtain ⟨blank, blankText, rfl⟩ := written
    rw [List.append_assoc]
    exact delimited_blank blankText (by decide)
  | cons item others =>
    rw [ItemsWrittenAs] at written
    obtain ⟨gap, inside, tail, between, -, -, rfl⟩ := written
    cases between with
    | comma blankText _ =>
      simp only [List.append_assoc, List.cons_append]
      exact delimited_blank blankText (by decide)

theorem MembersWrittenAs.delimited {members : List (List Piece × Source)} {body : List Char}
    (written : MembersWrittenAs false members body) (rest : List Char) :
    Delimited (body ++ rest) := by
  cases members with
  | nil =>
    rw [MembersWrittenAs] at written
    obtain ⟨blank, blankText, rfl⟩ := written
    rw [List.append_assoc]
    exact delimited_blank blankText (by decide)
  | cons member others =>
    rw [MembersWrittenAs] at written
    obtain ⟨gap, colon, inside, tail, between, -, -, -, -, rfl⟩ := written
    cases between with
    | comma blankText _ =>
      simp only [List.append_assoc, List.cons_append]
      exact delimited_blank blankText (by decide)

/-! ## Lists -/

section
variable {Item : Type} {read : Reader Item} {meaning? : Source → Option Item}

/-- A reader that takes documents takes one behind white space down to what the next entry needs. -/
theorem Reads.takes (reads : Reads read meaning?) {source : Source} {body rest : List Char}
    {item : Item} (written : source.WrittenAs body) (means : meaning? source = some item)
    (delimited : Delimited rest) : Takes read (body ++ rest) item rest :=
  reads.complete isBlank_nil written means delimited

/-- White space before an item belongs to the gap in front of it. -/
theorem Reads.sound_behind (reads : Reads read meaning?) {first : Bool} {gap : List Char}
    (between : Gap first gap) {cursor behind after : Cursor} {item : Item}
    (spelled : cursor.rest = gap ++ behind.rest) (taken : read behind = .ok (item, after)) :
    ∃ gap source body, Gap first gap ∧ Source.WrittenAs source body ∧ meaning? source = some item ∧
      cursor.rest = gap ++ (body ++ after.rest) := by
  obtain ⟨space, source, body, spaceText, written, spelledItem, means⟩ := reads.sound taken
  refine ⟨gap ++ space, source, body, between.append spaceText, written, means, ?_⟩
  rw [spelled, spelledItem, List.append_assoc]

theorem readItems_sound (reads : Reads read meaning?) {fuel : Nat} : ∀ {first : Bool}
    {cursor after : Cursor} {items : List Item}, readItems read fuel first cursor = .ok (items, after) →
      ∃ sources body, ItemsWrittenAs first sources body ∧ cursor.rest = body ++ after.rest ∧
        sources.mapM meaning? = some items := by
  induction fuel with
  | zero =>
    intro first cursor after items taken
    cases taken
  | succ fuel ih =>
    intro first cursor after items taken
    obtain ⟨blank, blankText, spelled, -⟩ := cursor.exists_blank
    -- An item behind a gap goes before those that the induction hypothesis gives.
    have joined {gap : List Char} (between : Gap first gap) {behind middle : Cursor} {item : Item}
        {others : List Item} (spelled : cursor.rest = gap ++ behind.rest)
        (entry : read behind = .ok (item, middle))
        (more : readItems read fuel false middle = .ok (others, after)) :
        ∃ sources body, ItemsWrittenAs first sources body ∧ cursor.rest = body ++ after.rest ∧
          sources.mapM meaning? = some (item :: others) := by
      obtain ⟨gap, source, body, between, written, means, spelledItem⟩ :=
        reads.sound_behind between spelled entry
      obtain ⟨sources, tail, writtenTail, spelledTail, meanTail⟩ := ih more
      refine ⟨source :: sources, gap ++ (body ++ tail),
        ⟨gap, body, tail, between, written, writtenTail, rfl⟩, ?_, ?_⟩
      · rw [spelledItem, spelledTail]
        simp only [List.append_assoc]
      · simp [List.mapM_cons, means, meanTail]
    rw [readItems] at taken
    dsimp only at taken
    split at taken
    · cases taken
    · next more found =>
      cases taken
      refine ⟨[], blank ++ [']'], ⟨blank, blankText, rfl⟩, ?_, rfl⟩
      rw [spelled, found]
      simp [found]
    · next char more _ found =>
      split at taken
      · next opening =>
        obtain rfl := opening
        simp only [bind_eq_ok_iff, Prod.exists] at taken
        obtain ⟨item, middle, entry, others, last, more, same⟩ := taken
        cases same
        exact joined (.opening blankText) spelled entry more
      next notFirst =>
      split at taken
      · next comma =>
        obtain rfl := comma
        obtain rfl : first = false := by simpa using notFirst
        obtain ⟨gap, between, spelledGap⟩ := Cursor.exists_comma_gap found
        split at taken
        · cases taken
        · cases taken
        · simp only [bind_eq_ok_iff, Prod.exists] at taken
          obtain ⟨item, middle, entry, others, last, more, same⟩ := taken
          cases same
          exact joined between spelledGap entry more
      · cases taken

theorem takes_readItems (reads : Reads read meaning?) {sources : List Source} : ∀ {fuel : Nat}
    {first : Bool} {body : List Char} {items : List Item}, ItemsWrittenAs first sources body →
      sources.mapM meaning? = some items → body.length < fuel → ∀ rest,
        Takes (readItems read fuel first) (body ++ rest) items rest := by
  induction sources with
  | nil =>
    intro fuel first body items written means enough rest offset
    obtain ⟨blank, blankText, rfl⟩ := written
    obtain _ | fuel := fuel
    · exact (Nat.not_lt_zero _ enough).elim
    cases means
    have closing : NoSpace (']' :: rest) := noSpace_cons.mpr (by decide)
    rw [List.append_assoc, List.singleton_append, readItems,
      Cursor.skipSpace_append blankText closing]
    exact ⟨_, rfl⟩
  | cons source sources ih =>
    intro fuel first body items written means enough rest offset
    obtain ⟨gap, inside, tail, between, writtenItem, writtenTail, rfl⟩ := written
    obtain _ | fuel := fuel
    · exact (Nat.not_lt_zero _ enough).elim
    simp only [List.mapM_cons, bind, Option.bind_eq_some_iff] at means
    obtain ⟨item, means, others, meanTail, same⟩ := means
    cases same
    obtain ⟨head, more, rfl, notSpace, notEnd⟩ := writtenItem.exists_cons
    have shorter : tail.length < fuel := by
      simp only [List.length_append, List.length_cons] at enough
      omega
    have entry (offset : Nat) : ∃ middle after,
        read ⟨head :: (more ++ (tail ++ rest)), offset⟩ = .ok (item, middle) ∧
          readItems read fuel false middle = .ok (others, ⟨rest, after⟩) := by
      obtain ⟨middle, taken⟩ := reads.takes writtenItem means (writtenTail.delimited rest) offset
      obtain ⟨after, takenTail⟩ := ih writtenTail meanTail shorter rest middle
      exact ⟨_, after, taken, takenTail⟩
    have begins : NoSpace (head :: (more ++ (tail ++ rest))) := noSpace_cons.mpr notSpace
    have notClosing : head ≠ ']' := List.ne_of_not_mem_cons notEnd
    rw [List.append_assoc, List.append_assoc, List.cons_append, readItems]
    cases between with
    | opening blankText =>
      obtain ⟨middle, after, taken, takenTail⟩ := entry (offset + gap.length)
      refine ⟨after, ?_⟩
      rw [Cursor.skipSpace_append blankText begins]
      simp [taken, takenTail, bind, Except.bind]
    | @comma before blank beforeText afterText =>
      obtain ⟨middle, after, taken, takenTail⟩ := entry (offset + before.length + 1 + blank.length)
      refine ⟨after, ?_⟩
      have behind := Cursor.skipSpace_append afterText begins (offset + before.length + 1)
      rw [Cursor.skipSpace_comma beforeText]
      simp [behind, notClosing, taken, takenTail, bind, Except.bind]

end

/-! ## Objects -/

/-- What a text has before its rest where a key is looked for: nothing before the closing brace, or
the key with what stands in front of it. -/
def BeforeKey (first : Bool) (written rest : List Char) : Option String → Prop
  | none => ∃ blank more, IsBlank blank ∧ written = blank ++ rest ∧ rest = '\x7d' :: more
  | some key => ∃ gap pieces, Gap first gap ∧ AllValid pieces ∧ decode pieces = some key.toList ∧
      written = gap ++ (quotedText pieces ++ rest)

theorem readKey_sound {first : Bool} {cursor after : Cursor} {key? : Option String}
    (read : readKey? first cursor = .ok (key?, after)) :
    BeforeKey first cursor.rest after.rest key? := by
  obtain ⟨blank, blankText, spelled, -⟩ := cursor.exists_blank
  have quoted {gap more : List Char} {behind last : Cursor} {key : String} (between : Gap first gap)
      (spelled : cursor.rest = gap ++ behind.rest) (found : behind.rest = '"' :: more)
      (inside : readString (behind.skip 1) = .ok (key, last)) :
      BeforeKey first cursor.rest last.rest (some key) := by
    obtain ⟨pieces, valid, decoded, spelledKey⟩ := readString_sound inside
    refine ⟨gap, pieces, between, valid, decoded, ?_⟩
    rw [spelled, found, ← spelledKey, Cursor.skip_rest, found]
    rfl
  rw [readKey?] at read
  dsimp only at read
  split at read
  · cases read
  · next more found =>
    cases read
    exact ⟨blank, more, blankText, spelled, found⟩
  · next char more _ found =>
    split at read
    · next opening =>
      obtain rfl := opening
      split at read
      · next quote =>
        obtain rfl := quote
        simp only [bind_eq_ok_iff, Prod.exists] at read
        obtain ⟨key, last, inside, same⟩ := read
        cases same
        exact quoted (.opening blankText) spelled found inside
      · cases read
    next notFirst =>
    split at read
    · next comma =>
      obtain rfl := comma
      obtain rfl : first = false := by simpa using notFirst
      obtain ⟨gap, between, spelledGap⟩ := Cursor.exists_comma_gap found
      split at read
      · cases read
      · next more' found' =>
        simp only [bind_eq_ok_iff, Prod.exists] at read
        obtain ⟨key, last, inside, same⟩ := read
        cases same
        exact quoted between spelledGap found' inside
      · cases read
      · cases read
    · cases read

theorem takes_readKey_end {first : Bool} {blank : List Char} (blankText : IsBlank blank)
    (rest : List Char) :
    Takes (readKey? first) (blank ++ '\x7d' :: rest) none ('\x7d' :: rest) := by
  intro offset
  have closing : NoSpace ('\x7d' :: rest) := noSpace_cons.mpr (by decide)
  rw [readKey?, Cursor.skipSpace_append blankText closing]
  exact ⟨_, rfl⟩

theorem takes_readKey {first : Bool} {gap : List Char} (between : Gap first gap)
    {pieces : List Piece} {chars : List Char} (valid : AllValid pieces)
    (decoded : decode pieces = some chars) (rest : List Char) :
    Takes (readKey? first) (gap ++ (quotedText pieces ++ rest)) (some (String.ofList chars)) rest := by
  intro offset
  rw [quotedText_append]
  have quote : NoSpace ('"' :: (pieces.flatMap Piece.text ++ '"' :: rest)) :=
    noSpace_cons.mpr (by decide)
  have string := takes_readString valid decoded rest
  generalize pieces.flatMap Piece.text ++ '"' :: rest = behind at quote string ⊢
  cases between with
  | opening blankText =>
    obtain ⟨after, taken⟩ := string (offset + gap.length + 1)
    refine ⟨after, ?_⟩
    rw [readKey?, Cursor.skipSpace_append blankText quote]
    simp [taken, bind, Except.bind]
  | @comma before blank beforeText afterText =>
    obtain ⟨after, taken⟩ := string (offset + before.length + 1 + blank.length + 1)
    refine ⟨after, ?_⟩
    have next := Cursor.skipSpace_append afterText quote (offset + before.length + 1)
    rw [readKey?, Cursor.skipSpace_comma beforeText]
    simp [next, taken, bind, Except.bind]

theorem readColon_sound {cursor after : Cursor} (read : readColon cursor = .ok ((), after)) :
    ∃ blank, IsBlank blank ∧ cursor.rest = blank ++ ':' :: after.rest := by
  obtain ⟨blank, blankText, spelled, -⟩ := cursor.exists_blank
  rw [readColon] at read
  split at read
  · cases read
  · next more found =>
    cases read
    exact ⟨blank, blankText, by rw [spelled, Cursor.skip_rest, found]; rfl⟩
  · cases read

theorem takes_readColon {blank : List Char} (blankText : IsBlank blank) (rest : List Char) :
    Takes readColon (blank ++ ':' :: rest) () rest := by
  intro offset
  have colon : NoSpace (':' :: rest) := noSpace_cons.mpr (by decide)
  rw [readColon, Cursor.skipSpace_append blankText colon]
  exact ⟨_, rfl⟩

section
variable {Item : Type} {read : Reader Item} {meaning? : Source → Option Item}

theorem readMembers_sound (reads : Reads read meaning?) {fuel : Nat} : ∀ {first : Bool}
    {cursor after : Cursor} {entries : List (String × Item)},
      readMembers read fuel first cursor = .ok (entries, after) →
        ∃ members body, MembersWrittenAs first members body ∧ cursor.rest = body ++ after.rest ∧
          members.mapM (keyed? meaning?) = some entries := by
  induction fuel with
  | zero =>
    intro first cursor after entries taken
    cases taken
  | succ fuel ih =>
    intro first cursor after entries taken
    simp only [readMembers, bind_eq_ok_iff, Prod.exists] at taken
    obtain ⟨key?, behindKey, keyRead, taken⟩ := taken
    have keySound := readKey_sound keyRead
    cases key? with
    | none =>
      obtain ⟨blank, more, blankText, spelled, found⟩ := keySound
      cases taken
      refine ⟨[], blank ++ ['\x7d'], ⟨blank, blankText, rfl⟩, ?_, rfl⟩
      rw [spelled, found]
      simp [found]
    | some key =>
      obtain ⟨gap, pieces, between, valid, decoded, spelled⟩ := keySound
      simp only [bind_eq_ok_iff, Prod.exists] at taken
      obtain ⟨_, behindColon, colonRead, item, behindItem, itemRead, others, last, more, same⟩ := taken
      cases same
      obtain ⟨before, beforeText, spelledColon⟩ := readColon_sound colonRead
      obtain ⟨space, source, body, spaceText, written, spelledItem, means⟩ := reads.sound itemRead
      obtain ⟨members, tail, writtenTail, spelledTail, meanTail⟩ := ih more
      refine ⟨(pieces, source) :: members,
        gap ++ (quotedText pieces ++ ((before ++ ':' :: space) ++ (body ++ tail))), ?_, ?_, ?_⟩
      · exact ⟨gap, before ++ ':' :: space, body, tail, between, valid,
          ⟨before, space, beforeText, spaceText, rfl⟩, written, writtenTail, rfl⟩
      · rw [spelled, spelledColon, spelledItem, spelledTail]
        simp only [List.append_assoc, List.cons_append]
      · simp [List.mapM_cons, keyed?, decoded, means, meanTail]

theorem takes_readMembers (reads : Reads read meaning?) {members : List (List Piece × Source)} :
    ∀ {fuel : Nat} {first : Bool} {body : List Char} {entries : List (String × Item)},
      MembersWrittenAs first members body → members.mapM (keyed? meaning?) = some entries →
        body.length < fuel → ∀ rest,
          Takes (readMembers read fuel first) (body ++ rest) entries rest := by
  induction members with
  | nil =>
    intro fuel first body entries written means enough rest offset
    obtain ⟨blank, blankText, rfl⟩ := written
    obtain _ | fuel := fuel
    · exact (Nat.not_lt_zero _ enough).elim
    cases means
    obtain ⟨after, taken⟩ := takes_readKey_end blankText rest offset
    rw [List.append_assoc, List.singleton_append, readMembers, taken]
    exact ⟨_, rfl⟩
  | cons member members ih =>
    intro fuel first body entries written means enough rest offset
    obtain ⟨key, source⟩ := member
    obtain ⟨gap, colon, inside, tail, between, valid, isColon, writtenItem, writtenTail, rfl⟩ := written
    obtain ⟨before, space, beforeText, spaceText, rfl⟩ := isColon
    obtain _ | fuel := fuel
    · exact (Nat.not_lt_zero _ enough).elim
    simp only [List.mapM_cons, keyed?, bind, Option.bind_eq_some_iff] at means
    obtain ⟨entry, ⟨chars, decoded, item, means, sameEntry⟩, others, meanTail, same⟩ := means
    cases sameEntry
    cases same
    have shorter : tail.length < fuel := by
      simp only [List.length_append, List.length_cons] at enough
      omega
    obtain ⟨o₁, keyRead⟩ := takes_readKey between valid decoded
      (before ++ ':' :: (space ++ (inside ++ (tail ++ rest)))) offset
    obtain ⟨o₂, colonRead⟩ := takes_readColon beforeText (space ++ (inside ++ (tail ++ rest))) o₁
    obtain ⟨o₃, itemRead⟩ :=
      reads.complete spaceText writtenItem means (writtenTail.delimited rest) o₂
    obtain ⟨after, more⟩ := ih writtenTail meanTail shorter rest o₃
    refine ⟨after, ?_⟩
    simp only [List.append_assoc, List.cons_append, readMembers, keyRead, colonRead, itemRead, more,
      bind, Except.bind]

end

/-! ## Values -/

theorem readWord_sound {letters : List Char} : ∀ {cursor after : Cursor},
    readWord letters cursor = .ok ((), after) → cursor.rest = letters ++ after.rest := by
  induction letters with
  | nil =>
    intro cursor after read
    cases read
    rfl
  | cons wanted more ih =>
    intro cursor after read
    rw [readWord] at read
    split at read
    · cases read
    · next char rest found =>
      split at read
      · next same =>
        rw [found, same]
        exact congrArg (wanted :: ·) (ih read)
      · cases read

theorem takes_readWord (letters rest : List Char) :
    Takes (readWord letters) (letters ++ rest) () rest := by
  induction letters with
  | nil => exact fun offset => ⟨offset, rfl⟩
  | cons wanted more ih =>
    intro offset
    obtain ⟨after, taken⟩ := ih (offset + wanted.utf8Size)
    exact ⟨after, by simpa [readWord, Cursor.past] using taken⟩

/-- What is read is a value that is no container, or it begins with a bracket and one of the two
given readers has read it. -/
theorem readScalarOr_sound {array object : Reader Json} {cursor after : Cursor} {value : Json}
    (read : readScalarOr array object cursor = .ok (value, after)) :
    (∃ source body, Source.WrittenAs source body ∧ cursor.skipSpace.rest = body ++ after.rest ∧
        source.depth = 0 ∧ source.value? = some value) ∨
      (∃ more, cursor.skipSpace.rest = '[' :: more ∧
        array cursor.skipSpace = .ok (value, after)) ∨
      ∃ more, cursor.skipSpace.rest = '\x7b' :: more ∧
        object cursor.skipSpace = .ok (value, after) := by
  have word (source : Source) {char : Char} {more letters : List Char} {meant : Json}
      (written : source.WrittenAs (char :: letters)) (scalar : source.depth = 0)
      (kept : source.value? = some meant) (found : cursor.skipSpace.rest = char :: more)
      (read : (readWord letters (cursor.skipSpace.skip 1) >>= fun behind =>
        Except.ok (meant, behind.2)) = .ok (value, after)) :
      ∃ source body, Source.WrittenAs source body ∧ cursor.skipSpace.rest = body ++ after.rest ∧
        source.depth = 0 ∧ source.value? = some value := by
    simp only [bind_eq_ok_iff, Prod.exists] at read
    obtain ⟨_, behind, letters, same⟩ := read
    cases same
    have spelled := readWord_sound letters
    rw [Cursor.skip_rest, found] at spelled
    exact ⟨source, _, written, found.trans (congrArg (char :: ·) spelled), scalar, kept⟩
  rw [readScalarOr] at read
  dsimp only at read
  split at read
  · cases read
  next char more found =>
  split at read
  · exact .inl (word .null rfl rfl rfl found read)
  · exact .inl (word (.boolean true) rfl rfl rfl found read)
  · exact .inl (word (.boolean false) rfl rfl rfl found read)
  · simp only [bind_eq_ok_iff, Prod.exists] at read
    obtain ⟨string, behind, inside, same⟩ := read
    cases same
    obtain ⟨pieces, valid, decoded, spelled⟩ := readString_sound inside
    rw [Cursor.skip_rest, found] at spelled
    refine .inl ⟨.text pieces, _, ⟨valid, rfl⟩, found.trans spelled, rfl, ?_⟩
    simp [Source.value?, decoded]
  · exact .inr (.inl ⟨more, found, read⟩)
  · exact .inr (.inr ⟨more, found, read⟩)
  · split at read
    · simp only [bind_eq_ok_iff, Prod.exists] at read
      obtain ⟨number, behind, inside, same⟩ := read
      cases same
      obtain ⟨literal, valid, spelled, kept⟩ := readNumber_sound inside
      exact .inl ⟨.number literal, _, ⟨valid, rfl⟩, spelled, rfl, by simp [Source.value?, kept]⟩
    · cases read

theorem takes_readScalarOr (array object : Reader Json) {source : Source} {body blank rest : List Char}
    {value : Json} (blankText : IsBlank blank) (written : source.WrittenAs body)
    (scalar : source.depth = 0) (kept : source.value? = some value) (delimited : Delimited rest) :
    Takes (readScalarOr array object) (blank ++ (body ++ rest)) value rest := by
  intro offset
  rw [readScalarOr, Cursor.skipSpace_append blankText (written.noSpace rest)]
  cases source with
  | null =>
    cases written
    cases kept
    exact (takes_readWord ['u', 'l', 'l'] rest).andReturn (fun _ => null) _
  | boolean truth =>
    cases written
    cases kept
    cases truth with
    | true => exact (takes_readWord ['r', 'u', 'e'] rest).andReturn (fun _ => boolean true) _
    | false => exact (takes_readWord ['a', 'l', 's', 'e'] rest).andReturn (fun _ => boolean false) _
  | number literal =>
    obtain ⟨valid, rfl⟩ := written
    rw [Source.value?, Option.map_eq_some_iff] at kept
    obtain ⟨number, kept, rfl⟩ := kept
    obtain ⟨after, taken⟩ :=
      takes_readNumber valid kept delimited.endsNumber (offset + blank.length)
    obtain ⟨first, more, spelled, start⟩ := valid.exists_cons
    rw [spelled] at taken ⊢
    refine ⟨after, ?_⟩
    dsimp only [List.cons_append]
    -- The characters that begin other values are no digits.
    split
    iterate 6 exact absurd start (by decide)
    rw [if_pos (by simpa [isDigit] using start)]
    rw [List.cons_append] at taken
    rw [taken]
    rfl
  | text pieces =>
    obtain ⟨valid, rfl⟩ := written
    rw [Source.value?, Option.map_eq_some_iff] at kept
    obtain ⟨chars, decoded, rfl⟩ := kept
    obtain ⟨after, taken⟩ := takes_readString valid decoded rest (offset + blank.length + 1)
    refine ⟨after, ?_⟩
    rw [quotedText_append]
    simp [taken, bind, Except.bind]
  | array items => cases scalar
  | object members => cases scalar

theorem takes_readScalarOr_array {array : Reader Json} (object : Reader Json)
    {blank written rest : List Char} {value : Json} (blankText : IsBlank blank)
    (taken : Takes array ('[' :: written) value rest) :
    Takes (readScalarOr array object) (blank ++ '[' :: written) value rest := by
  intro offset
  have bracket : NoSpace ('[' :: written) := noSpace_cons.mpr (by decide)
  rw [readScalarOr, Cursor.skipSpace_append blankText bracket]
  exact taken _

theorem takes_readScalarOr_object (array : Reader Json) {object : Reader Json}
    {blank written rest : List Char} {value : Json} (blankText : IsBlank blank)
    (taken : Takes object ('\x7b' :: written) value rest) :
    Takes (readScalarOr array object) (blank ++ '\x7b' :: written) value rest := by
  intro offset
  have brace : NoSpace ('\x7b' :: written) := noSpace_cons.mpr (by decide)
  rw [readScalarOr, Cursor.skipSpace_append blankText brace]
  exact taken _

theorem mapM_valueWithin {limit : Nat} {items : List Source} {values : List Json} :
    items.mapM (valueWithin? limit) = some values ↔
      itemsDepth items ≤ limit ∧ itemValues? items = some values := by
  induction items generalizing values with
  | nil => simp [itemsDepth, itemValues?]
  | cons item rest ih =>
    simp only [List.mapM_cons, bind, Option.bind_eq_some_iff, ih, valueWithin?, itemsDepth,
      itemValues?, Nat.max_le, Option.ite_none_right_eq_some, pure]
    grind

theorem mapM_entryWithin {limit : Nat} {members : List (List Piece × Source)}
    {entries : List (String × Json)} :
    members.mapM (keyed? (valueWithin? limit)) = some entries ↔
      membersDepth members ≤ limit ∧ memberValues? members = some entries := by
  induction members generalizing entries with
  | nil => simp [membersDepth, memberValues?]
  | cons member rest ih =>
    obtain ⟨key, value⟩ := member
    simp only [List.mapM_cons, keyed?, bind, Option.bind_eq_some_iff, ih, valueWithin?, membersDepth,
      memberValues?, Nat.max_le, Option.ite_none_right_eq_some, pure]
    grind

theorem valueWithin_scalar {limit : Nat} {source : Source}
    (scalar : source.depth = 0) : valueWithin? limit source = source.value? := by
  simp [valueWithin?, scalar]

section
variable {limit : Nat} (reads : Reads (readNested limit) (valueWithin? limit))
include reads

theorem readNested_succ_sound {cursor after : Cursor} {value : Json}
    (read : readNested (limit + 1) cursor = .ok (value, after)) :
    ∃ blank source body, IsBlank blank ∧ Source.WrittenAs source body ∧
      cursor.rest = blank ++ (body ++ after.rest) ∧ valueWithin? (limit + 1) source = some value := by
  obtain ⟨blank, blankText, spelled, -⟩ := cursor.exists_blank
  rcases readScalarOr_sound read with
    ⟨source, body, written, spelledBody, scalar, kept⟩ | ⟨more, found, inside⟩ | ⟨more, found, inside⟩
  · refine ⟨blank, source, body, blankText, written, by rw [spelled, spelledBody], ?_⟩
    rw [valueWithin_scalar scalar, kept]
  · simp only [bind_eq_ok_iff, Prod.exists] at inside
    obtain ⟨values, behind, items, same⟩ := inside
    cases same
    obtain ⟨sources, body, written, spelledItems, means⟩ := readItems_sound reads items
    obtain ⟨shallow, kept⟩ := mapM_valueWithin.mp means
    refine ⟨blank, .array sources, '[' :: body, blankText, ⟨body, written, rfl⟩,
      Cursor.rest_of_found spelled found spelledItems, ?_⟩
    simp [valueWithin?, Source.depth, shallow, Source.value?, kept]
  · simp only [bind_eq_ok_iff, Prod.exists] at inside
    obtain ⟨entries, behind, members, same⟩ := inside
    cases same
    obtain ⟨sources, body, written, spelledMembers, means⟩ := readMembers_sound reads members
    obtain ⟨shallow, kept⟩ := mapM_entryWithin.mp means
    refine ⟨blank, .object sources, '\x7b' :: body, blankText, ⟨body, written, rfl⟩,
      Cursor.rest_of_found spelled found spelledMembers, ?_⟩
    simp [valueWithin?, Source.depth, shallow, Source.value?, kept]

theorem takes_readNested_succ {blank body rest : List Char} {source : Source} {value : Json}
    (blankText : IsBlank blank) (written : source.WrittenAs body)
    (means : valueWithin? (limit + 1) source = some value) (delimited : Delimited rest) :
    Takes (readNested (limit + 1)) (blank ++ (body ++ rest)) value rest := by
  obtain ⟨shallow, kept⟩ := Option.ite_none_right_eq_some.mp means
  cases source with
  | array items =>
    obtain ⟨inside, writtenItems, rfl⟩ := written
    rw [Source.value?, Option.map_eq_some_iff] at kept
    obtain ⟨values, kept, rfl⟩ := kept
    rw [List.cons_append]
    have inner := takes_readItems reads writtenItems
      (mapM_valueWithin.mpr ⟨Nat.le_of_succ_le_succ shallow, kept⟩)
      (length_inside_lt '[' inside rest) rest
    exact takes_readScalarOr_array _ blankText fun offset => inner.andReturn array (offset + 1)
  | object members =>
    obtain ⟨inside, writtenMembers, rfl⟩ := written
    rw [Source.value?, Option.map_eq_some_iff] at kept
    obtain ⟨entries, kept, rfl⟩ := kept
    rw [List.cons_append]
    have inner := takes_readMembers reads writtenMembers
      (mapM_entryWithin.mpr ⟨Nat.le_of_succ_le_succ shallow, kept⟩)
      (length_inside_lt '\x7b' inside rest) rest
    exact takes_readScalarOr_object _ blankText fun offset =>
      inner.andReturn (fun entries => object (sortEntries entries)) (offset + 1)
  | null => exact takes_readScalarOr _ _ blankText written rfl kept delimited
  | boolean truth => exact takes_readScalarOr _ _ blankText written rfl kept delimited
  | number literal => exact takes_readScalarOr _ _ blankText written rfl kept delimited
  | text pieces => exact takes_readScalarOr _ _ blankText written rfl kept delimited

end

/-- The reader of plain values takes the documents that are not nested too deep. -/
theorem reads_readNested (limit : Nat) : Reads (readNested limit) (valueWithin? limit) := by
  induction limit with
  | zero =>
    constructor
    · intro cursor after value read
      obtain ⟨blank, blankText, spelled, -⟩ := cursor.exists_blank
      rcases readScalarOr_sound read with
        ⟨source, body, written, spelledBody, scalar, kept⟩ | ⟨_, _, failed⟩ | ⟨_, _, failed⟩
      · refine ⟨blank, source, body, blankText, written, by rw [spelled, spelledBody], ?_⟩
        rw [valueWithin_scalar scalar, kept]
      · cases failed
      · cases failed
    · intro blank body rest source value blankText written means delimited
      obtain ⟨shallow, kept⟩ := Option.ite_none_right_eq_some.mp means
      exact takes_readScalarOr _ _ blankText written (Nat.le_zero.mp shallow) kept delimited
  | succ limit ih => exact ⟨readNested_succ_sound ih, takes_readNested_succ ih⟩

/-! ## Whole texts -/

theorem delimited_of_isBlank {blank : List Char} (blankText : IsBlank blank) : Delimited blank :=
  fun char head => .inl (blankText char (List.mem_of_mem_head? head))

theorem readEnd_eq_ok_iff {cursor : Cursor} :
    (∃ after, readEnd cursor = .ok ((), after)) ↔ IsBlank cursor.rest := by
  obtain ⟨blank, blankText, spelled, begins⟩ := cursor.exists_blank
  rw [readEnd]
  constructor
  · rintro ⟨after, read⟩
    split at read
    · next empty =>
      rw [spelled, List.isEmpty_iff.mp empty, List.append_nil]
      exact blankText
    · cases read
  · intro blankRest
    refine ⟨cursor.skipSpace, if_pos ?_⟩
    cases found : cursor.skipSpace.rest with
    | nil => rfl
    | cons char more =>
      have space : Cursor.isSpace char = true := blankRest char (by simp [spelled, found])
      rw [found, noSpace_cons, space] at begins
      cases begins

/-- A reader takes a whole text exactly if it spells a document that the reader takes. -/
theorem readAll_eq_ok_iff {Item : Type} {read : Reader Item} {meaning? : Source → Option Item}
    (reads : Reads read meaning?) {string : String} {item : Item} :
    readAll read string = .ok item ↔
      ∃ source : Source, source.WrittenIn string.toList ∧ meaning? source = some item := by
  simp only [readAll, bind_eq_ok_iff, Prod.exists]
  constructor
  · rintro ⟨result, behind, taken, _, last, ended, same⟩
    cases same
    obtain ⟨blank, source, body, blankText, written, spelled, means⟩ := reads.sound taken
    exact ⟨source, ⟨blank, body, behind.rest, blankText, written,
      readEnd_eq_ok_iff.mp ⟨last, ended⟩, spelled⟩, means⟩
  · rintro ⟨source, ⟨before, body, after, beforeText, written, afterText, spelled⟩, means⟩
    obtain ⟨offset, taken⟩ :=
      reads.complete beforeText written means (delimited_of_isBlank afterText) 0
    have atEnd : ∃ last, readEnd ⟨after, offset⟩ = .ok ((), last) :=
      readEnd_eq_ok_iff.mpr afterText
    obtain ⟨last, ended⟩ := atEnd
    exact ⟨item, ⟨after, offset⟩, by rw [spelled]; exact taken, (), last, ended, rfl⟩

theorem ofText_eq_ok_iff {string : String} {value : Json} :
    ofText? string = .ok value ↔
      ∃ source : Source, source.WrittenIn string.toList ∧ source.depth ≤ nestingLimit ∧
        source.value? = some value := by
  simp only [ofText?, readAll_eq_ok_iff (reads_readNested nestingLimit), valueWithin?,
    Option.ite_none_right_eq_some]

end FixtureHarness.Json
