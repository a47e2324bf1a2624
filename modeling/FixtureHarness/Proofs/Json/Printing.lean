import FixtureHarness.Json.Printer
import FixtureHarness.Proofs.Json.Literals
import FixtureHarness.Proofs.Json.Sorting
import FixtureHarness.Proofs.Json.Values

/-! # Printing values

The pretty form of a value is a text of the grammar: it spells the written document `Json.source` that
follows the value constructor by constructor. That document is nested as deeply as the value, and where
its numbers are integers of 64 bits, it is read to the value again, with the members of its objects
sorted.
-/

namespace FixtureHarness.Json

/-! ## Strings -/

/-- The piece that a character is written as. -/
def pieceOf (char : Char) : Piece :=
  match char with
  | '"' => .short '"'
  | '\\' => .short '\\'
  | '\x08' => .short 'b'
  | '\t' => .short 't'
  | '\n' => .short 'n'
  | '\x0c' => .short 'f'
  | '\r' => .short 'r'
  | _ =>
    if char.toNat < 0x20 then
      .numeric '0' '0' (Nat.digitChar (char.toNat / 16)) (Nat.digitChar (char.toNat % 16))
    else .plain char

/-- The pieces that a string is written as. -/
def piecesOf (string : String) : List Piece :=
  string.toList.map pieceOf

/-- The digits of a control character, filled up to four. -/
theorem controlDigits : ∀ code < 0x20,
    List.replicate (4 - (Text.hexDigits code).length) '0' ++ Text.hexDigits code =
      ['0', '0', Nat.digitChar (code / 16), Nat.digitChar (code % 16)] ∧
    hexUnit? '0' '0' (Nat.digitChar (code / 16)) (Nat.digitChar (code % 16)) = some code := by
  decide

/-- The piece of a character is written as its escape, and stands for the character. -/
theorem pieceOf_spec (char : Char) :
    (pieceOf char).text = escapeChar char ∧ StandsFor [pieceOf char] char := by
  unfold pieceOf
  split
  case h_8 quote backslash _ _ _ _ _ =>
    rw [escapeChar.eq_8 char quote backslash ‹_› ‹_› ‹_› ‹_› ‹_›]
    split
    · next control =>
      obtain ⟨digits, unit⟩ := controlDigits char.toNat control
      refine ⟨?_, ?_⟩
      · simp only [List.append_assoc, digits]
        rfl
      · have stands := StandsFor.single unit (by simp [isLowSurrogate]; omega)
          (by simp [isHighSurrogate]; omega)
        rwa [Char.ofNat_toNat] at stands
    · next large => exact ⟨rfl, .plain ⟨quote, backslash, Nat.le_of_not_lt large⟩⟩
  all_goals exact ⟨rfl, .short rfl⟩

theorem flatMap_pieces (chars : List Char) :
    (chars.map pieceOf).flatMap Piece.text = chars.flatMap escapeChar := by
  rw [List.flatMap_map]
  exact List.flatMap_congr fun char _ => (pieceOf_spec char).1

theorem quotedText_piecesOf (string : String) : quotedText (piecesOf string) = escape string := by
  rw [quotedText, piecesOf, flatMap_pieces, escape, List.cons_append]

theorem allValid_piecesOf (string : String) : AllValid (piecesOf string) := by
  intro piece member
  obtain ⟨char, -, rfl⟩ := List.mem_map.mp member
  exact (pieceOf_spec char).2.valid _ (List.mem_singleton_self _)

theorem decode_piecesOf (string : String) : decode (piecesOf string) = some string.toList := by
  rw [piecesOf]
  induction string.toList with
  | nil => rfl
  | cons char rest ih =>
    have stands := (pieceOf_spec char).2.decode_append (rest.map pieceOf)
    rw [ih] at stands
    exact stands

/-! ## Documents -/

mutual

/-- A value as it is written. -/
def source : Json → Source
  | null => .null
  | boolean value => .boolean value
  | number value => .number value.literal
  | text value => .text (piecesOf value)
  | array items => .array (itemSources items)
  | object members => .object (memberSources members)

/-- Items as they are written. -/
def itemSources : List Json → List Source
  | [] => []
  | item :: rest => item.source :: itemSources rest

/-- Members as they are written. -/
def memberSources : List (String × Json) → List (List Piece × Source)
  | [] => []
  | (key, value) :: rest => (piecesOf key, value.source) :: memberSources rest

end

/-- The entries behind the first, and the end of their container. -/
def blockTail (level : Nat) (closing : Char) (entries : List (List Char)) : List Char :=
  entries.flatMap (fun entry => ',' :: (newLine (level + 1) ++ entry)) ++ (newLine level ++ [closing])

theorem block_cons (level : Nat) (opening closing : Char) (entry : List Char)
    (entries : List (List Char)) :
    block level opening closing (entry :: entries) =
      opening :: (newLine (level + 1) ++ (entry ++ blockTail level closing entries)) := by
  have joined : ∀ (front : List Char) (rest : List (List Char)),
      List.intercalate [','] (front :: rest) = front ++ rest.flatMap (',' :: ·) := by
    intro front rest
    induction rest generalizing front with
    | nil => simp [List.intercalate]
    | cons next rest ih => rw [List.intercalate_cons_cons, ih]; simp
  simp only [block, List.map_cons, joined, blockTail, List.flatMap_map]
  simp

theorem isBlank_newLine (level : Nat) : IsBlank (newLine level) := by
  intro char member
  rcases List.mem_cons.mp member with rfl | member
  · decide
  · rw [List.eq_of_mem_replicate member]
    decide

theorem gap_newLine (level : Nat) : Gap false (',' :: newLine level) :=
  .comma isBlank_nil (isBlank_newLine level)

theorem isColon_space : IsColon [':', ' '] :=
  ⟨[], [' '], isBlank_nil, by simp [IsBlank, Cursor.isSpace], rfl⟩

mutual

theorem prettyAt_writtenAs (level : Nat) (value : Json) :
    value.source.WrittenAs (prettyAt level value) := by
  cases value with
  | null => rfl
  | boolean value => rfl
  | number value => exact ⟨value.literal_valid, value.literal_text.symm⟩
  | text value => exact ⟨allValid_piecesOf value, (quotedText_piecesOf value).symm⟩
  | array items =>
    cases items with
    | nil => exact ⟨[']'], ⟨[], isBlank_nil, rfl⟩, rfl⟩
    | cons item rest =>
      refine ⟨_, ⟨newLine (level + 1), prettyAt (level + 1) item, _,
        .opening (isBlank_newLine _), prettyAt_writtenAs _ item, items_writtenAs level rest, rfl⟩, ?_⟩
      exact block_cons ..
  | object members =>
    match members with
    | [] => exact ⟨['\x7d'], ⟨[], isBlank_nil, rfl⟩, rfl⟩
    | (key, value) :: rest =>
      refine ⟨_, ⟨newLine (level + 1), [':', ' '], prettyAt (level + 1) value, _,
        .opening (isBlank_newLine _), allValid_piecesOf key, isColon_space,
        prettyAt_writtenAs _ value, members_writtenAs level rest, rfl⟩, ?_⟩
      rw [quotedText_piecesOf, prettyAt, prettyMembers, block_cons]
      simp only [List.append_assoc]

theorem items_writtenAs (level : Nat) (items : List Json) :
    ItemsWrittenAs false (itemSources items)
      (blockTail level ']' (prettyItems (level + 1) items)) := by
  match items with
  | [] => exact ⟨newLine level, isBlank_newLine level, rfl⟩
  | item :: rest =>
    refine ⟨',' :: newLine (level + 1), prettyAt (level + 1) item, _, gap_newLine _,
      prettyAt_writtenAs _ item, items_writtenAs level rest, ?_⟩
    simp [blockTail, prettyItems]

theorem members_writtenAs (level : Nat) (members : List (String × Json)) :
    MembersWrittenAs false (memberSources members)
      (blockTail level '\x7d' (prettyMembers (level + 1) members)) := by
  match members with
  | [] => exact ⟨newLine level, isBlank_newLine level, rfl⟩
  | (key, value) :: rest =>
    refine ⟨',' :: newLine (level + 1), [':', ' '], prettyAt (level + 1) value, _, gap_newLine _,
      allValid_piecesOf key, isColon_space, prettyAt_writtenAs _ value, members_writtenAs level rest,
      ?_⟩
    simp [blockTail, prettyMembers, quotedText_piecesOf]

end

/-! ## Nesting -/

mutual

/-- How many containers of a value stand inside each other. -/
def nesting : Json → Nat
  | array items => itemsNesting items + 1
  | object members => membersNesting members + 1
  | _ => 0

/-- How many containers stand inside each other in some items. -/
def itemsNesting : List Json → Nat
  | [] => 0
  | item :: rest => max item.nesting (itemsNesting rest)

/-- How many containers stand inside each other in some members. -/
def membersNesting : List (String × Json) → Nat
  | [] => 0
  | (_, value) :: rest => max value.nesting (membersNesting rest)

end

mutual

theorem source_depth (value : Json) : value.source.depth = value.nesting := by
  cases value with
  | array items => rw [source, Source.depth, nesting, itemSources_depth items]
  | object members => rw [source, Source.depth, nesting, memberSources_depth members]
  | null => rfl
  | boolean value => rfl
  | number value => rfl
  | text value => rfl

theorem itemSources_depth (items : List Json) :
    itemsDepth (itemSources items) = itemsNesting items := by
  match items with
  | [] => rfl
  | item :: rest =>
    rw [itemSources, itemsDepth, itemsNesting, source_depth item, itemSources_depth rest]

theorem memberSources_depth (members : List (String × Json)) :
    membersDepth (memberSources members) = membersNesting members := by
  match members with
  | [] => rfl
  | (key, value) :: rest =>
    rw [memberSources, membersDepth, membersNesting, source_depth value, memberSources_depth rest]

end

/-! ## Canonical values -/

mutual

/-- A value with the members of all objects sorted; of members with one key the last stays. -/
def canonical : Json → Json
  | array items => array (canonicalItems items)
  | object members => object (sortEntries (canonicalMembers members))
  | value => value

/-- Items in their canonical forms. -/
def canonicalItems : List Json → List Json
  | [] => []
  | item :: rest => item.canonical :: canonicalItems rest

/-- Members with their values in canonical forms. -/
def canonicalMembers : List (String × Json) → List (String × Json)
  | [] => []
  | (key, value) :: rest => (key, value.canonical) :: canonicalMembers rest

end

mutual

/-- Whether a value and all values inside it have a property. -/
def Every (holds : Json → Prop) : Json → Prop
  | array items => holds (array items) ∧ EveryItem holds items
  | object members => holds (object members) ∧ EveryMember holds members
  | value => holds value

/-- Whether all values inside some items have a property. -/
def EveryItem (holds : Json → Prop) : List Json → Prop
  | [] => True
  | item :: rest => item.Every holds ∧ EveryItem holds rest

/-- Whether all values inside some members have a property. -/
def EveryMember (holds : Json → Prop) : List (String × Json) → Prop
  | [] => True
  | (_, value) :: rest => value.Every holds ∧ EveryMember holds rest

end

/-- Whether an object has its keys in strictly increasing order. -/
def HasSortedKeys : Json → Prop
  | object members => IsSorted members
  | _ => True

/-- Whether every object in a value has its keys in strictly increasing order. -/
def IsCanonical (value : Json) : Prop :=
  value.Every HasSortedKeys

/-- Whether a number is an integer of 64 bits, with or without a sign. -/
def IsInteger64 : Json → Prop
  | number amount => ∃ value : Int, amount = .integer value ∧ -2 ^ 63 ≤ value ∧ value < 2 ^ 64
  | _ => True

/-- Whether every number in a value is an integer of 64 bits. -/
def HasIntegers (value : Json) : Prop :=
  value.Every IsInteger64

mutual

theorem IsCanonical.canonical_eq {value : Json} (sorted : value.IsCanonical) :
    value.canonical = value := by
  cases value with
  | array items => rw [canonical, canonicalItems_eq sorted.2]
  | object members =>
    rw [canonical, canonicalMembers_eq sorted.2, sortEntries_of_isSorted sorted.1]
  | null => rfl
  | boolean value => rfl
  | number value => rfl
  | text value => rfl

theorem canonicalItems_eq {items : List Json} (sorted : EveryItem HasSortedKeys items) :
    canonicalItems items = items := by
  match items with
  | [] => rfl
  | item :: rest =>
    rw [canonicalItems, IsCanonical.canonical_eq sorted.1, canonicalItems_eq sorted.2]

theorem canonicalMembers_eq {members : List (String × Json)}
    (sorted : EveryMember HasSortedKeys members) : canonicalMembers members = members := by
  match members with
  | [] => rfl
  | (key, value) :: rest =>
    rw [canonicalMembers, IsCanonical.canonical_eq sorted.1, canonicalMembers_eq sorted.2]

end

theorem everyMember_iff {holds : Json → Prop} {members : List (String × Json)} :
    EveryMember holds members ↔ ∀ member ∈ members, member.2.Every holds := by
  match members with
  | [] => simp [EveryMember]
  | (key, value) :: rest => simp [EveryMember, everyMember_iff]

mutual

/-- Reading leaves canonical values. -/
theorem Source.value_isCanonical {document : Source} {value : Json}
    (kept : document.value? = some value) : value.IsCanonical := by
  cases document with
  | null =>
    cases kept
    trivial
  | boolean truth =>
    cases kept
    trivial
  | number literal =>
    obtain ⟨amount, -, rfl⟩ := Option.map_eq_some_iff.mp kept
    trivial
  | text pieces =>
    obtain ⟨chars, -, rfl⟩ := Option.map_eq_some_iff.mp kept
    trivial
  | array items =>
    obtain ⟨values, inside, rfl⟩ := Option.map_eq_some_iff.mp kept
    exact ⟨trivial, itemValues_isCanonical inside⟩
  | object members =>
    obtain ⟨entries, inside, rfl⟩ := Option.map_eq_some_iff.mp kept
    refine ⟨isSorted_sortEntries entries, everyMember_iff.mpr fun entry member => ?_⟩
    exact everyMember_iff.mp (memberValues_isCanonical inside) entry (mem_of_mem_sortEntries member)

theorem itemValues_isCanonical {items : List Source} {values : List Json}
    (kept : itemValues? items = some values) : EveryItem HasSortedKeys values := by
  match items with
  | [] =>
    cases kept
    trivial
  | item :: rest =>
    simp only [itemValues?, bind, Option.bind_eq_some_iff] at kept
    obtain ⟨value, first, values, others, same⟩ := kept
    cases same
    exact ⟨Source.value_isCanonical first, itemValues_isCanonical others⟩

theorem memberValues_isCanonical {members : List (List Piece × Source)}
    {entries : List (String × Json)} (kept : memberValues? members = some entries) :
    EveryMember HasSortedKeys entries := by
  match members with
  | [] =>
    cases kept
    trivial
  | (key, value) :: rest =>
    simp only [memberValues?, bind, Option.bind_eq_some_iff] at kept
    obtain ⟨chars, -, value, first, entries, others, same⟩ := kept
    cases same
    exact ⟨Source.value_isCanonical first, memberValues_isCanonical others⟩

end

/-! ## Reading back -/

mutual

/-- The written form of a value with integers of 64 bits is read to its canonical form. -/
theorem HasIntegers.source_value {value : Json} (integers : value.HasIntegers) :
    value.source.value? = some value.canonical := by
  cases value with
  | array items =>
    rw [source, Source.value?, itemSources_values integers.2]
    rfl
  | object members =>
    rw [source, Source.value?, memberSources_values integers.2]
    rfl
  | number amount =>
    obtain ⟨value, rfl, low, high⟩ := integers
    rw [source, Source.value?, Number.literal, number_integerLiteral low high]
    rfl
  | text string =>
    rw [source, Source.value?, decode_piecesOf]
    simp [canonical]
  | null => rfl
  | boolean value => rfl

theorem itemSources_values {items : List Json} (integers : EveryItem IsInteger64 items) :
    itemValues? (itemSources items) = some (canonicalItems items) := by
  match items with
  | [] => rfl
  | item :: rest =>
    rw [itemSources, itemValues?, HasIntegers.source_value integers.1, itemSources_values integers.2]
    rfl

theorem memberSources_values {members : List (String × Json)}
    (integers : EveryMember IsInteger64 members) :
    memberValues? (memberSources members) = some (canonicalMembers members) := by
  match members with
  | [] => rfl
  | (key, value) :: rest =>
    rw [memberSources, memberValues?, decode_piecesOf, HasIntegers.source_value integers.1,
      memberSources_values integers.2]
    simp [canonicalMembers]

end

theorem pretty_writtenIn (value : Json) : value.source.WrittenIn value.pretty.toList := by
  refine ⟨[], prettyAt 0 value, [], isBlank_nil, prettyAt_writtenAs 0 value, isBlank_nil, ?_⟩
  simp [pretty]

/-- The pretty form of a value with integers of 64 bits is read to its canonical form. -/
theorem ofText_pretty {value : Json} (integers : value.HasIntegers)
    (shallow : value.nesting ≤ nestingLimit) : ofText? value.pretty = .ok value.canonical :=
  ofText_eq_ok_iff.mpr ⟨value.source, value.pretty_writtenIn, value.source_depth.trans_le shallow,
    integers.source_value⟩

end FixtureHarness.Json
