import FixtureHarness.Proofs.Json.Printing

/-! # What documents denote

The document that a text denotes has exact numbers, and an object leads from keys to values. A
written document denotes one by the value of each literal; what is read from it denotes the one in
which every literal has the value that its number is kept with.
-/

namespace FixtureHarness.Json

/-- A document without its spelling: the members of an object are a partial function. -/
inductive Document where
  | null
  | boolean (value : Bool)
  | number (value : ℚ)
  | text (value : String)
  | array (items : List Document)
  | object (members : String → Option Document)

/-- The object of some entries, in which the last value of a key counts. -/
def Document.ofEntries (entries : List (String × Document)) : Document :=
  .object fun key => lastValue? key entries

mutual

/-- The document that is denoted when literals have some values; `none` if a string has half a
surrogate pair. -/
def Source.document? (valued : Literal → ℚ) : Source → Option Document
  | .null => some .null
  | .boolean value => some (.boolean value)
  | .number literal => some (.number (valued literal))
  | .text pieces => (decode pieces).map fun chars => .text (String.ofList chars)
  | .array items => (itemDocuments? valued items).map .array
  | .object members => (memberDocuments? valued members).map .ofEntries

/-- The documents that items denote. -/
def itemDocuments? (valued : Literal → ℚ) : List Source → Option (List Document)
  | [] => some []
  | item :: rest => do
    let document ← item.document? valued
    let documents ← itemDocuments? valued rest
    some (document :: documents)

/-- The entries that members denote. -/
def memberDocuments? (valued : Literal → ℚ) :
    List (List Piece × Source) → Option (List (String × Document))
  | [] => some []
  | (key, value) :: rest => do
    let chars ← decode key
    let document ← value.document? valued
    let entries ← memberDocuments? valued rest
    some ((String.ofList chars, document) :: entries)

end

mutual

/-- The document that a value is. -/
def document : Json → Document
  | null => .null
  | boolean value => .boolean value
  | number value => .number value.value
  | text value => .text value
  | array items => .array (itemDocuments items)
  | object members => .ofEntries (memberDocuments members)

/-- The documents that items are. -/
def itemDocuments : List Json → List Document
  | [] => []
  | item :: rest => item.document :: itemDocuments rest

/-- The entries that members are. -/
def memberDocuments : List (String × Json) → List (String × Document)
  | [] => []
  | (key, value) :: rest => (key, value.document) :: memberDocuments rest

end

theorem memberDocuments_eq_map (members : List (String × Json)) :
    memberDocuments members = members.map fun member => (member.1, member.2.document) := by
  induction members with
  | nil => rfl
  | cons member rest ih => rw [memberDocuments, ih, List.map_cons]

/-- Sorting does not change what an object leads to. -/
theorem ofEntries_sortEntries (members : List (String × Json)) :
    Document.ofEntries (memberDocuments (sortEntries members)) =
      .ofEntries (memberDocuments members) := by
  simp only [Document.ofEntries, memberDocuments_eq_map, ← sortEntries_map, lastValue_sortEntries]

mutual

/-- A value and its canonical form are the same document. -/
theorem canonical_document (value : Json) : value.canonical.document = value.document := by
  cases value with
  | array items => rw [canonical, document, canonicalItems_documents items, document]
  | object members =>
    rw [canonical, document, ofEntries_sortEntries, canonicalMembers_documents members, document]
  | null => rfl
  | boolean value => rfl
  | number value => rfl
  | text value => rfl

theorem canonicalItems_documents (items : List Json) :
    itemDocuments (canonicalItems items) = itemDocuments items := by
  match items with
  | [] => rfl
  | item :: rest =>
    rw [canonicalItems, itemDocuments, canonical_document item, canonicalItems_documents rest,
      itemDocuments]

theorem canonicalMembers_documents (members : List (String × Json)) :
    memberDocuments (canonicalMembers members) = memberDocuments members := by
  match members with
  | [] => rfl
  | (key, value) :: rest =>
    rw [canonicalMembers, memberDocuments, canonical_document value,
      canonicalMembers_documents rest, memberDocuments]

end

/-! ## Printed documents -/

mutual

/-- The written form of a value denotes it. -/
theorem source_document (value : Json) :
    value.source.document? Literal.value = some value.document := by
  cases value with
  | array items => rw [source, Source.document?, itemSources_documents items]; rfl
  | object members => rw [source, Source.document?, memberSources_documents members]; rfl
  | number value => rw [source, Source.document?, value.literal_value, document]
  | text string =>
    rw [source, Source.document?, decode_piecesOf]
    simp [document]
  | null => rfl
  | boolean value => rfl

theorem itemSources_documents (items : List Json) :
    itemDocuments? Literal.value (itemSources items) = some (itemDocuments items) := by
  match items with
  | [] => rfl
  | item :: rest =>
    rw [itemSources, itemDocuments?, source_document item, itemSources_documents rest]
    rfl

theorem memberSources_documents (members : List (String × Json)) :
    memberDocuments? Literal.value (memberSources members) = some (memberDocuments members) := by
  match members with
  | [] => rfl
  | (key, value) :: rest =>
    rw [memberSources, memberDocuments?, decode_piecesOf, source_document value,
      memberSources_documents rest]
    simp [memberDocuments]

end

/-! ## Documents that are kept -/

/-- The value that a literal is kept with. -/
def Literal.kept (literal : Literal) : ℚ :=
  (literal.number?.map Number.value).getD literal.value

/-- Integers of 64 bits keep their values. -/
theorem Literal.kept_of_integer {literal : Literal} (valid : literal.Valid)
    (fraction : literal.fraction? = none) (exponent : literal.exponent? = none)
    (low : -2 ^ 63 ≤ literal.value) (high : literal.value < 2 ^ 64) :
    literal.kept = literal.value := by
  obtain ⟨number, kept, same⟩ := number_of_integer valid fraction exponent low high
  rw [Literal.kept, kept, Option.map_some, Option.getD_some, same]

mutual

/-- A document that is read becomes the document in which all literals have the values that they are
kept with. -/
theorem Source.document_of_value {written : Source} {value : Json}
    (read : written.value? = some value) :
    written.document? Literal.kept = some value.document := by
  cases written with
  | null =>
    cases read
    rfl
  | boolean truth =>
    cases read
    rfl
  | number literal =>
    obtain ⟨amount, number, rfl⟩ := Option.map_eq_some_iff.mp read
    rw [Source.document?, Literal.kept, number]
    rfl
  | text pieces =>
    obtain ⟨chars, decoded, rfl⟩ := Option.map_eq_some_iff.mp read
    rw [Source.document?, decoded]
    rfl
  | array items =>
    obtain ⟨values, inside, rfl⟩ := Option.map_eq_some_iff.mp read
    rw [Source.document?, itemDocuments_of_values inside]
    rfl
  | object members =>
    obtain ⟨entries, inside, rfl⟩ := Option.map_eq_some_iff.mp read
    rw [Source.document?, memberDocuments_of_values inside, document, ofEntries_sortEntries]
    rfl

theorem itemDocuments_of_values {items : List Source} {values : List Json}
    (read : itemValues? items = some values) :
    itemDocuments? Literal.kept items = some (itemDocuments values) := by
  match items with
  | [] =>
    cases read
    rfl
  | item :: rest =>
    simp only [itemValues?, bind, Option.bind_eq_some_iff] at read
    obtain ⟨value, first, values, others, same⟩ := read
    cases same
    rw [itemDocuments?, Source.document_of_value first, itemDocuments_of_values others]
    rfl

theorem memberDocuments_of_values {members : List (List Piece × Source)}
    {entries : List (String × Json)} (read : memberValues? members = some entries) :
    memberDocuments? Literal.kept members = some (memberDocuments entries) := by
  match members with
  | [] =>
    cases read
    rfl
  | (key, value) :: rest =>
    simp only [memberValues?, bind, Option.bind_eq_some_iff] at read
    obtain ⟨chars, decoded, value, first, entries, others, same⟩ := read
    cases same
    rw [memberDocuments?, decoded, Source.document_of_value first, memberDocuments_of_values others]
    rfl

end

/-! ## Literals that keep their values -/

mutual

/-- The literals of a document. -/
def Source.literals : Source → List Literal
  | .number literal => [literal]
  | .array items => itemLiterals items
  | .object members => memberLiterals members
  | _ => []

/-- The literals of items. -/
def itemLiterals : List Source → List Literal
  | [] => []
  | item :: rest => item.literals ++ itemLiterals rest

/-- The literals of members. -/
def memberLiterals : List (List Piece × Source) → List Literal
  | [] => []
  | (_, value) :: rest => value.literals ++ memberLiterals rest

end

section
variable {valued valued' : Literal → ℚ}

mutual

/-- What a document denotes depends on the values of its literals only. -/
theorem Source.document_congr {written : Source}
    (same : ∀ literal ∈ written.literals, valued literal = valued' literal) :
    written.document? valued = written.document? valued' := by
  cases written with
  | number literal => rw [Source.document?, same literal (List.mem_singleton_self _), Source.document?]
  | array items => rw [Source.document?, itemDocuments_congr same, Source.document?]
  | object members => rw [Source.document?, memberDocuments_congr same, Source.document?]
  | null => rfl
  | boolean truth => rfl
  | text pieces => rfl

theorem itemDocuments_congr {items : List Source}
    (same : ∀ literal ∈ itemLiterals items, valued literal = valued' literal) :
    itemDocuments? valued items = itemDocuments? valued' items := by
  match items with
  | [] => rfl
  | item :: rest =>
    rw [itemDocuments?, itemDocuments?,
      Source.document_congr fun literal held => same literal (List.mem_append_left _ held),
      itemDocuments_congr fun literal held => same literal (List.mem_append_right _ held)]

theorem memberDocuments_congr {members : List (List Piece × Source)}
    (same : ∀ literal ∈ memberLiterals members, valued literal = valued' literal) :
    memberDocuments? valued members = memberDocuments? valued' members := by
  match members with
  | [] => rfl
  | (key, value) :: rest =>
    rw [memberDocuments?, memberDocuments?,
      Source.document_congr fun literal held => same literal (List.mem_append_left _ held),
      memberDocuments_congr fun literal held => same literal (List.mem_append_right _ held)]

end

mutual

/-- Whether there is a document does not depend on the values of literals. -/
theorem Source.exists_document {written : Source} {document : Document}
    (means : written.document? valued = some document) :
    ∃ document', written.document? valued' = some document' := by
  cases written with
  | array items =>
    obtain ⟨documents, inside, rfl⟩ := Option.map_eq_some_iff.mp means
    obtain ⟨documents', inside'⟩ := exists_itemDocuments inside
    exact ⟨.array documents', by rw [Source.document?, inside']; rfl⟩
  | object members =>
    obtain ⟨entries, inside, rfl⟩ := Option.map_eq_some_iff.mp means
    obtain ⟨entries', inside'⟩ := exists_memberDocuments inside
    exact ⟨.ofEntries entries', by rw [Source.document?, inside']; rfl⟩
  | number literal => exact ⟨_, rfl⟩
  | null => exact ⟨_, rfl⟩
  | boolean truth => exact ⟨_, rfl⟩
  | text pieces => exact ⟨document, means⟩

theorem exists_itemDocuments {items : List Source} {documents : List Document}
    (means : itemDocuments? valued items = some documents) :
    ∃ documents', itemDocuments? valued' items = some documents' := by
  match items with
  | [] => exact ⟨[], rfl⟩
  | item :: rest =>
    simp only [itemDocuments?, bind, Option.bind_eq_some_iff] at means
    obtain ⟨document, first, documents, others, -⟩ := means
    obtain ⟨document', first'⟩ := Source.exists_document first
    obtain ⟨documents', others'⟩ := exists_itemDocuments others
    exact ⟨document' :: documents', by rw [itemDocuments?, first', others']; rfl⟩

theorem exists_memberDocuments {members : List (List Piece × Source)}
    {entries : List (String × Document)} (means : memberDocuments? valued members = some entries) :
    ∃ entries', memberDocuments? valued' members = some entries' := by
  match members with
  | [] => exact ⟨[], rfl⟩
  | (key, value) :: rest =>
    simp only [memberDocuments?, bind, Option.bind_eq_some_iff] at means
    obtain ⟨chars, decoded, document, first, entries, others, -⟩ := means
    obtain ⟨document', first'⟩ := Source.exists_document first
    obtain ⟨entries', others'⟩ := exists_memberDocuments others
    exact ⟨(String.ofList chars, document') :: entries',
      by rw [memberDocuments?, decoded, first', others']; rfl⟩

end

end

end FixtureHarness.Json
