import FixtureHarness.Proofs.Json.Documents

/-! # One document for a text

A text spells one document at most: the first character of a value tells its kind, and what is left
tells where it ends. So a text also denotes one document at most.
-/

namespace FixtureHarness.Json

/-! ## Strings -/

theorem Piece.unique {piece piece' : Piece} (valid : piece.Valid) (valid' : piece'.Valid)
    {rest rest' : List Char} (same : piece.text ++ rest = piece'.text ++ rest') :
    piece = piece' ∧ rest = rest' := by
  cases piece with
  | plain char =>
    cases piece' with
    | plain char' => simpa [text] using same
    | short letter => exact absurd (List.cons.inj same).1 valid.2.1
    | numeric a b c d => exact absurd (List.cons.inj same).1 valid.2.1
  | short letter =>
    obtain ⟨char, meant⟩ := Option.isSome_iff_exists.mp valid
    cases piece' with
    | plain char' => exact absurd (List.cons.inj same).1.symm valid'.2.1
    | short letter' => simpa [text] using same
    | numeric a b c d => exact absurd (List.cons.inj (List.cons.inj same).2).1 (ne_of_shortEscape meant)
  | numeric a b c d =>
    cases piece' with
    | plain char' => exact absurd (List.cons.inj same).1.symm valid'.2.1
    | short letter =>
      obtain ⟨char, meant⟩ := Option.isSome_iff_exists.mp valid'
      exact absurd (List.cons.inj (List.cons.inj same).2).1.symm (ne_of_shortEscape meant)
    | numeric a' b' c' d' => simpa [text, and_assoc] using same

theorem Piece.Valid.not_quote {piece : Piece} (valid : piece.Valid) {rest rest' : List Char} :
    piece.text ++ rest ≠ '"' :: rest' := by
  intro same
  cases piece with
  | plain char => exact valid.1 (List.cons.inj same).1
  | short letter => cases same
  | numeric a b c d => cases same

theorem pieces_unique {pieces : List Piece} : ∀ {pieces' : List Piece} {rest rest' : List Char},
    AllValid pieces → AllValid pieces' →
      pieces.flatMap Piece.text ++ '"' :: rest = pieces'.flatMap Piece.text ++ '"' :: rest' →
        pieces = pieces' ∧ rest = rest' := by
  induction pieces with
  | nil =>
    intro pieces' rest rest' valid valid' same
    cases pieces' with
    | nil => exact ⟨rfl, (List.cons.inj same).2⟩
    | cons piece' more' =>
      rw [List.flatMap_cons, List.append_assoc] at same
      exact absurd same.symm (allValid_cons.mp valid').1.not_quote
  | cons piece more ih =>
    intro pieces' rest rest' valid valid' same
    obtain ⟨first, others⟩ := allValid_cons.mp valid
    cases pieces' with
    | nil =>
      rw [List.flatMap_cons, List.append_assoc] at same
      exact absurd same first.not_quote
    | cons piece' more' =>
      obtain ⟨first', others'⟩ := allValid_cons.mp valid'
      rw [List.flatMap_cons, List.flatMap_cons, List.append_assoc, List.append_assoc] at same
      obtain ⟨rfl, behind⟩ := Piece.unique first first' same
      obtain ⟨rfl, rfl⟩ := ih others others' behind
      exact ⟨rfl, rfl⟩

theorem quotedText_unique {pieces pieces' : List Piece} (valid : AllValid pieces)
    (valid' : AllValid pieces') {rest rest' : List Char}
    (same : quotedText pieces ++ rest = quotedText pieces' ++ rest') :
    pieces = pieces' ∧ rest = rest' := by
  rw [quotedText_append, quotedText_append] at same
  exact pieces_unique valid valid' (List.cons.inj same).2

/-! ## Numbers -/

theorem digits_unique {digits digits' rest rest' : List Char} (all : AllDigits digits)
    (all' : AllDigits digits') (stop : NoDigit rest) (stop' : NoDigit rest')
    (same : digits ++ rest = digits' ++ rest') : digits = digits' ∧ rest = rest' := by
  have front : digits = digits' := by
    rw [← takeWhile_digits all stop, same, takeWhile_digits all' stop']
  exact ⟨front, List.append_cancel_left (front ▸ same)⟩

theorem sign_unique {sign? sign?' : Option Char} (sign : ∀ sign ∈ sign?, sign = '+' ∨ sign = '-')
    (sign' : ∀ sign ∈ sign?', sign = '+' ∨ sign = '-') {digits digits' : List Char}
    (all : IsDigits digits) (all' : IsDigits digits') {rest rest' : List Char}
    (same : sign?.toList ++ (digits ++ rest) = sign?'.toList ++ (digits' ++ rest')) :
    sign? = sign?' ∧ digits ++ rest = digits' ++ rest' := by
  have notSign {char : Char} (isSign : char = '+' ∨ char = '-') {digits behind rest : List Char}
      (all : IsDigits digits) : char :: behind ≠ digits ++ rest := by
    intro same
    obtain ⟨first, others, rfl, digit⟩ := all.exists_cons
    obtain rfl := (List.cons.inj same).1
    rcases isSign with rfl | rfl
    · exact absurd digit (by decide)
    · exact absurd digit (by decide)
  cases sign? with
  | none =>
    cases sign?' with
    | none => exact ⟨rfl, same⟩
    | some char' => exact (notSign (sign' char' rfl) all same.symm).elim
  | some char =>
    cases sign?' with
    | none => exact (notSign (sign char rfl) all' same).elim
    | some char' =>
      obtain ⟨rfl, behind⟩ := List.cons.inj same
      exact ⟨rfl, behind⟩

theorem exponent_unique {exponent? exponent?' : Option Exponent} (valid : ValidExponent exponent?)
    (valid' : ValidExponent exponent?') {rest rest' : List Char} (ends : EndsNumber rest)
    (ends' : EndsNumber rest')
    (same : Literal.exponentText exponent? ++ rest = Literal.exponentText exponent?' ++ rest') :
    exponent? = exponent?' ∧ rest = rest' := by
  have notLetter {exponent : Exponent} (valid : exponent.Valid) {behind rest : List Char}
      (ends : EndsNumber rest) : exponent.text ++ behind ≠ rest := by
    rintro rfl
    rcases valid.letter with isLetter | isLetter
    · exact (ends exponent.letter rfl).2 (by simp [isLetter])
    · exact (ends exponent.letter rfl).2 (by simp [isLetter])
  cases exponent? with
  | none =>
    cases exponent?' with
    | none => exact ⟨rfl, same⟩
    | some exponent' => exact absurd same.symm (notLetter (valid' exponent' rfl) ends)
  | some exponent =>
    cases exponent?' with
    | none => exact absurd same (notLetter (valid exponent rfl) ends')
    | some exponent' =>
      obtain ⟨letter, sign?, digits⟩ := exponent
      obtain ⟨letter', sign?', digits'⟩ := exponent'
      have wellFormed := valid _ rfl
      have wellFormed' := valid' _ rfl
      simp only [Literal.exponentText, Option.elim_some, Exponent.text, List.cons_append,
        List.append_assoc, List.cons.injEq] at same
      obtain ⟨rfl, behind⟩ := same
      obtain ⟨rfl, behind⟩ := sign_unique wellFormed.sign wellFormed'.sign wellFormed.digits
        wellFormed'.digits behind
      obtain ⟨rfl, rfl⟩ := digits_unique wellFormed.digits.2 wellFormed'.digits.2 ends.noDigit
        ends'.noDigit behind
      exact ⟨rfl, rfl⟩

theorem fraction_unique {fraction? fraction?' : Option (List Char)}
    (digits : ∀ digits ∈ fraction?, IsDigits digits) (digits' : ∀ digits ∈ fraction?', IsDigits digits)
    {exponent? exponent?' : Option Exponent} (valid : ValidExponent exponent?)
    (valid' : ValidExponent exponent?') {rest rest' : List Char} (ends : EndsNumber rest)
    (ends' : EndsNumber rest')
    (same : Literal.fractionText fraction? ++ (Literal.exponentText exponent? ++ rest) =
      Literal.fractionText fraction?' ++ (Literal.exponentText exponent?' ++ rest')) :
    fraction? = fraction?' ∧
      Literal.exponentText exponent? ++ rest = Literal.exponentText exponent?' ++ rest' := by
  cases fraction? with
  | none =>
    cases fraction?' with
    | none => exact ⟨rfl, same⟩
    | some places' => exact absurd same (exponentText_ne_point valid ends _)
  | some places =>
    cases fraction?' with
    | none => exact absurd same.symm (exponentText_ne_point valid' ends' _)
    | some places' =>
      obtain ⟨rfl, behind⟩ := digits_unique (digits places rfl).2 (digits' places' rfl).2
        (noDigit_exponentText valid ends) (noDigit_exponentText valid' ends') (List.cons.inj same).2
      exact ⟨rfl, behind⟩

theorem Literal.unique {literal literal' : Literal} (valid : literal.Valid)
    (valid' : literal'.Valid) {rest rest' : List Char} (ends : EndsNumber rest)
    (ends' : EndsNumber rest') (same : literal.text ++ rest = literal'.text ++ rest') :
    literal = literal' ∧ rest = rest' := by
  obtain ⟨negative, whole, fraction?, exponent?⟩ := literal
  obtain ⟨negative', whole', fraction?', exponent?'⟩ := literal'
  have unsigned (sign : negative = negative')
      (same : whole ++ (fractionText fraction? ++ (exponentText exponent? ++ rest)) =
        whole' ++ (fractionText fraction?' ++ (exponentText exponent?' ++ rest'))) :
      (⟨negative, whole, fraction?, exponent?⟩ : Literal) =
        ⟨negative', whole', fraction?', exponent?'⟩ ∧ rest = rest' := by
    obtain ⟨rfl, behind⟩ := digits_unique valid.whole.2 valid'.whole.2
      (noDigit_fractionText fraction? valid.exponent ends)
      (noDigit_fractionText fraction?' valid'.exponent ends') same
    obtain ⟨rfl, behind⟩ := fraction_unique valid.fraction valid'.fraction valid.exponent
      valid'.exponent ends ends' behind
    obtain ⟨rfl, rfl⟩ := exponent_unique valid.exponent valid'.exponent ends ends' behind
    exact ⟨by rw [sign], rfl⟩
  have notMinus {digits behind rest : List Char} (all : IsDigits digits) :
      '-' :: behind ≠ digits ++ rest := by
    intro same
    obtain ⟨first, others, rfl, digit⟩ := all.exists_cons
    exact absurd ((List.cons.inj same).1 ▸ digit) (by decide)
  simp only [text, signText, List.append_assoc] at same
  cases negative <;> cases negative'
  · exact unsigned rfl same
  · exact (notMinus valid.whole same.symm).elim
  · exact (notMinus valid'.whole same).elim
  · exact unsigned rfl (List.cons.inj same).2

/-! ## White space and gaps -/

theorem blank_unique {blank blank' rest rest' : List Char} (blankText : IsBlank blank)
    (blankText' : IsBlank blank') (begins : NoSpace rest) (begins' : NoSpace rest')
    (same : blank ++ rest = blank' ++ rest') : rest = rest' := by
  have skipped := Cursor.skipSpace_append blankText begins 0
  rw [same, Cursor.skipSpace_append blankText' begins' 0] at skipped
  exact (congrArg Cursor.rest skipped).symm

theorem Gap.unique {first : Bool} {gap gap' rest rest' : List Char} (between : Gap first gap)
    (between' : Gap first gap') (begins : NoSpace rest) (begins' : NoSpace rest')
    (same : gap ++ rest = gap' ++ rest') : rest = rest' := by
  cases between with
  | opening blankText =>
    cases between' with
    | opening blankText' => exact blank_unique blankText blankText' begins begins' same
  | comma beforeText afterText =>
    cases between' with
    | comma beforeText' afterText' =>
      simp only [List.append_assoc, List.cons_append] at same
      have behind := blank_unique beforeText beforeText' (noSpace_cons.mpr (by decide))
        (noSpace_cons.mpr (by decide)) same
      exact blank_unique afterText afterText' begins begins' (List.cons.inj behind).2

/-- No entry follows where the container ends. -/
theorem Gap.not_end {first : Bool} {gap blank rest rest' : List Char} {closing head : Char}
    (between : Gap first gap) (blankText : IsBlank blank) (notSpace : Cursor.isSpace head = false)
    (closes : Cursor.isSpace closing = false) (notComma : closing ≠ ',') (other : head ≠ closing) :
    blank ++ closing :: rest ≠ gap ++ head :: rest' := by
  intro same
  cases between with
  | opening blankText' =>
    have behind := blank_unique blankText blankText' (noSpace_cons.mpr closes)
      (noSpace_cons.mpr notSpace) same
    exact other (List.cons.inj behind).1.symm
  | comma beforeText afterText =>
    simp only [List.append_assoc, List.cons_append] at same
    have behind := blank_unique blankText beforeText (noSpace_cons.mpr closes)
      (noSpace_cons.mpr (by decide)) same
    exact notComma (List.cons.inj behind).1

theorem IsColon.unique {colon colon' rest rest' : List Char} (isColon : IsColon colon)
    (isColon' : IsColon colon') (begins : NoSpace rest) (begins' : NoSpace rest')
    (same : colon ++ rest = colon' ++ rest') : rest = rest' := by
  obtain ⟨before, after, beforeText, afterText, rfl⟩ := isColon
  obtain ⟨before', after', beforeText', afterText', rfl⟩ := isColon'
  simp only [List.append_assoc, List.cons_append] at same
  have behind := blank_unique beforeText beforeText' (noSpace_cons.mpr (by decide))
    (noSpace_cons.mpr (by decide)) same
  exact blank_unique afterText afterText' begins begins' (List.cons.inj behind).2

/-! ## Documents -/

/-- The kind of value that a character begins: all numbers begin alike. -/
def kindOf (char : Char) : Char :=
  if char = '-' ∨ isDigit char then '0' else char

/-- How a document of a kind begins. -/
def Source.kind : Source → Char
  | .null => 'n'
  | .boolean true => 't'
  | .boolean false => 'f'
  | .number _ => '0'
  | .text _ => '"'
  | .array _ => '['
  | .object _ => '\x7b'

theorem Source.WrittenAs.kind {source : Source} {body : List Char} (written : source.WrittenAs body) :
    ∃ first more, body = first :: more ∧ kindOf first = source.kind := by
  cases source with
  | null => exact ⟨'n', _, written, by decide⟩
  | boolean value =>
    cases value with
    | true => exact ⟨'t', _, written, by decide⟩
    | false => exact ⟨'f', _, written, by decide⟩
  | number literal =>
    obtain ⟨valid, rfl⟩ := written
    obtain ⟨first, rest, spelled, begins⟩ := valid.exists_cons
    exact ⟨first, rest, spelled, if_pos begins⟩
  | text pieces => exact ⟨'"', _, written.2, if_neg (by decide)⟩
  | array items =>
    obtain ⟨inside, -, rfl⟩ := written
    exact ⟨'[', inside, rfl, if_neg (by decide)⟩
  | object members =>
    obtain ⟨inside, -, rfl⟩ := written
    exact ⟨'\x7b', inside, rfl, if_neg (by decide)⟩

/-- Where items begin, an array does not end. -/
theorem ItemsWrittenAs.not_end {first : Bool} {item : Source} {more : List Source}
    {blank body : List Char} (written : ItemsWrittenAs first (item :: more) body)
    (blankText : IsBlank blank) (rest rest' : List Char) : blank ++ ']' :: rest ≠ body ++ rest' := by
  obtain ⟨gap, inside, tail, between, writtenItem, -, rfl⟩ := written
  obtain ⟨head, others, rfl, notSpace, notEnd⟩ := writtenItem.exists_cons
  simp only [List.append_assoc, List.cons_append]
  exact between.not_end blankText notSpace (by decide) (by decide) (List.ne_of_not_mem_cons notEnd)

/-- Where members begin, an object does not end. -/
theorem MembersWrittenAs.not_end {first : Bool} {member : List Piece × Source}
    {more : List (List Piece × Source)} {blank body : List Char}
    (written : MembersWrittenAs first (member :: more) body) (blankText : IsBlank blank)
    (rest rest' : List Char) : blank ++ '\x7d' :: rest ≠ body ++ rest' := by
  obtain ⟨gap, colon, inside, tail, between, -, -, -, -, rfl⟩ := written
  simp only [List.append_assoc, quotedText_append]
  exact between.not_end blankText (by decide) (by decide) (by decide) (by decide)

mutual

/-- A text begins with one document at most. -/
theorem Source.WrittenAs.unique {source source' : Source} {body body' rest rest' : List Char}
    (written : source.WrittenAs body) (written' : source'.WrittenAs body')
    (delimited : Delimited rest) (delimited' : Delimited rest')
    (same : body ++ rest = body' ++ rest') : source = source' ∧ rest = rest' := by
  have kinds : source.kind = source'.kind := by
    obtain ⟨first, more, rfl, kind⟩ := written.kind
    obtain ⟨first', more', rfl, kind'⟩ := written'.kind
    rw [← kind, ← kind', (List.cons.inj same).1]
  have different {char char' : Char} (same : char = char') (other : (char == char') = false) : False :=
    absurd same (by simpa using other)
  cases source with
  | null =>
    cases source' with
    | null =>
      cases written
      cases written'
      exact ⟨rfl, List.append_cancel_left same⟩
    | boolean truth' => cases truth' <;> exact (different kinds rfl).elim
    | _ => exact (different kinds rfl).elim
  | boolean truth =>
    cases source' with
    | boolean truth' =>
      obtain rfl : truth = truth' := by
        cases truth <;> cases truth' <;> first | rfl | exact (different kinds rfl).elim
      cases written
      cases written'
      exact ⟨rfl, List.append_cancel_left same⟩
    | _ => cases truth <;> exact (different kinds rfl).elim
  | number literal =>
    cases source' with
    | number literal' =>
      obtain ⟨valid, rfl⟩ := written
      obtain ⟨valid', rfl⟩ := written'
      obtain ⟨rfl, rfl⟩ := Literal.unique valid valid' delimited.endsNumber delimited'.endsNumber same
      exact ⟨rfl, rfl⟩
    | boolean truth' => cases truth' <;> exact (different kinds rfl).elim
    | _ => exact (different kinds rfl).elim
  | text pieces =>
    cases source' with
    | text pieces' =>
      obtain ⟨valid, rfl⟩ := written
      obtain ⟨valid', rfl⟩ := written'
      obtain ⟨rfl, rfl⟩ := quotedText_unique valid valid' same
      exact ⟨rfl, rfl⟩
    | boolean truth' => cases truth' <;> exact (different kinds rfl).elim
    | _ => exact (different kinds rfl).elim
  | array items =>
    cases source' with
    | array items' =>
      obtain ⟨inside, writtenItems, rfl⟩ := written
      obtain ⟨inside', writtenItems', rfl⟩ := written'
      obtain ⟨rfl, rfl⟩ := writtenItems.unique writtenItems' (List.cons.inj same).2
      exact ⟨rfl, rfl⟩
    | boolean truth' => cases truth' <;> exact (different kinds rfl).elim
    | _ => exact (different kinds rfl).elim
  | object members =>
    cases source' with
    | object members' =>
      obtain ⟨inside, writtenMembers, rfl⟩ := written
      obtain ⟨inside', writtenMembers', rfl⟩ := written'
      obtain ⟨rfl, rfl⟩ := writtenMembers.unique writtenMembers' (List.cons.inj same).2
      exact ⟨rfl, rfl⟩
    | boolean truth' => cases truth' <;> exact (different kinds rfl).elim
    | _ => exact (different kinds rfl).elim

theorem ItemsWrittenAs.unique {first : Bool} {items items' : List Source}
    {body body' rest rest' : List Char} (written : ItemsWrittenAs first items body)
    (written' : ItemsWrittenAs first items' body') (same : body ++ rest = body' ++ rest') :
    items = items' ∧ rest = rest' := by
  match items, items' with
  | [], [] =>
    obtain ⟨blank, blankText, rfl⟩ := written
    obtain ⟨blank', blankText', rfl⟩ := written'
    simp only [List.append_assoc, List.singleton_append] at same
    have behind := blank_unique blankText blankText' (noSpace_cons.mpr (by decide))
      (noSpace_cons.mpr (by decide)) same
    exact ⟨rfl, (List.cons.inj behind).2⟩
  | [], item' :: more' =>
    obtain ⟨blank, blankText, rfl⟩ := written
    rw [List.append_assoc] at same
    exact absurd same (written'.not_end blankText rest rest')
  | item :: more, [] =>
    obtain ⟨blank, blankText, rfl⟩ := written'
    rw [List.append_assoc] at same
    exact absurd same.symm (written.not_end blankText rest' rest)
  | item :: more, item' :: more' =>
    obtain ⟨gap, inside, tail, between, writtenItem, writtenTail, rfl⟩ := written
    obtain ⟨gap', inside', tail', between', writtenItem', writtenTail', rfl⟩ := written'
    simp only [List.append_assoc] at same
    have behindGap := between.unique between' (writtenItem.noSpace _) (writtenItem'.noSpace _) same
    obtain ⟨rfl, behindItem⟩ := writtenItem.unique writtenItem' (writtenTail.delimited rest)
      (writtenTail'.delimited rest') behindGap
    obtain ⟨rfl, rfl⟩ := writtenTail.unique writtenTail' behindItem
    exact ⟨rfl, rfl⟩

theorem MembersWrittenAs.unique {first : Bool} {members members' : List (List Piece × Source)}
    {body body' rest rest' : List Char} (written : MembersWrittenAs first members body)
    (written' : MembersWrittenAs first members' body') (same : body ++ rest = body' ++ rest') :
    members = members' ∧ rest = rest' := by
  match members, members' with
  | [], [] =>
    obtain ⟨blank, blankText, rfl⟩ := written
    obtain ⟨blank', blankText', rfl⟩ := written'
    simp only [List.append_assoc, List.singleton_append] at same
    have behind := blank_unique blankText blankText' (noSpace_cons.mpr (by decide))
      (noSpace_cons.mpr (by decide)) same
    exact ⟨rfl, (List.cons.inj behind).2⟩
  | [], (key', value') :: more' =>
    obtain ⟨blank, blankText, rfl⟩ := written
    rw [List.append_assoc] at same
    exact absurd same (written'.not_end blankText rest rest')
  | (key, value) :: more, [] =>
    obtain ⟨blank, blankText, rfl⟩ := written'
    rw [List.append_assoc] at same
    exact absurd same.symm (written.not_end blankText rest' rest)
  | (key, value) :: more, (key', value') :: more' =>
    obtain ⟨gap, colon, inside, tail, between, validKey, isColon, writtenValue, writtenTail, rfl⟩ :=
      written
    obtain ⟨gap', colon', inside', tail', between', validKey', isColon', writtenValue', writtenTail',
      rfl⟩ := written'
    simp only [List.append_assoc] at same
    have quoted {key : List Piece} {behind : List Char} : NoSpace (quotedText key ++ behind) := by
      rw [quotedText_append]
      exact noSpace_cons.mpr (by decide)
    have behindGap := between.unique between' quoted quoted same
    obtain ⟨rfl, behindKey⟩ := quotedText_unique validKey validKey' behindGap
    have behindColon := isColon.unique isColon' (writtenValue.noSpace _) (writtenValue'.noSpace _)
      behindKey
    obtain ⟨rfl, behindValue⟩ := writtenValue.unique writtenValue' (writtenTail.delimited rest)
      (writtenTail'.delimited rest') behindColon
    obtain ⟨rfl, rfl⟩ := writtenTail.unique writtenTail' behindValue
    exact ⟨rfl, rfl⟩

end

/-- A whole text spells one document at most. -/
theorem Source.WrittenIn.unique {source source' : Source} {written : List Char}
    (spells : source.WrittenIn written) (spells' : source'.WrittenIn written) : source = source' := by
  obtain ⟨before, body, after, beforeText, inside, afterText, rfl⟩ := spells
  obtain ⟨before', body', after', beforeText', inside', afterText', same⟩ := spells'
  have behind := blank_unique beforeText beforeText' (inside.noSpace _) (inside'.noSpace _) same
  exact (inside.unique inside' (delimited_of_isBlank afterText) (delimited_of_isBlank afterText')
    behind).1

/-! ## What a text denotes -/

/-- A text spells a document. -/
def Denotes (string : String) (document : Document) : Prop :=
  ∃ source : Source, source.WrittenIn string.toList ∧ source.document? Literal.value = some document

theorem Denotes.unique {string : String} {document document' : Document}
    (denotes : Denotes string document) (denotes' : Denotes string document') :
    document = document' := by
  obtain ⟨source, written, means⟩ := denotes
  obtain ⟨source', written', means'⟩ := denotes'
  obtain rfl := written.unique written'
  exact Option.some.inj (means.symm.trans means')

/-- The pretty form of a value denotes the value, and nothing else. -/
theorem denotes_pretty_iff {value : Json} {document : Document} :
    Denotes value.pretty document ↔ document = value.document := by
  have denotes : Denotes value.pretty value.document :=
    ⟨value.source, value.pretty_writtenIn, value.source_document⟩
  exact ⟨fun other => other.unique denotes, fun same => same ▸ denotes⟩

end FixtureHarness.Json
