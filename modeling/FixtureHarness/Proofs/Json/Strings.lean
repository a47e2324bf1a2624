import FixtureHarness.Proofs.Json.Reading

/-! # Reading strings

The characters that the pieces of a string stand for; two numeric escapes stand for one character
when they are a surrogate pair, and half a pair stands for none. The reader takes exactly the strings
that stand for characters. Skipping does not look at pairs.
-/

namespace FixtureHarness.Json

/-- The characters that pieces stand for; `none` if there is half a surrogate pair among them. -/
def decode : List Piece → Option (List Char)
  | [] => some []
  | .plain char :: rest => (decode rest).map (char :: ·)
  | .short letter :: rest => do
    let char ← shortEscape? letter
    (decode rest).map (char :: ·)
  | .numeric a b c d :: rest => do
    let unit ← hexUnit? a b c d
    if isLowSurrogate unit then none
    else if !isHighSurrogate unit then (decode rest).map (Char.ofNat unit :: ·)
    else
      match rest with
      | .numeric a b c d :: rest => do
        let low ← hexUnit? a b c d
        if isLowSurrogate low then
          (decode rest).map
            (Char.ofNat ((unit - 0xD800) * 0x400 + (low - 0xDC00) + 0x10000) :: ·)
        else none
      | _ => none

theorem allValid_cons {piece : Piece} {pieces : List Piece} :
    AllValid (piece :: pieces) ↔ piece.Valid ∧ AllValid pieces := by
  simp [AllValid]

theorem allValid_append {left right : List Piece} :
    AllValid (left ++ right) ↔ AllValid left ∧ AllValid right := by
  simp only [AllValid, List.mem_append]
  exact ⟨fun all => ⟨fun piece held => all piece (.inl held), fun piece held => all piece (.inr held)⟩,
    fun all piece held => held.elim (all.1 piece) (all.2 piece)⟩

theorem allValid_nil : AllValid [] := by
  simp [AllValid]

/-- Some pieces that together stand for one character. -/
inductive StandsFor : List Piece → Char → Prop where
  | plain {char : Char} : (Piece.plain char).Valid → StandsFor [.plain char] char
  | short {letter char : Char} : shortEscape? letter = some char →
      StandsFor [.short letter] char
  | single {a b c d : Char} {unit : Nat} : hexUnit? a b c d = some unit →
      isLowSurrogate unit = false → isHighSurrogate unit = false →
      StandsFor [.numeric a b c d] (Char.ofNat unit)
  | pair {a b c d a' b' c' d' : Char} {unit low : Nat} : hexUnit? a b c d = some unit →
      isLowSurrogate unit = false → isHighSurrogate unit = true →
      hexUnit? a' b' c' d' = some low → isLowSurrogate low = true →
      StandsFor [.numeric a b c d, .numeric a' b' c' d']
        (Char.ofNat ((unit - 0xD800) * 0x400 + (low - 0xDC00) + 0x10000))

theorem StandsFor.valid {pieces : List Piece} {char : Char} (stands : StandsFor pieces char) :
    AllValid pieces := by
  cases stands with
  | plain valid => simpa [AllValid] using valid
  | short meant => simp [AllValid, Piece.Valid, meant]
  | single units _ _ => simp [AllValid, Piece.Valid, units]
  | pair units _ _ lows _ => simp [AllValid, Piece.Valid, units, lows]

theorem StandsFor.decode_append {pieces : List Piece} {char : Char}
    (stands : StandsFor pieces char) (more : List Piece) :
    decode (pieces ++ more) = (decode more).map (char :: ·) := by
  cases stands with
  | plain _ => rfl
  | short meant =>
    rw [List.singleton_append, decode, meant]
    rfl
  | single units notLow notHigh =>
    rw [List.singleton_append, decode.eq_def]
    simp [units, notLow, notHigh]
  | pair units notLow high lows isLow =>
    rw [List.cons_append, List.singleton_append, decode.eq_def]
    simp [units, notLow, high, lows, isLow]

/-- A string that stands for characters is empty or begins with pieces for the first of them. -/
theorem exists_standsFor {pieces : List Piece} {chars : List Char} (valid : AllValid pieces)
    (decoded : decode pieces = some chars) :
    pieces = [] ∧ chars = [] ∨ ∃ front back char more, StandsFor front char ∧
      pieces = front ++ back ∧ chars = char :: more ∧ AllValid back ∧ decode back = some more := by
  obtain _ | ⟨piece, back⟩ := pieces
  · cases decoded
    exact .inl ⟨rfl, rfl⟩
  obtain ⟨first, rest⟩ := allValid_cons.mp valid
  cases piece with
  | plain char =>
    rw [decode, Option.map_eq_some_iff] at decoded
    obtain ⟨more, decodedBack, rfl⟩ := decoded
    exact .inr ⟨_, back, char, more, .plain first, rfl, rfl, rest, decodedBack⟩
  | short letter =>
    simp only [decode, bind, Option.bind_eq_some_iff, Option.map_eq_some_iff] at decoded
    obtain ⟨char, meant, more, decodedBack, rfl⟩ := decoded
    exact .inr ⟨_, back, char, more, .short meant, rfl, rfl, rest, decodedBack⟩
  | numeric a b c d =>
    rw [decode.eq_def] at decoded
    simp only [bind, Option.bind_eq_some_iff] at decoded
    obtain ⟨unit, units, decoded⟩ := decoded
    split at decoded
    · cases decoded
    next notLow =>
    split at decoded
    · next notHigh =>
      rw [Option.map_eq_some_iff] at decoded
      obtain ⟨more, decodedBack, rfl⟩ := decoded
      exact .inr ⟨_, back, _, more, .single units (by simpa using notLow) (by simpa using notHigh),
        rfl, rfl, rest, decodedBack⟩
    next high =>
    split at decoded
    · next a' b' c' d' last =>
      simp only [Option.bind_eq_some_iff] at decoded
      obtain ⟨low, lows, decoded⟩ := decoded
      split at decoded
      · next isLow =>
        rw [Option.map_eq_some_iff] at decoded
        obtain ⟨more, decodedBack, rfl⟩ := decoded
        exact .inr ⟨_, last, _, more,
          .pair units (by simpa using notLow) (by simpa using high) lows isLow, rfl, rfl,
          (allValid_cons.mp rest).2, decodedBack⟩
      · cases decoded
    · cases decoded

theorem quotedText_append (pieces : List Piece) (rest : List Char) :
    quotedText pieces ++ rest = '"' :: (pieces.flatMap Piece.text ++ '"' :: rest) := by
  simp [quotedText]

/-! ## Reading escapes -/

theorem readHex_sound {cursor after : Cursor} {unit : Nat}
    (read : readHex cursor = .ok (unit, after)) :
    ∃ a b c d, cursor.rest = a :: b :: c :: d :: after.rest ∧ hexUnit? a b c d = some unit := by
  obtain ⟨rest, offset⟩ := cursor
  rw [readHex] at read
  split at read
  · rename_i va vb vc vd values found
    cases read
    simp only [List.map_eq_cons_iff] at found
    obtain ⟨a, _, rfl, first, b, _, rfl, second, c, _, rfl, third, d, more, rfl, fourth, -⟩ := found
    exact ⟨a, b, c, d, rfl, by simp [hexUnit?, first, second, third, fourth]⟩
  · split at read <;> cases read

theorem takes_readHex {a b c d : Char} {unit : Nat} (units : hexUnit? a b c d = some unit)
    (rest : List Char) : Takes readHex (a :: b :: c :: d :: rest) unit rest := by
  intro offset
  simp only [hexUnit?, bind, Option.bind_eq_some_iff] at units
  obtain ⟨va, first, vb, second, vc, third, vd, fourth, value⟩ := units
  cases value
  simp [readHex, first, second, third, fourth, Cursor.skip]

theorem readUnicode_sound {cursor after : Cursor} {char : Char}
    (read : readUnicode cursor = .ok (char, after)) :
    ∃ pieces, StandsFor pieces char ∧
      '\\' :: 'u' :: cursor.rest = pieces.flatMap Piece.text ++ after.rest := by
  simp only [readUnicode, bind_eq_ok_iff, Prod.exists] at read
  obtain ⟨unit, behind, units, read⟩ := read
  obtain ⟨a, b, c, d, spelled, value⟩ := readHex_sound units
  split at read
  · cases read
  next notLow =>
  split at read
  · next notHigh =>
    cases read
    refine ⟨_, .single value (by simpa using notLow) (by simpa using notHigh), ?_⟩
    simp [Piece.text, spelled]
  next high =>
  split at read
  · cases read
  · cases read
  · next more found =>
    simp only [bind_eq_ok_iff, Prod.exists] at read
    obtain ⟨low, last, lows, read⟩ := read
    obtain ⟨a', b', c', d', spelled', value'⟩ := readHex_sound lows
    split at read
    · next isLow =>
      simp only [Except.ok.injEq, Prod.mk.injEq] at read
      obtain ⟨rfl, rfl⟩ := read
      refine ⟨_, .pair value (by simpa using notLow) (by simpa using high) value' isLow, ?_⟩
      rw [Cursor.skip_rest, found] at spelled'
      simp only [List.drop_succ_cons, List.drop_zero] at spelled'
      simp [Piece.text, spelled, found, spelled']
    · cases read
  · cases read
  · cases read

theorem readEscape_sound {cursor after : Cursor} {char : Char}
    (read : readEscape cursor = .ok (char, after)) :
    ∃ pieces, StandsFor pieces char ∧
      '\\' :: cursor.rest = pieces.flatMap Piece.text ++ after.rest := by
  rw [readEscape] at read
  split at read
  · cases read
  · next rest found =>
    obtain ⟨pieces, stands, spelled⟩ := readUnicode_sound read
    exact ⟨pieces, stands, by rw [found]; exact spelled⟩
  · next letter rest _ found =>
    split at read
    · next meant short =>
      cases read
      exact ⟨_, .short short, by simp [Piece.text, found]⟩
    · cases read

theorem ne_of_shortEscape {letter char : Char} (meant : shortEscape? letter = some char) :
    letter ≠ 'u' := by
  rintro rfl
  cases meant

/-- An escape is read behind its backslash. -/
theorem StandsFor.takes_readEscape {pieces : List Piece} {char : Char}
    (stands : StandsFor pieces char) {behind rest : List Char}
    (spelled : pieces.flatMap Piece.text ++ rest = '\\' :: behind) :
    Takes readEscape behind char rest := by
  intro offset
  cases stands with
  | plain valid =>
    simp only [Piece.text, List.flatMap_cons, List.flatMap_nil, List.append_nil,
      List.singleton_append, List.cons.injEq] at spelled
    exact (valid.2.1 spelled.1).elim
  | @short letter _ meant =>
    have notUnicode := ne_of_shortEscape meant
    cases spelled
    unfold readEscape
    split
    · next found => cases found
    · next found =>
      cases found
      exact (notUnicode rfl).elim
    · next found =>
      cases found
      rw [meant]
      exact ⟨_, rfl⟩
  | single units notLow notHigh =>
    cases spelled
    obtain ⟨after, hex⟩ := takes_readHex units rest (offset + 'u'.utf8Size)
    simp [readEscape, readUnicode, Cursor.past, hex, bind, Except.bind, notLow, notHigh]
  | @pair a b c d a' b' c' d' _ _ units notLow high lows isLow =>
    obtain rfl : 'u' :: a :: b :: c :: d :: '\\' :: 'u' :: a' :: b' :: c' :: d' :: rest = behind := by
      simpa [Piece.text] using spelled
    obtain ⟨middle, hex⟩ := takes_readHex units ('\\' :: 'u' :: a' :: b' :: c' :: d' :: rest)
      (offset + 'u'.utf8Size)
    obtain ⟨after, hex'⟩ := takes_readHex lows rest (middle + 2)
    simp [readEscape, readUnicode, Cursor.past, Cursor.skip, hex, hex', bind, Except.bind, notLow,
      high, isLow]

/-! ## Reading strings -/

/-- The pieces of the first character go before those of the rest. -/
theorem StandsFor.join {front : List Piece} {char : Char} (stands : StandsFor front char)
    {written behind rest : List Char} {chars : List Char}
    (spelled : written = front.flatMap Piece.text ++ behind)
    (more : ∃ pieces, AllValid pieces ∧ decode pieces = some chars ∧
      behind = pieces.flatMap Piece.text ++ '"' :: rest) :
    ∃ pieces, AllValid pieces ∧ decode pieces = some (char :: chars) ∧
      written = pieces.flatMap Piece.text ++ '"' :: rest := by
  obtain ⟨back, valid, decoded, spelledBack⟩ := more
  refine ⟨front ++ back, allValid_append.mpr ⟨stands.valid, valid⟩, ?_, ?_⟩
  · rw [stands.decode_append, decoded, Option.map_some]
  · rw [spelled, spelledBack, List.flatMap_append, List.append_assoc]

theorem readChars_sound {fuel : Nat} : ∀ {cursor after : Cursor} {chars : List Char},
    readChars fuel cursor = .ok (chars, after) →
      ∃ pieces, AllValid pieces ∧ decode pieces = some chars ∧
        cursor.rest = pieces.flatMap Piece.text ++ '"' :: after.rest := by
  induction fuel with
  | zero =>
    intro cursor after chars read
    cases read
  | succ fuel ih =>
    intro cursor after chars read
    rw [readChars] at read
    split at read
    · cases read
    · next rest found =>
      cases read
      exact ⟨[], allValid_nil, rfl, by simp [found]⟩
    · next rest found =>
      simp only [bind_eq_ok_iff, Prod.exists] at read
      obtain ⟨char, behind, escaped, more, last, inside, same⟩ := read
      cases same
      obtain ⟨front, stands, spelled⟩ := readEscape_sound escaped
      exact stands.join (found.trans spelled) (ih inside)
    · next char rest notQuote notBackslash found =>
      split at read
      · cases read
      next large =>
      simp only [bind_eq_ok_iff, Prod.exists] at read
      obtain ⟨more, last, inside, same⟩ := read
      cases same
      have stands : StandsFor [.plain char] char :=
        .plain ⟨notQuote, notBackslash, Nat.le_of_not_lt large⟩
      exact stands.join found (ih inside)

/-- Reading goes on behind the pieces of a character. -/
theorem StandsFor.takes_readChars {front : List Piece} {char : Char} (stands : StandsFor front char)
    {fuel : Nat} {written rest : List Char} {chars : List Char}
    (more : Takes (readChars fuel) written chars rest) :
    Takes (readChars (fuel + 1)) (front.flatMap Piece.text ++ written) (char :: chars) rest := by
  intro offset
  have escaped {behind : List Char} (spelled : front.flatMap Piece.text ++ written = '\\' :: behind) :
      ∃ after, readChars (fuel + 1) ⟨'\\' :: behind, offset⟩ =
        .ok (char :: chars, ⟨rest, after⟩) := by
    obtain ⟨middle, escape⟩ := stands.takes_readEscape spelled (offset + '\\'.utf8Size)
    obtain ⟨after, inside⟩ := more middle
    exact ⟨after, by simp [readChars, Cursor.past, escape, inside, bind, Except.bind]⟩
  cases stands with
  | plain valid =>
    obtain ⟨notQuote, notBackslash, large⟩ := valid
    obtain ⟨after, inside⟩ := more (offset + char.utf8Size)
    refine ⟨after, ?_⟩
    simp [readChars, Piece.text, Cursor.past, Nat.not_lt.mpr large, inside, bind, Except.bind]
  | short _ => exact escaped rfl
  | single _ _ _ => exact escaped rfl
  | pair _ _ _ _ _ => exact escaped rfl

theorem takes_readChars {fuel : Nat} : ∀ {pieces : List Piece} {chars : List Char},
    AllValid pieces → decode pieces = some chars → pieces.length < fuel → ∀ rest,
      Takes (readChars fuel) (pieces.flatMap Piece.text ++ '"' :: rest) chars rest := by
  induction fuel with
  | zero =>
    intro pieces chars valid decoded enough rest
    exact (Nat.not_lt_zero _ enough).elim
  | succ fuel ih =>
    intro pieces chars valid decoded enough rest
    rcases exists_standsFor valid decoded with
      ⟨rfl, rfl⟩ | ⟨front, back, char, more, stands, rfl, rfl, validBack, decodedBack⟩
    · exact fun offset => ⟨_, rfl⟩
    · have shorter : back.length < fuel := by
        have nonempty : 0 < front.length := by cases stands <;> simp
        rw [List.length_append] at enough
        omega
      rw [List.flatMap_append, List.append_assoc]
      exact stands.takes_readChars (ih validBack decodedBack shorter rest)

theorem length_le_text (pieces : List Piece) :
    pieces.length ≤ (pieces.flatMap Piece.text).length := by
  induction pieces with
  | nil => exact Nat.le_refl 0
  | cons piece rest ih =>
    have positive : 1 ≤ piece.text.length := by cases piece <;> simp [Piece.text]
    rw [List.flatMap_cons, List.length_append, List.length_cons]
    omega

/-- What is read behind an opening quote is a string that stands for the result. -/
theorem readString_sound {cursor after : Cursor} {string : String}
    (read : readString cursor = .ok (string, after)) :
    ∃ pieces, AllValid pieces ∧ decode pieces = some string.toList ∧
      '"' :: cursor.rest = quotedText pieces ++ after.rest := by
  simp only [readString, bind_eq_ok_iff, Prod.exists] at read
  obtain ⟨chars, behind, inside, same⟩ := read
  cases same
  obtain ⟨pieces, valid, decoded, spelled⟩ := readChars_sound inside
  exact ⟨pieces, valid, by rw [decoded, String.toList_ofList], by simp [quotedText, spelled]⟩

theorem takes_readString {pieces : List Piece} {chars : List Char} (valid : AllValid pieces)
    (decoded : decode pieces = some chars) (rest : List Char) :
    Takes readString (pieces.flatMap Piece.text ++ '"' :: rest) (String.ofList chars) rest := by
  intro offset
  have enough : pieces.length < (pieces.flatMap Piece.text ++ '"' :: rest).length + 1 := by
    have bound := length_le_text pieces
    rw [List.length_append]
    omega
  obtain ⟨after, inside⟩ := takes_readChars valid decoded enough rest offset
  exact ⟨after, by simp only [readString, inside, bind, Except.bind]⟩

/-! ## Skipping strings -/

theorem skipChars_sound {fuel : Nat} : ∀ {cursor after : Cursor},
    skipChars fuel cursor = .ok ((), after) →
      ∃ pieces, AllValid pieces ∧ cursor.rest = pieces.flatMap Piece.text ++ '"' :: after.rest := by
  induction fuel with
  | zero =>
    intro cursor after skipped
    cases skipped
  | succ fuel ih =>
    intro cursor after skipped
    have joined {front : List Piece} {behind : Cursor} (validFront : AllValid front)
        (spelled : cursor.rest = front.flatMap Piece.text ++ behind.rest)
        (inside : skipChars fuel behind = .ok ((), after)) :
        ∃ pieces, AllValid pieces ∧
          cursor.rest = pieces.flatMap Piece.text ++ '"' :: after.rest := by
      obtain ⟨back, valid, spelledBack⟩ := ih inside
      refine ⟨front ++ back, allValid_append.mpr ⟨validFront, valid⟩, ?_⟩
      rw [spelled, spelledBack, List.flatMap_append, List.append_assoc]
    rw [skipChars] at skipped
    split at skipped
    · cases skipped
    · next rest found =>
      cases skipped
      exact ⟨[], allValid_nil, by simp [found]⟩
    · next rest found =>
      rw [bind_eq_ok_iff] at skipped
      obtain ⟨⟨unit, behind⟩, hex, skipped⟩ := skipped
      obtain ⟨a, b, c, d, spelled, units⟩ := readHex_sound hex
      rw [Cursor.skip_rest, found] at spelled
      simp only [List.drop_succ_cons, List.drop_zero] at spelled
      have validFront : AllValid [.numeric a b c d] := by simp [AllValid, Piece.Valid, units]
      exact joined validFront (by rw [found, spelled]; rfl) skipped
    · next rest _ found =>
      rw [bind_eq_ok_iff] at skipped
      obtain ⟨⟨char, behind⟩, escaped, skipped⟩ := skipped
      obtain ⟨front, stands, spelled⟩ := readEscape_sound escaped
      exact joined stands.valid (found.trans spelled) skipped
    · next char rest notQuote _ notBackslash found =>
      split at skipped
      · cases skipped
      next large =>
      have validFront : AllValid [.plain char] := by
        simpa [AllValid, Piece.Valid] using
          ⟨notQuote, notBackslash, Nat.le_of_not_lt large⟩
      exact joined validFront (by rw [found]; rfl) skipped

theorem takes_skipChars {pieces : List Piece} : ∀ {fuel : Nat}, AllValid pieces →
    pieces.length < fuel → ∀ rest,
      Takes (skipChars fuel) (pieces.flatMap Piece.text ++ '"' :: rest) () rest := by
  induction pieces with
  | nil =>
    intro fuel _ enough rest offset
    obtain ⟨fuel, rfl⟩ := Nat.exists_eq_add_of_lt enough
    exact ⟨offset + '"'.utf8Size, by simp [skipChars, Cursor.past]⟩
  | cons piece pieces ih =>
    intro fuel valid enough rest offset
    obtain ⟨first, others⟩ := allValid_cons.mp valid
    obtain _ | fuel := fuel
    · exact (Nat.not_lt_zero _ enough).elim
    have inside := ih others (Nat.lt_of_succ_lt_succ enough) rest
    rw [List.flatMap_cons, List.append_assoc]
    cases piece with
    | plain char =>
      obtain ⟨notQuote, notBackslash, large⟩ := first
      obtain ⟨after, more⟩ := inside (offset + char.utf8Size)
      refine ⟨after, ?_⟩
      simp [skipChars, Piece.text, Cursor.past, notBackslash, Nat.not_lt.mpr large, more]
    | short letter =>
      obtain ⟨char, meant⟩ := Option.isSome_iff_exists.mp first
      have escape : Takes readEscape (letter :: (pieces.flatMap Piece.text ++ '"' :: rest)) char
          (pieces.flatMap Piece.text ++ '"' :: rest) :=
        (StandsFor.short meant).takes_readEscape rfl
      obtain ⟨middle, escape⟩ := escape (offset + '\\'.utf8Size)
      obtain ⟨after, more⟩ := inside middle
      refine ⟨after, ?_⟩
      simp [skipChars, Piece.text, Cursor.past, ne_of_shortEscape meant, escape, more, bind,
        Except.bind]
    | numeric a b c d =>
      obtain ⟨unit, units⟩ := Option.isSome_iff_exists.mp first
      obtain ⟨middle, hex⟩ := takes_readHex units (pieces.flatMap Piece.text ++ '"' :: rest) (offset + 2)
      obtain ⟨after, more⟩ := inside middle
      exact ⟨after, by simp [skipChars, Piece.text, Cursor.skip, hex, more, bind, Except.bind]⟩

/-- What is skipped behind an opening quote is a string, whatever its escapes stand for. -/
theorem skipString_sound {cursor after : Cursor} (skipped : skipString cursor = .ok ((), after)) :
    ∃ pieces, AllValid pieces ∧ '"' :: cursor.rest = quotedText pieces ++ after.rest := by
  obtain ⟨pieces, valid, spelled⟩ := skipChars_sound skipped
  exact ⟨pieces, valid, by simp [quotedText, spelled]⟩

theorem takes_skipString {pieces : List Piece} (valid : AllValid pieces) (rest : List Char) :
    Takes skipString (pieces.flatMap Piece.text ++ '"' :: rest) () rest := by
  intro offset
  have enough : pieces.length < (pieces.flatMap Piece.text ++ '"' :: rest).length + 1 := by
    have bound := length_le_text pieces
    rw [List.length_append]
    omega
  exact takes_skipChars valid enough rest offset

end FixtureHarness.Json
