import FixtureHarness.Proofs.Json.Values

/-! # Skipping documents

A value that is skipped is checked against the grammar and nothing else: halves of surrogate pairs,
numbers of any size and any nesting pass. The containers that are open are kept in a list, and the
text that is left has to close each of them.
-/

namespace FixtureHarness.Json

/-! ## Numbers -/

theorem exists_digits_of_atDigit {cursor : Cursor} (digit : atDigit cursor = true) :
    ∃ digits, IsDigits digits ∧ cursor.rest = digits ++ (skipDigits cursor).rest := by
  obtain ⟨written, offset⟩ := cursor
  obtain ⟨digits, rest, rfl, all, stop⟩ := exists_digits written
  rw [skipDigits_append all stop]
  exact ⟨digits, ⟨(atDigit_append all stop offset).mp digit, all⟩, rfl⟩

theorem skipExponent_sound {cursor after : Cursor} {letter : Char}
    (isLetter : letter = 'e' ∨ letter = 'E') (skipped : skipExponent cursor = .ok ((), after)) :
    ∃ exponent : Exponent, exponent.Valid ∧ letter :: cursor.rest = exponent.text ++ after.rest := by
  have joined (sign? : Option Char) {behind : Cursor}
      (sign : ∀ sign ∈ sign?, sign = '+' ∨ sign = '-')
      (spelled : cursor.rest = sign?.toList ++ behind.rest)
      (skipped : (if atDigit behind then .ok ((), skipDigits behind)
        else behind.failNext .invalidNumber) = Except.ok ((), after)) :
      ∃ exponent : Exponent, exponent.Valid ∧
        letter :: cursor.rest = exponent.text ++ after.rest := by
    split at skipped
    · next digit =>
      cases skipped
      obtain ⟨digits, all, spelledDigits⟩ := exists_digits_of_atDigit digit
      refine ⟨⟨letter, sign?, digits⟩, ⟨isLetter, sign, all⟩, ?_⟩
      rw [spelled, spelledDigits]
      simp [Exponent.text]
    · cases skipped
  unfold skipExponent at skipped
  dsimp only at skipped
  split at skipped
  · next found => exact joined (some '+') (by simp) (by simp [found]) skipped
  · next found => exact joined (some '-') (by simp) (by simp [found]) skipped
  · exact joined none (by simp) rfl skipped

theorem takes_skipExponent {exponent : Exponent} (valid : exponent.Valid) {rest : List Char}
    (stop : NoDigit rest) :
    Takes skipExponent (exponent.sign?.toList ++ (exponent.digits ++ rest)) () rest := by
  intro offset
  obtain ⟨letter, sign?, digits⟩ := exponent
  have all : IsDigits digits := valid.digits
  have digits (offset : Nat) : ∃ after, (if atDigit ⟨digits ++ rest, offset⟩ then
      .ok ((), skipDigits ⟨digits ++ rest, offset⟩)
      else Cursor.failNext ⟨digits ++ rest, offset⟩ .invalidNumber) =
        Except.ok ((), ⟨rest, after⟩) := by
    rw [if_pos ((atDigit_append all.2 stop offset).mpr all.1), skipDigits_append all.2 stop]
    exact ⟨_, rfl⟩
  cases sign? with
  | none =>
    obtain ⟨after, taken⟩ := digits offset
    refine ⟨after, ?_⟩
    obtain ⟨first, others, rfl, digit⟩ := all.exists_cons
    unfold skipExponent
    split
    · next found =>
      cases found
      exact absurd digit (by decide)
    · next found =>
      cases found
      exact absurd digit (by decide)
    · exact taken
  | some char =>
    rcases valid.sign char rfl with rfl | rfl
    · exact digits (offset + 1)
    · exact digits (offset + 1)

/-- Skips an exponent if one follows. -/
def skipOptionalExponent : Reader Unit := fun cursor =>
  match cursor.rest with
  | 'e' :: _ | 'E' :: _ => skipExponent (cursor.skip 1)
  | _ => .ok ((), cursor)

theorem skipOptionalExponent_sound {cursor after : Cursor}
    (skipped : skipOptionalExponent cursor = .ok ((), after)) :
    ∃ exponent?, ValidExponent exponent? ∧
      cursor.rest = Literal.exponentText exponent? ++ after.rest := by
  have present {letter : Char} {rest : List Char} (isLetter : letter = 'e' ∨ letter = 'E')
      (found : cursor.rest = letter :: rest)
      (skipped : skipExponent (cursor.skip 1) = .ok ((), after)) :
      ∃ exponent?, ValidExponent exponent? ∧
        cursor.rest = Literal.exponentText exponent? ++ after.rest := by
    obtain ⟨exponent, valid, spelled⟩ := skipExponent_sound isLetter skipped
    refine ⟨some exponent, by simpa [ValidExponent] using valid, ?_⟩
    simpa [found, Literal.exponentText] using spelled
  rw [skipOptionalExponent] at skipped
  split at skipped
  · next found => exact present (.inl rfl) found skipped
  · next found => exact present (.inr rfl) found skipped
  · cases skipped
    exact ⟨none, by simp [ValidExponent], rfl⟩

theorem takes_skipOptionalExponent {exponent? : Option Exponent} (valid : ValidExponent exponent?)
    {rest : List Char} (ends : EndsNumber rest) :
    Takes skipOptionalExponent (Literal.exponentText exponent? ++ rest) () rest := by
  intro offset
  cases exponent? with
  | some exponent =>
    have wellFormed := valid exponent rfl
    obtain ⟨after, taken⟩ := takes_skipExponent wellFormed ends.noDigit (offset + 1)
    refine ⟨after, ?_⟩
    rw [← taken]
    rcases wellFormed.letter with isLetter | isLetter
    · simp [skipOptionalExponent, Literal.exponentText, Exponent.text, isLetter, Cursor.skip]
    · simp [skipOptionalExponent, Literal.exponentText, Exponent.text, isLetter, Cursor.skip]
  | none =>
    refine ⟨offset, ?_⟩
    rw [skipOptionalExponent]
    split
    · next found =>
      obtain rfl : rest = 'e' :: _ := found
      simpa using (ends 'e' rfl).2
    · next found =>
      obtain rfl : rest = 'E' :: _ := found
      simpa using (ends 'E' rfl).2
    · rfl

/-- Skips what may follow the digits before the point. -/
def skipTail : Reader Unit := fun cursor =>
  match cursor.rest with
  | '.' :: _ =>
    if atDigit (cursor.skip 1) then skipOptionalExponent (skipDigits (cursor.skip 1))
    else (cursor.skip 1).failNext .invalidNumber
  | _ => skipOptionalExponent cursor

theorem skipTail_sound {cursor after : Cursor} (skipped : skipTail cursor = .ok ((), after)) :
    ∃ fraction? exponent?, (∀ digits ∈ fraction?, IsDigits digits) ∧ ValidExponent exponent? ∧
      cursor.rest = Literal.fractionText fraction? ++
        (Literal.exponentText exponent? ++ after.rest) := by
  rw [skipTail] at skipped
  split at skipped
  · next rest found =>
    split at skipped
    · next digit =>
      obtain ⟨digits, all, spelledDigits⟩ := exists_digits_of_atDigit digit
      obtain ⟨exponent?, valid, spelled⟩ := skipOptionalExponent_sound skipped
      refine ⟨some digits, exponent?, by simpa using all, valid, ?_⟩
      rw [Cursor.skip_rest, found] at spelledDigits
      simpa [found, Literal.fractionText, ← spelled] using spelledDigits
    · cases skipped
  · obtain ⟨exponent?, valid, spelled⟩ := skipOptionalExponent_sound skipped
    exact ⟨none, exponent?, by simp, valid, spelled⟩

theorem takes_skipTail {fraction? : Option (List Char)} {exponent? : Option Exponent}
    (digits : ∀ digits ∈ fraction?, IsDigits digits) (valid : ValidExponent exponent?)
    {rest : List Char} (ends : EndsNumber rest) :
    Takes skipTail
      (Literal.fractionText fraction? ++ (Literal.exponentText exponent? ++ rest)) () rest := by
  intro offset
  cases fraction? with
  | some written =>
    have all := digits written rfl
    have stop := noDigit_exponentText valid ends
    obtain ⟨after, taken⟩ := takes_skipOptionalExponent valid ends (offset + 1 + written.length)
    refine ⟨after, ?_⟩
    have step : skipTail ⟨'.' :: (written ++ (Literal.exponentText exponent? ++ rest)), offset⟩ =
        if atDigit ⟨written ++ (Literal.exponentText exponent? ++ rest), offset + 1⟩ then
          skipOptionalExponent
            (skipDigits ⟨written ++ (Literal.exponentText exponent? ++ rest), offset + 1⟩)
        else Cursor.failNext ⟨written ++ (Literal.exponentText exponent? ++ rest), offset + 1⟩
          .invalidNumber := rfl
    rw [if_pos ((atDigit_append all.2 stop _).mpr all.1), skipDigits_append all.2 stop] at step
    exact step.trans taken
  | none =>
    obtain ⟨after, taken⟩ := takes_skipOptionalExponent valid ends offset
    refine ⟨after, ?_⟩
    have noPoint := exponentText_ne_point valid ends
    rw [← taken]
    simp [skipTail, Literal.fractionText]

theorem skipNumber_eq (cursor : Cursor) :
    skipNumber cursor =
      match cursor.rest with
      | '0' :: _ =>
        if atDigit (cursor.skip 1) then (cursor.skip 1).failNext .invalidNumber
        else skipTail (cursor.skip 1)
      | _ =>
        if atDigit cursor then skipTail (skipDigits cursor)
        else cursor.failNext .invalidNumber := rfl

/-- What is skipped as a number behind its sign is one with the sign. -/
theorem skipNumber_sound {cursor after : Cursor} (skipped : skipNumber cursor = .ok ((), after))
    (negative : Bool) : ∃ literal : Literal, literal.Valid ∧ literal.negative = negative ∧
      literal.signText ++ cursor.rest = literal.text ++ after.rest := by
  have joined {digits : List Char} {behind : Cursor} (all : IsDigits digits)
      (noZero : digits.head? = some '0' → digits = ['0'])
      (spelled : cursor.rest = digits ++ behind.rest) (skipped : skipTail behind = .ok ((), after)) :
      ∃ literal : Literal, literal.Valid ∧ literal.negative = negative ∧
        literal.signText ++ cursor.rest = literal.text ++ after.rest := by
    obtain ⟨fraction?, exponent?, inFraction, inExponent, spelledTail⟩ := skipTail_sound skipped
    refine ⟨⟨negative, digits, fraction?, exponent?⟩, ⟨all, noZero, inFraction, inExponent⟩, rfl, ?_⟩
    simp [Literal.text, spelled, spelledTail]
  rw [skipNumber_eq] at skipped
  split at skipped
  · next rest found =>
    split at skipped
    · cases skipped
    · have zero : IsDigits ['0'] := ⟨by simp, by simp [AllDigits]; decide⟩
      exact joined zero (fun _ => rfl) (by simp [found]) skipped
  · next notZero =>
    split at skipped
    · next digit =>
      obtain ⟨digits, all, spelled⟩ := exists_digits_of_atDigit digit
      refine joined all ?_ spelled skipped
      intro zero
      obtain ⟨more, rfl⟩ := List.head?_eq_some_iff.mp zero
      exact (notZero _ spelled).elim
    · cases skipped

theorem takes_skipNumber {literal : Literal} (valid : literal.Valid) {rest : List Char}
    (ends : EndsNumber rest) :
    Takes skipNumber (literal.whole ++ (Literal.fractionText literal.fraction? ++
      (Literal.exponentText literal.exponent? ++ rest))) () rest := by
  intro offset
  have stop := noDigit_fractionText literal.fraction? valid.exponent ends
  have more := takes_skipTail valid.fraction valid.exponent ends
  generalize Literal.fractionText literal.fraction? ++
    (Literal.exponentText literal.exponent? ++ rest) = behind at stop more ⊢
  rw [skipNumber_eq]
  by_cases zero : literal.whole.head? = some '0'
  · rw [valid.noZero zero]
    have alone : ¬ atDigit ⟨behind, offset + 1⟩ := by
      have none : AllDigits [] := by simp [AllDigits]
      simpa using atDigit_append none stop (offset + 1)
    simpa [Cursor.skip, alone] using more (offset + 1)
  · have digit := (atDigit_append valid.whole.2 stop offset).mpr valid.whole.1
    split
    · next found =>
      obtain ⟨first, others, whole, -⟩ := valid.whole.exists_cons
      rw [whole] at zero found
      cases found
      exact (zero rfl).elim
    · rw [if_pos digit, skipDigits_append valid.whole.2 stop]
      exact more _

/-! ## Values -/

/-- The bracket that begins a container. -/
def Frame.opening : Frame → Char
  | .list => '['
  | .object => '\x7b'

/-- The bracket that ends a container. -/
def Frame.closing : Frame → Char
  | .list => ']'
  | .object => '\x7d'

/-- What stands before the rest of a text where a value is skipped: a value that is no container, or
the bracket that begins one. -/
def BeforeSkipped (written rest : List Char) : Option Frame → Prop
  | none => ∃ source body, Source.WrittenAs source body ∧ written = body ++ rest
  | some frame => written = frame.opening :: rest

theorem skipScalar_sound {cursor after : Cursor} {opened : Option Frame}
    (skipped : skipScalar cursor = .ok (opened, after)) :
    ∃ blank written, IsBlank blank ∧ cursor.rest = blank ++ written ∧
      BeforeSkipped written after.rest opened := by
  obtain ⟨blank, blankText, spelled, -⟩ := cursor.exists_blank
  refine ⟨blank, cursor.skipSpace.rest, blankText, spelled, ?_⟩
  have plain {result : Except ReadError (Unit × Cursor)}
      (skipped : result.map (fun done => (none, done.2)) = .ok (opened, after)) :
      opened = none ∧ result = .ok ((), after) := by
    cases result with
    | error _ => cases skipped
    | ok done =>
      cases skipped
      exact ⟨rfl, rfl⟩
  have word (source : Source) {char : Char} {more letters : List Char}
      (written : source.WrittenAs (char :: letters)) (found : cursor.skipSpace.rest = char :: more)
      (skipped : (readWord letters (cursor.skipSpace.skip 1)).map (fun done => (none, done.2)) =
        .ok (opened, after)) : BeforeSkipped cursor.skipSpace.rest after.rest opened := by
    obtain ⟨rfl, read⟩ := plain skipped
    have spelled := readWord_sound read
    rw [Cursor.skip_rest, found] at spelled
    exact ⟨source, _, written, found.trans (congrArg (char :: ·) spelled)⟩
  rw [skipScalar] at skipped
  dsimp only at skipped
  split at skipped
  · cases skipped
  next char more found =>
  split at skipped
  · exact word .null rfl found skipped
  · exact word (.boolean true) rfl found skipped
  · exact word (.boolean false) rfl found skipped
  · obtain ⟨rfl, inside⟩ := plain skipped
    obtain ⟨pieces, valid, spelledString⟩ := skipString_sound inside
    rw [Cursor.skip_rest, found] at spelledString
    exact ⟨.text pieces, _, ⟨valid, rfl⟩, found.trans spelledString⟩
  · obtain ⟨rfl, inside⟩ := plain skipped
    obtain ⟨literal, valid, negative, spelledNumber⟩ := skipNumber_sound inside true
    rw [Cursor.skip_rest, found, Literal.signText, negative] at spelledNumber
    exact ⟨.number literal, _, ⟨valid, rfl⟩, found.trans spelledNumber⟩
  · cases skipped
    exact found.trans (by rw [Cursor.skip_rest, found]; rfl)
  · cases skipped
    exact found.trans (by rw [Cursor.skip_rest, found]; rfl)
  · split at skipped
    · obtain ⟨rfl, inside⟩ := plain skipped
      obtain ⟨literal, valid, negative, spelledNumber⟩ := skipNumber_sound inside false
      rw [Literal.signText, negative] at spelledNumber
      exact ⟨.number literal, _, ⟨valid, rfl⟩, spelledNumber⟩
    · cases skipped

theorem takes_skipScalar {source : Source} {body blank rest : List Char} (blankText : IsBlank blank)
    (written : source.WrittenAs body) (scalar : source.depth = 0) (delimited : Delimited rest) :
    Takes skipScalar (blank ++ (body ++ rest)) none rest := by
  intro offset
  have plain {skip : Reader Unit} {written : List Char} (taken : Takes skip written () rest)
      (offset : Nat) : ∃ after, (skip ⟨written, offset⟩).map
        (fun done => ((none : Option Frame), done.2)) = .ok (none, ⟨rest, after⟩) := by
    obtain ⟨after, taken⟩ := taken offset
    exact ⟨after, by rw [taken]; rfl⟩
  rw [skipScalar, Cursor.skipSpace_append blankText (written.noSpace rest)]
  cases source with
  | null =>
    cases written
    exact plain (takes_readWord _ rest) (offset + blank.length + 1)
  | boolean truth =>
    cases written
    cases truth with
    | true => exact plain (takes_readWord _ rest) (offset + blank.length + 1)
    | false => exact plain (takes_readWord _ rest) (offset + blank.length + 1)
  | number literal =>
    obtain ⟨valid, rfl⟩ := written
    have taken := takes_skipNumber valid delimited.endsNumber
    obtain ⟨negative, whole, fraction?, exponent?⟩ := literal
    simp only [Literal.text, List.append_assoc, Literal.signText]
    cases negative with
    | true => exact plain taken (offset + blank.length + 1)
    | false =>
      obtain ⟨first, others, rfl, digit⟩ := IsDigits.exists_cons valid.whole
      obtain ⟨after, taken⟩ := plain taken (offset + blank.length)
      refine ⟨after, ?_⟩
      simp only [Bool.false_eq_true, if_false, List.nil_append, List.cons_append]
      -- The characters that begin other values are no digits.
      split
      iterate 7 exact absurd digit (by decide)
      rw [isDigit] at digit
      rw [if_pos digit]
      exact taken
  | text pieces =>
    obtain ⟨valid, rfl⟩ := written
    rw [quotedText_append]
    exact plain (takes_skipString valid rest) (offset + blank.length + 1)
  | array items => cases scalar
  | object members => cases scalar

theorem takes_skipScalar_opening {blank : List Char} (blankText : IsBlank blank) (frame : Frame)
    (rest : List Char) :
    Takes skipScalar (blank ++ frame.opening :: rest) (some frame) rest := by
  intro offset
  have bracket : NoSpace (frame.opening :: rest) := by
    cases frame <;> exact noSpace_cons.mpr (by decide)
  rw [skipScalar, Cursor.skipSpace_append blankText bracket]
  cases frame <;> exact ⟨_, rfl⟩

/-! ## Open containers -/

/-- The texts from an entry of a container to its end. -/
def Frame.WrittenAs (first : Bool) : Frame → List Char → Prop
  | .list, written => ∃ items, ItemsWrittenAs first items written
  | .object, written => ∃ members, MembersWrittenAs first members written

/-- What stands between the gap before an entry and its value: nothing, or a key. -/
def Frame.Label : Frame → List Char → Prop
  | .list, written => written = []
  | .object, written => ∃ key colon, AllValid key ∧ IsColon colon ∧ written = quotedText key ++ colon

/-- No entry begins with white space or with what ends its container. -/
theorem Frame.Label.exists_cons {frame : Frame} {label body : List Char} {source : Source}
    (labelled : frame.Label label) (written : source.WrittenAs body) :
    ∃ first rest, label ++ body = first :: rest ∧ Cursor.isSpace first = false ∧
      first ≠ frame.closing := by
  cases frame with
  | list =>
    obtain rfl : label = [] := labelled
    obtain ⟨first, rest, rfl, notSpace, notEnd⟩ := written.exists_cons
    exact ⟨first, rest, rfl, notSpace, List.ne_of_not_mem_cons notEnd⟩
  | object =>
    obtain ⟨key, colon, -, -, rfl⟩ := labelled
    exact ⟨'"', _, rfl, by decide⟩

theorem Frame.writtenAs_end (first : Bool) (frame : Frame) {blank : List Char}
    (blankText : IsBlank blank) : frame.WrittenAs first (blank ++ [frame.closing]) := by
  cases frame with
  | list => exact ⟨[], blank, blankText, rfl⟩
  | object => exact ⟨[], blank, blankText, rfl⟩

theorem Frame.writtenAs_entry {first : Bool} {frame : Frame} {gap label body tail : List Char}
    {source : Source} (between : Gap first gap) (labelled : frame.Label label)
    (written : source.WrittenAs body) (more : frame.WrittenAs false tail) :
    frame.WrittenAs first (gap ++ (label ++ (body ++ tail))) := by
  cases frame with
  | list =>
    obtain ⟨items, writtenTail⟩ := more
    obtain rfl : label = [] := labelled
    exact ⟨source :: items, gap, body, tail, between, written, writtenTail, rfl⟩
  | object =>
    obtain ⟨members, writtenTail⟩ := more
    obtain ⟨key, colon, valid, isColon, rfl⟩ := labelled
    refine ⟨(key, source) :: members, gap, colon, body, tail, between, valid, isColon, written,
      writtenTail, ?_⟩
    rw [List.append_assoc]

/-- The text of an open container is its end, or one entry and the text behind it. -/
theorem Frame.WrittenAs.cases {first : Bool} {frame : Frame} {written : List Char}
    (open_ : frame.WrittenAs first written) :
    (∃ blank, IsBlank blank ∧ written = blank ++ [frame.closing]) ∨
      ∃ gap label source body tail, Gap first gap ∧ frame.Label label ∧
        Source.WrittenAs source body ∧ frame.WrittenAs false tail ∧
        written = gap ++ (label ++ (body ++ tail)) := by
  cases frame with
  | list =>
    obtain ⟨items, writtenItems⟩ := open_
    cases items with
    | nil => exact .inl writtenItems
    | cons item rest =>
      obtain ⟨gap, body, tail, between, writtenItem, writtenTail, rfl⟩ := writtenItems
      exact .inr ⟨gap, [], item, body, tail, between, rfl, writtenItem, ⟨rest, writtenTail⟩, rfl⟩
  | object =>
    obtain ⟨members, writtenMembers⟩ := open_
    cases members with
    | nil => exact .inl writtenMembers
    | cons member rest =>
      obtain ⟨gap, colon, body, tail, between, valid, isColon, writtenValue, writtenTail, rfl⟩ :=
        writtenMembers
      refine .inr ⟨gap, quotedText member.1 ++ colon, member.2, body, tail, between,
        ⟨member.1, colon, valid, isColon, rfl⟩, writtenValue, ⟨rest, writtenTail⟩, ?_⟩
      rw [List.append_assoc]

theorem Frame.WrittenAs.delimited {frame : Frame} {written : List Char}
    (open_ : frame.WrittenAs false written) (rest : List Char) : Delimited (written ++ rest) := by
  cases frame with
  | list =>
    obtain ⟨items, writtenItems⟩ := open_
    exact writtenItems.delimited rest
  | object =>
    obtain ⟨members, writtenMembers⟩ := open_
    exact writtenMembers.delimited rest

/-- A container that has been closed is a value. -/
theorem Frame.WrittenAs.exists_source {frame : Frame} {written : List Char}
    (open_ : frame.WrittenAs true written) :
    ∃ source : Source, source.WrittenAs (frame.opening :: written) := by
  cases frame with
  | list =>
    obtain ⟨items, writtenItems⟩ := open_
    exact ⟨.array items, written, writtenItems, rfl⟩
  | object =>
    obtain ⟨members, writtenMembers⟩ := open_
    exact ⟨.object members, written, writtenMembers, rfl⟩

/-- A value is a closed container, unless it is none. -/
theorem Source.WrittenAs.exists_frame {source : Source} {body : List Char}
    (written : source.WrittenAs body) (container : source.depth ≠ 0) :
    ∃ frame inside, Frame.WrittenAs true frame inside ∧ body = frame.opening :: inside := by
  cases source with
  | array items =>
    obtain ⟨inside, writtenItems, rfl⟩ := written
    exact ⟨.list, inside, ⟨items, writtenItems⟩, rfl⟩
  | object members =>
    obtain ⟨inside, writtenMembers, rfl⟩ := written
    exact ⟨.object, inside, ⟨members, writtenMembers⟩, rfl⟩
  | _ => exact (container rfl).elim

/-- The texts that close all of some containers, the innermost first. -/
def ClosesAll : List Frame → Bool → List Char → Prop
  | [], _, written => written = []
  | frame :: outer, first, written => ∃ body tail, frame.WrittenAs first body ∧
      ClosesAll outer false tail ∧ written = body ++ tail

/-! ## Skipping open containers -/

/-- Skips the key of an entry, if the container has keys. -/
def skipLabel (frame : Frame) : Reader Unit := fun cursor =>
  if frame = .object then skipKey cursor else .ok ((), cursor)

theorem skipKey_sound {cursor after : Cursor} (skipped : skipKey cursor = .ok ((), after)) :
    ∃ blank key before, IsBlank blank ∧ AllValid key ∧ IsBlank before ∧
      cursor.rest = blank ++ (quotedText key ++ (before ++ ':' :: after.rest)) := by
  obtain ⟨blank, blankText, spelled, -⟩ := cursor.exists_blank
  rw [skipKey] at skipped
  split at skipped
  · cases skipped
  · next more found =>
    simp only [bind_eq_ok_iff, Prod.exists] at skipped
    obtain ⟨_, behind, inside, colon⟩ := skipped
    obtain ⟨key, valid, spelledKey⟩ := skipString_sound inside
    obtain ⟨before, beforeText, spelledColon⟩ := readColon_sound colon
    rw [Cursor.skip_rest, found] at spelledKey
    refine ⟨blank, key, before, blankText, valid, beforeText, ?_⟩
    rw [spelled, found, ← spelledColon]
    exact congrArg (blank ++ ·) spelledKey
  · cases skipped

theorem takes_skipKey {blank before : List Char} {key : List Piece} (blankText : IsBlank blank)
    (valid : AllValid key) (beforeText : IsBlank before) (rest : List Char) :
    Takes skipKey (blank ++ (quotedText key ++ (before ++ ':' :: rest))) () rest := by
  intro offset
  have quote : NoSpace ('"' :: (key.flatMap Piece.text ++ '"' :: (before ++ ':' :: rest))) :=
    noSpace_cons.mpr (by decide)
  obtain ⟨middle, inside⟩ := takes_skipString valid (before ++ ':' :: rest)
    (offset + blank.length + 1)
  obtain ⟨after, colon⟩ := takes_readColon beforeText rest middle
  refine ⟨after, ?_⟩
  rw [quotedText_append, skipKey, Cursor.skipSpace_append blankText quote]
  simp only [Cursor.skip_one_cons, inside, colon, bind, Except.bind]

/-- The white space that a value has in front belongs to what stands before the value. -/
theorem skipLabel_sound {frame : Frame} {cursor after : Cursor}
    (skipped : skipLabel frame cursor = .ok ((), after)) {space : List Char}
    (spaceText : IsBlank space) {written : List Char} (spelled : after.rest = space ++ written) :
    ∃ blank label, IsBlank blank ∧ frame.Label label ∧ cursor.rest = blank ++ (label ++ written) := by
  cases frame with
  | list =>
    cases skipped
    exact ⟨space, [], spaceText, rfl, spelled⟩
  | object =>
    obtain ⟨blank, key, before, blankText, valid, beforeText, spelledKey⟩ := skipKey_sound skipped
    refine ⟨blank, quotedText key ++ (before ++ ':' :: space), blankText,
      ⟨key, _, valid, ⟨before, space, beforeText, spaceText, rfl⟩, rfl⟩, ?_⟩
    rw [spelledKey, spelled]
    simp only [List.append_assoc, List.cons_append]

theorem takes_skipLabel {frame : Frame} {blank label : List Char} (blankText : IsBlank blank)
    (labelled : frame.Label label) (rest : List Char) :
    ∃ space, IsBlank space ∧ Takes (skipLabel frame) (blank ++ (label ++ rest)) () (space ++ rest) := by
  cases frame with
  | list =>
    obtain rfl : label = [] := labelled
    exact ⟨blank, blankText, fun offset => ⟨offset, rfl⟩⟩
  | object =>
    obtain ⟨key, colon, valid, ⟨before, space, beforeText, spaceText, rfl⟩, rfl⟩ := labelled
    refine ⟨space, spaceText, ?_⟩
    simp only [List.append_assoc, List.cons_append]
    exact takes_skipKey blankText valid beforeText (space ++ rest)

/-- Skips one entry of an open container, and then what closes the containers. -/
def skipEntry (fuel : Nat) (frame : Frame) (outer : List Frame) : Reader Unit := fun cursor => do
  let ((), cursor) ← skipLabel frame cursor
  let (opened, cursor) ← skipScalar cursor
  match opened with
  | some inner => skipOpen fuel (inner :: frame :: outer) true cursor
  | none => skipOpen fuel (frame :: outer) false cursor

section
variable (fuel : Nat) (frame : Frame) (outer : List Frame) {blank : List Char}
  (blankText : IsBlank blank) (rest : List Char) (offset : Nat)
include blankText

theorem skipOpen_closing (fresh : Bool) :
    skipOpen (fuel + 1) (frame :: outer) fresh ⟨blank ++ frame.closing :: rest, offset⟩ =
      skipOpen fuel outer false ⟨rest, offset + blank.length + 1⟩ := by
  have bracket : NoSpace (frame.closing :: rest) := by
    cases frame <;> exact noSpace_cons.mpr (by decide)
  rw [skipOpen.eq_def]
  dsimp only
  rw [Cursor.skipSpace_append blankText bracket]
  cases frame <;> rfl

theorem skipOpen_opening {char : Char} (notSpace : Cursor.isSpace char = false)
    (notClosing : char ≠ frame.closing) :
    skipOpen (fuel + 1) (frame :: outer) true ⟨blank ++ char :: rest, offset⟩ =
      skipEntry fuel frame outer ⟨char :: rest, offset + blank.length⟩ := by
  rw [skipOpen.eq_def]
  dsimp only
  rw [Cursor.skipSpace_append blankText (noSpace_cons.mpr notSpace)]
  split
  · next empty => cases empty
  · next empty => cases empty
  · next found =>
    cases found
    exact (notClosing rfl).elim
  · next found =>
    cases found
    exact (notClosing rfl).elim
  · rename_i frame _ _ _ _ found _ _
    cases found
    cases frame <;> rfl

theorem skipOpen_comma :
    skipOpen (fuel + 1) (frame :: outer) false ⟨blank ++ ',' :: rest, offset⟩ =
      skipEntry fuel frame outer ⟨rest, offset + blank.length + 1⟩ := by
  have comma : NoSpace (',' :: rest) := noSpace_cons.mpr (by decide)
  rw [skipOpen.eq_def]
  dsimp only
  rw [Cursor.skipSpace_append blankText comma]
  cases frame <;> rfl

theorem skipOpen_ne_ok (begins : NoSpace rest)
    (stuck : ∀ char ∈ rest.head?, char ≠ frame.closing ∧ char ≠ ',') {skipped : Unit × Cursor} :
    skipOpen (fuel + 1) (frame :: outer) false ⟨blank ++ rest, offset⟩ ≠ .ok skipped := by
  intro same
  rw [skipOpen.eq_def] at same
  dsimp only at same
  rw [Cursor.skipSpace_append blankText begins] at same
  split at same
  · cases same
  · cases same
  · next found =>
    obtain rfl : rest = ']' :: _ := found
    exact (stuck ']' rfl).1 rfl
  · next found =>
    obtain rfl : rest = '\x7d' :: _ := found
    exact (stuck '\x7d' rfl).1 rfl
  · rename_i char more found _ _
    obtain rfl : rest = char :: more := found
    rw [if_neg Bool.false_ne_true, if_neg (stuck char rfl).2] at same
    cases same

end

/-- What is skipped as an entry is one, and what is skipped behind it closes the containers. -/
theorem skipEntry_sound {fuel : Nat}
    (sound : ∀ {frames : List Frame} {fresh : Bool} {cursor after : Cursor},
      skipOpen fuel frames fresh cursor = .ok ((), after) →
        ∃ written, ClosesAll frames fresh written ∧ cursor.rest = written ++ after.rest)
    {frame : Frame} {outer : List Frame} {cursor after : Cursor}
    (skipped : skipEntry fuel frame outer cursor = .ok ((), after)) :
    ∃ blank label source body tail outside, IsBlank blank ∧ frame.Label label ∧
      Source.WrittenAs source body ∧ frame.WrittenAs false tail ∧ ClosesAll outer false outside ∧
      cursor.rest = blank ++ (label ++ (body ++ (tail ++ (outside ++ after.rest)))) := by
  simp only [skipEntry, bind_eq_ok_iff, Prod.exists] at skipped
  obtain ⟨_, behindLabel, labelSkipped, opened, behindScalar, scalarSkipped, skipped⟩ := skipped
  obtain ⟨space, inside, spaceText, spelledScalar, before⟩ := skipScalar_sound scalarSkipped
  obtain ⟨blank, label, blankText, labelled, spelledLabel⟩ :=
    skipLabel_sound labelSkipped spaceText spelledScalar
  cases opened with
  | none =>
    obtain ⟨source, body, written, rfl⟩ := before
    obtain ⟨_, ⟨tail, outside, open_, closes, rfl⟩, spelledTail⟩ := sound skipped
    refine ⟨blank, label, source, body, tail, outside, blankText, labelled, written, open_, closes, ?_⟩
    rw [spelledLabel, spelledTail, List.append_assoc tail]
  | some inner =>
    obtain rfl : inside = inner.opening :: behindScalar.rest := before
    obtain ⟨_, ⟨body, _, openInner, ⟨tail, outside, open_, closes, rfl⟩, rfl⟩, spelledTail⟩ :=
      sound skipped
    obtain ⟨source, written⟩ := openInner.exists_source
    refine ⟨blank, label, source, inner.opening :: body, tail, outside, blankText, labelled, written,
      open_, closes, ?_⟩
    rw [spelledLabel, spelledTail]
    simp only [List.append_assoc, List.cons_append]

/-- What is skipped from inside of some open containers closes them all. -/
theorem skipOpen_sound {fuel : Nat} : ∀ {frames : List Frame} {fresh : Bool} {cursor after : Cursor},
    skipOpen fuel frames fresh cursor = .ok ((), after) →
      ∃ written, ClosesAll frames fresh written ∧ cursor.rest = written ++ after.rest := by
  induction fuel with
  | zero =>
    intro frames fresh cursor after skipped
    cases skipped
  | succ fuel ih =>
    intro frames fresh cursor after skipped
    cases frames with
    | nil =>
      cases skipped
      exact ⟨[], rfl, rfl⟩
    | cons frame outer =>
      obtain ⟨written, offset⟩ := cursor
      obtain ⟨blank, blankText, spelled, begins⟩ := Cursor.exists_blank ⟨written, offset⟩
      generalize Cursor.skipSpace ⟨written, offset⟩ = behind at spelled begins
      obtain ⟨rest, offset'⟩ := behind
      obtain rfl : written = blank ++ rest := spelled
      have entry {gap : List Char} (between : Gap fresh gap) {behind : Cursor}
          (spelled : blank ++ rest = gap ++ behind.rest)
          (skipped : skipEntry fuel frame outer behind = .ok ((), after)) :
          ∃ written, ClosesAll (frame :: outer) fresh written ∧
            blank ++ rest = written ++ after.rest := by
        obtain ⟨space, label, source, body, tail, outside, spaceText, labelled, written, open_, closes,
          spelledEntry⟩ := skipEntry_sound ih skipped
        refine ⟨_, ⟨_, outside, Frame.writtenAs_entry (between.append spaceText) labelled written open_,
          closes, rfl⟩, ?_⟩
        rw [spelled, spelledEntry]
        simp only [List.append_assoc]
      cases rest with
      | nil =>
        rw [skipOpen.eq_def] at skipped
        dsimp only at skipped
        rw [Cursor.skipSpace_append blankText noSpace_nil] at skipped
        cases frame <;> cases skipped
      | cons char rest =>
        by_cases closing : char = frame.closing
        · rw [closing, skipOpen_closing fuel frame outer blankText] at skipped
          obtain ⟨outside, closes, spelledOutside⟩ := ih skipped
          refine ⟨_, ⟨_, outside, frame.writtenAs_end fresh blankText, closes, rfl⟩, ?_⟩
          rw [closing]
          dsimp only at spelledOutside
          rw [spelledOutside]
          simp
        · cases fresh with
          | true =>
            rw [skipOpen_opening fuel frame outer blankText rest offset (noSpace_cons.mp begins)
              closing] at skipped
            exact entry (.opening blankText) rfl skipped
          | false =>
            by_cases comma : char = ','
            · rw [comma, skipOpen_comma fuel frame outer blankText] at skipped
              refine entry (.comma blankText isBlank_nil) ?_ skipped
              rw [comma]
              simp
            · have stuck : ∀ head ∈ (char :: rest).head?, head ≠ frame.closing ∧ head ≠ ',' := by
                rintro head ⟨⟩
                exact ⟨closing, comma⟩
              exact (skipOpen_ne_ok fuel frame outer blankText _ offset begins stuck skipped).elim

/-- An entry is skipped, and behind it a text that closes the containers. -/
theorem takes_skipEntry {fuel : Nat}
    (takes : ∀ {frames : List Frame} {fresh : Bool} {written : List Char},
      ClosesAll frames fresh written → written.length < fuel → ∀ rest,
        Takes (skipOpen fuel frames fresh) (written ++ rest) () rest)
    {frame : Frame} {outer : List Frame} {blank label body tail outside : List Char}
    {source : Source} (blankText : IsBlank blank) (labelled : frame.Label label)
    (written : source.WrittenAs body) (open_ : frame.WrittenAs false tail)
    (closes : ClosesAll outer false outside)
    (enough : body.length + (tail.length + outside.length) ≤ fuel) (rest : List Char) :
    Takes (skipEntry fuel frame outer)
      (blank ++ (label ++ (body ++ (tail ++ (outside ++ rest))))) () rest := by
  intro offset
  have closesFrame : ClosesAll (frame :: outer) false (tail ++ outside) :=
    ⟨tail, outside, open_, closes, rfl⟩
  obtain ⟨space, spaceText, labelTaken⟩ :=
    takes_skipLabel blankText labelled (body ++ (tail ++ (outside ++ rest)))
  obtain ⟨behindLabel, labelTaken⟩ := labelTaken offset
  by_cases scalar : source.depth = 0
  · have shorter : (tail ++ outside).length < fuel := by
      obtain ⟨first, others, rfl, -⟩ := written.exists_cons
      simp only [List.length_append, List.length_cons] at enough ⊢
      omega
    obtain ⟨behindValue, valueTaken⟩ :=
      takes_skipScalar spaceText written scalar (open_.delimited (outside ++ rest)) behindLabel
    obtain ⟨after, taken⟩ := takes closesFrame shorter rest behindValue
    rw [List.append_assoc] at taken
    exact ⟨after, by simp only [skipEntry, labelTaken, valueTaken, taken, bind, Except.bind]⟩
  · obtain ⟨inner, inside, openInner, rfl⟩ := written.exists_frame scalar
    have shorter : (inside ++ (tail ++ outside)).length < fuel := by
      simp only [List.length_append, List.length_cons] at enough ⊢
      omega
    obtain ⟨behindValue, valueTaken⟩ := takes_skipScalar_opening spaceText inner
      (inside ++ (tail ++ (outside ++ rest))) behindLabel
    have closesInner : ClosesAll (inner :: frame :: outer) true (inside ++ (tail ++ outside)) :=
      ⟨inside, _, openInner, closesFrame, rfl⟩
    obtain ⟨after, taken⟩ := takes closesInner shorter rest behindValue
    simp only [List.append_assoc] at taken
    rw [List.cons_append] at labelTaken
    refine ⟨after, ?_⟩
    simp only [List.cons_append, skipEntry, labelTaken, valueTaken, taken, bind, Except.bind]

/-- A text that closes some open containers is skipped. -/
theorem takes_skipOpen {fuel : Nat} : ∀ {frames : List Frame} {fresh : Bool} {written : List Char},
    ClosesAll frames fresh written → written.length < fuel → ∀ rest,
      Takes (skipOpen fuel frames fresh) (written ++ rest) () rest := by
  induction fuel with
  | zero =>
    intro frames fresh written closes enough
    exact (Nat.not_lt_zero _ enough).elim
  | succ fuel ih =>
    intro frames fresh written closes enough rest offset
    cases frames with
    | nil =>
      obtain rfl : written = [] := closes
      exact ⟨offset, rfl⟩
    | cons frame outer =>
      obtain ⟨body, outside, open_, closes, rfl⟩ := closes
      rcases open_.cases with ⟨blank, blankText, rfl⟩ |
        ⟨gap, label, source, inside, tail, between, labelled, writtenValue, more, rfl⟩
      · have shorter : outside.length < fuel := by
          simp only [List.length_append, List.length_cons] at enough
          omega
        have step := skipOpen_closing fuel frame outer blankText (outside ++ rest) offset fresh
        obtain ⟨after, taken⟩ := ih closes shorter rest (offset + blank.length + 1)
        refine ⟨after, ?_⟩
        rw [← taken, ← step]
        simp
      · have shorter : inside.length + (tail.length + outside.length) ≤ fuel := by
          simp only [List.length_append] at enough
          omega
        simp only [List.append_assoc]
        cases between with
        | opening blankText =>
          obtain ⟨first, others, spelled, notSpace, notClosing⟩ := labelled.exists_cons writtenValue
          obtain ⟨after, taken⟩ := takes_skipEntry ih isBlank_nil labelled writtenValue more closes
            shorter rest (offset + gap.length)
          refine ⟨after, ?_⟩
          rw [← taken, List.nil_append, ← List.append_assoc label, spelled, List.cons_append]
          exact skipOpen_opening fuel frame outer blankText _ offset notSpace notClosing
        | @comma before blank beforeText afterText =>
          obtain ⟨after, taken⟩ := takes_skipEntry ih afterText labelled writtenValue more closes
            shorter rest (offset + before.length + 1)
          refine ⟨after, ?_⟩
          rw [← taken, List.append_assoc, List.cons_append]
          exact skipOpen_comma fuel frame outer beforeText _ offset

/-- Any document is skipped, and nothing else. -/
theorem reads_skipValue : Reads skipValue fun _ => some () := by
  constructor
  · intro cursor after item skipped
    simp only [skipValue, bind_eq_ok_iff, Prod.exists] at skipped
    obtain ⟨opened, behind, scalarSkipped, skipped⟩ := skipped
    obtain ⟨blank, written, blankText, spelled, before⟩ := skipScalar_sound scalarSkipped
    cases opened with
    | none =>
      cases skipped
      obtain ⟨source, body, writtenValue, rfl⟩ := before
      exact ⟨blank, source, body, blankText, writtenValue, spelled, rfl⟩
    | some frame =>
      obtain rfl : written = frame.opening :: behind.rest := before
      obtain ⟨_, ⟨inside, _, open_, rfl, rfl⟩, spelledInside⟩ := skipOpen_sound skipped
      obtain ⟨source, writtenValue⟩ := open_.exists_source
      refine ⟨blank, source, frame.opening :: inside, blankText, writtenValue, ?_, rfl⟩
      rw [spelled, spelledInside, List.append_nil]
      rfl
  · intro blank body rest source item blankText written _ delimited offset
    by_cases scalar : source.depth = 0
    · obtain ⟨after, taken⟩ := takes_skipScalar blankText written scalar delimited offset
      exact ⟨after, by simp only [skipValue, taken, bind, Except.bind]⟩
    · obtain ⟨frame, inside, open_, rfl⟩ := written.exists_frame scalar
      have enough : (inside ++ []).length < 2 * (inside ++ rest).length + 2 := by
        simp only [List.length_append, List.length_nil]
        omega
      obtain ⟨behind, opened⟩ := takes_skipScalar_opening blankText frame (inside ++ rest) offset
      have closes : ClosesAll [frame] true (inside ++ []) := ⟨inside, [], open_, rfl, rfl⟩
      obtain ⟨after, taken⟩ := takes_skipOpen closes enough rest behind
      rw [List.append_nil] at taken
      refine ⟨after, ?_⟩
      simp only [List.cons_append, skipValue, opened, taken, bind, Except.bind]

end FixtureHarness.Json
