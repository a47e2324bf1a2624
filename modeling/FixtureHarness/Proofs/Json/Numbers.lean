import FixtureHarness.Proofs.Json.Reading

/-! # Reading numbers

What a written number is kept as: an integer if it is one of 64 bits, and a double otherwise. The
reader goes through the text in one pass that gathers digits while there is room for them; here the
same is said part by part of a written number.
-/

namespace FixtureHarness.Json

/-! ## What numbers are kept as -/

/-- The double that a significand and an exponent are kept as. -/
def double? (negative : Bool) (significand : Nat) (scale : Int) : Option Number :=
  (Magnitude.ofDecimal? significand scale).map fun magnitude => .double ⟨negative, magnitude⟩

/-- The double that a significand is kept as whose scale an exponent changes. An exponent that is too
large makes it zero, or no number. -/
def scaled? (negative : Bool) (significand : Nat) (scale : Int) :
    Option Exponent → Option Number
  | none => double? negative significand scale
  | some exponent =>
    match (gatherExponent exponent.digits 0 0).1 with
    | some shift =>
      double? negative significand (if exponent.isDown then scale - shift else scale + shift)
    | none =>
      if significand ≠ 0 ∧ exponent.isDown = false then none
      else some (.double ⟨negative, .zero⟩)

/-- The number that the digits before a point are kept as with what follows them. Some of these
digits may have been dropped. -/
def completed? (negative : Bool) (significand dropped : Nat) :
    Option (List Char) → Option Exponent → Option Number
  | some digits, exponent? =>
    let gathered := gather digits significand
    scaled? negative gathered.1 (dropped - gathered.2) exponent?
  | none, some exponent => scaled? negative significand dropped (some exponent)
  | none, none =>
    if dropped = 0 then some (ofInteger negative significand)
    else double? negative significand dropped

/-- What a written number is kept as; `none` if it is too large. -/
def Literal.number? (literal : Literal) : Option Number :=
  let whole := gather literal.whole 0
  completed? literal.negative whole.1 (literal.whole.length - whole.2) literal.fraction?
    literal.exponent?

/-! ## Digits -/

/-- A text that does not begin with a digit. -/
def NoDigit (written : List Char) : Prop :=
  ∀ char ∈ written.head?, isDigit char = false

theorem noDigit_cons {char : Char} {rest : List Char} :
    NoDigit (char :: rest) ↔ isDigit char = false := by
  simp [NoDigit]

theorem allDigits_cons {char : Char} {rest : List Char} :
    AllDigits (char :: rest) ↔ isDigit char = true ∧ AllDigits rest := by
  simp [AllDigits]

theorem IsDigits.exists_cons {digits : List Char} (all : IsDigits digits) :
    ∃ first others, digits = first :: others ∧ isDigit first = true := by
  cases digits with
  | nil => exact (all.1 rfl).elim
  | cons first others => exact ⟨first, others, rfl, (allDigits_cons.mp all.2).1⟩

/-- The digits that a text begins with, and what follows. -/
theorem exists_digits (written : List Char) :
    ∃ digits rest, written = digits ++ rest ∧ AllDigits digits ∧ NoDigit rest := by
  refine ⟨written.takeWhile isDigit, written.dropWhile isDigit,
    List.takeWhile_append_dropWhile.symm, List.all_eq_true.mp List.all_takeWhile, ?_⟩
  intro char head
  have notDigit := List.head?_dropWhile_not isDigit written
  rw [Option.mem_def.mp head] at notDigit
  simpa using notDigit

section
variable {digits rest : List Char} (all : AllDigits digits) (stop : NoDigit rest)
include all stop

theorem takeWhile_digits : (digits ++ rest).takeWhile isDigit = digits := by
  have none : rest.takeWhile isDigit = [] := by
    cases rest with
    | nil => rfl
    | cons char more => simp [noDigit_cons.mp stop]
  rw [List.takeWhile_append_of_pos all, none, List.append_nil]

theorem skipDigits_append (offset : Nat) :
    skipDigits ⟨digits ++ rest, offset⟩ = ⟨rest, offset + digits.length⟩ := by
  have run : (digits ++ rest).takeWhile (fun char => (digitValue? char).isSome) = digits :=
    takeWhile_digits all stop
  simp [skipDigits, Cursor.skip, run]

theorem atDigit_append (offset : Nat) :
    atDigit ⟨digits ++ rest, offset⟩ = true ↔ digits ≠ [] := by
  cases digits with
  | nil =>
    cases rest with
    | nil => simp [atDigit]
    | cons char more =>
      have notDigit := noDigit_cons.mp stop
      simp_all [atDigit, isDigit]
  | cons char more =>
    have digit := (allDigits_cons.mp all).1
    simp_all [atDigit, isDigit]

theorem gather_append (significand : Nat) :
    gather (digits ++ rest) significand = gather digits significand := by
  induction digits generalizing significand with
  | nil =>
    cases rest with
    | nil => rfl
    | cons char more =>
      have notDigit := noDigit_cons.mp stop
      rw [isDigit, Option.isSome_eq_false_iff, Option.isNone_iff_eq_none] at notDigit
      simp [gather, notDigit]
  | cons char more ih =>
    simp only [List.cons_append, gather, ih (allDigits_cons.mp all).2]

theorem gatherExponent_append (exponent taken : Nat) :
    gatherExponent (digits ++ rest) exponent taken = gatherExponent digits exponent taken := by
  induction digits generalizing exponent taken with
  | nil =>
    cases rest with
    | nil => rfl
    | cons char more =>
      have notDigit := noDigit_cons.mp stop
      rw [isDigit, Option.isSome_eq_false_iff, Option.isNone_iff_eq_none] at notDigit
      simp [gatherExponent, notDigit]
  | cons char more ih =>
    simp only [List.cons_append, gatherExponent, ih (allDigits_cons.mp all).2]

end

theorem gather_le_length (digits : List Char) (significand : Nat) :
    (gather digits significand).2 ≤ digits.length := by
  induction digits generalizing significand with
  | nil => exact Nat.le_refl 0
  | cons char more ih =>
    rw [gather]
    split
    · exact Nat.zero_le _
    · split
      · exact Nat.succ_le_succ (ih _)
      · exact Nat.zero_le _

/-- An exponent that is gathered is gathered from all of its digits. -/
theorem gatherExponent_eq_some {digits : List Char} (all : AllDigits digits)
    {exponent taken shift : Nat} (gathered : (gatherExponent digits exponent taken).1 = some shift) :
    (gatherExponent digits exponent taken).2 = taken + digits.length := by
  induction digits generalizing exponent taken with
  | nil => rfl
  | cons char more ih =>
    obtain ⟨first, others⟩ := allDigits_cons.mp all
    obtain ⟨digit, value⟩ := Option.isSome_iff_exists.mp first
    simp only [gatherExponent, value] at gathered ⊢
    split at gathered
    · next fits =>
      rw [if_pos fits, ih others gathered, List.length_cons]
      omega
    · cases gathered

/-! ## Exponents -/

theorem finishDouble_eq_ok_iff {negative : Bool} {significand : Nat} {scale : Int} {number : Number}
    {cursor after : Cursor} :
    finishDouble negative significand scale cursor = .ok (number, after) ↔
      double? negative significand scale = some number ∧ after = cursor := by
  rw [finishDouble, double?]
  cases Magnitude.ofDecimal? significand scale with
  | none => simp [Cursor.fail]
  | some magnitude => simp [eq_comm]

/-- Reads the digits of an exponent behind its sign. -/
def readShift (negative : Bool) (significand : Nat) (scale : Int) (down : Bool) : Reader Number :=
  fun cursor =>
    match cursor.rest with
    | [] => cursor.fail (.endInside .value)
    | char :: _ =>
      if (digitValue? char).isNone then .error ⟨.invalidNumber, cursor.offset + 1⟩
      else
        match gatherExponent cursor.rest 0 0 with
        | (some shift, taken) =>
          finishDouble negative significand (if down then scale - shift else scale + shift)
            (cursor.skip taken)
        | (none, taken) =>
          if significand ≠ 0 ∧ !down then (cursor.skip taken).fail .numberOutOfRange
          else .ok (.double ⟨negative, .zero⟩, skipDigits cursor)

section
variable (negative : Bool) (significand : Nat) (scale : Int)

theorem readExponent_plus (rest : List Char) (offset : Nat) :
    readExponent negative significand scale ⟨'+' :: rest, offset⟩ =
      readShift negative significand scale false ⟨rest, offset + 1⟩ := rfl

theorem readExponent_minus (rest : List Char) (offset : Nat) :
    readExponent negative significand scale ⟨'-' :: rest, offset⟩ =
      readShift negative significand scale true ⟨rest, offset + 1⟩ := rfl

theorem readExponent_unsigned {rest : List Char}
    (unsigned : ∀ char ∈ rest.head?, char ≠ '+' ∧ char ≠ '-') (offset : Nat) :
    readExponent negative significand scale ⟨rest, offset⟩ =
      readShift negative significand scale false ⟨rest, offset⟩ := by
  cases rest with
  | nil => rfl
  | cons char more =>
    obtain ⟨notPlus, notMinus⟩ := unsigned char rfl
    rw [readExponent]
    split
    rename_i down cursor found
    split at found
    · next plus =>
      cases plus
      exact (notPlus rfl).elim
    · next minus =>
      cases minus
      exact (notMinus rfl).elim
    · cases found
      rfl

end

/-- The digits behind a sign scale the significand, as far as they go. -/
theorem readShift_eq_ok_iff {digits rest : List Char} (all : IsDigits digits) (stop : NoDigit rest)
    {letter : Char} {sign? : Option Char} {negative : Bool} {significand : Nat} {scale : Int}
    {number : Number} {offset : Nat} {after : Cursor} :
    readShift negative significand scale (decide (sign? = some '-')) ⟨digits ++ rest, offset⟩ =
        .ok (number, after) ↔
      scaled? negative significand scale (some ⟨letter, sign?, digits⟩) = some number ∧
        after = ⟨rest, offset + digits.length⟩ := by
  have taken {shift : Nat} (gathered : (gatherExponent digits 0 0).1 = some shift) :
      (gatherExponent digits 0 0).2 = 0 + digits.length :=
    gatherExponent_eq_some all.2 gathered
  rw [readShift]
  split
  · next found => simp [all.1] at found
  next char more found =>
  have digit : (digitValue? char).isNone = false := by
    obtain ⟨first, others, rfl, digit⟩ := all.exists_cons
    cases found
    simpa [isDigit] using digit
  rw [digit, if_neg Bool.false_ne_true, gatherExponent_append all.2 stop, scaled?]
  dsimp only
  generalize gatherExponent digits 0 0 = gathered at taken ⊢
  obtain ⟨shift?, count⟩ := gathered
  cases shift? with
  | some shift =>
    have whole := taken rfl
    dsimp only at whole ⊢
    rw [finishDouble_eq_ok_iff, Cursor.skip, whole]
    simp [Exponent.isDown]
  | none =>
    rw [skipDigits_append all.2 stop]
    have same : (significand ≠ 0 ∧ (!decide (sign? = some '-')) = true) ↔
        (significand ≠ 0 ∧ Exponent.isDown ⟨letter, sign?, digits⟩ = false) := by
      simp [Exponent.isDown]
    by_cases tooLarge : significand ≠ 0 ∧ Exponent.isDown ⟨letter, sign?, digits⟩ = false
    · simp only [if_pos (same.mpr tooLarge), if_pos tooLarge]
      simp [Cursor.fail]
    · simp only [if_neg (mt same.mp tooLarge), if_neg tooLarge]
      simp [eq_comm]

theorem readShift_sound {negative : Bool} {significand : Nat} {scale : Int} {number : Number}
    {letter : Char} {sign? : Option Char} {cursor after : Cursor}
    (read : readShift negative significand scale (decide (sign? = some '-')) cursor =
      .ok (number, after)) :
    ∃ digits, IsDigits digits ∧ cursor.rest = digits ++ after.rest ∧
      scaled? negative significand scale (some ⟨letter, sign?, digits⟩) = some number := by
  obtain ⟨written, offset⟩ := cursor
  obtain ⟨digits, rest, rfl, all, stop⟩ := exists_digits written
  cases digits with
  | nil =>
    cases rest with
    | nil => cases read
    | cons char more =>
      have notDigit := noDigit_cons.mp stop
      rw [isDigit, Option.isSome_eq_false_iff] at notDigit
      simp only [List.nil_append, readShift, if_pos notDigit] at read
      cases read
  | cons first others =>
    have digits : IsDigits (first :: others) := ⟨List.cons_ne_nil _ _, all⟩
    obtain ⟨scaled, rfl⟩ := (readShift_eq_ok_iff digits stop).mp read
    exact ⟨first :: others, digits, rfl, scaled⟩

/-- What is read as an exponent behind its letter is one, and scales the significand. -/
theorem readExponent_sound {negative : Bool} {significand : Nat} {scale : Int} {number : Number}
    {cursor after : Cursor} {letter : Char} (isLetter : letter = 'e' ∨ letter = 'E')
    (read : readExponent negative significand scale cursor = .ok (number, after)) :
    ∃ exponent : Exponent, exponent.Valid ∧ letter :: cursor.rest = exponent.text ++ after.rest ∧
      scaled? negative significand scale (some exponent) = some number := by
  obtain ⟨written, offset⟩ := cursor
  have joined (sign? : Option Char) {behind : Cursor}
      (sign : ∀ sign ∈ sign?, sign = '+' ∨ sign = '-')
      (spelled : written = sign?.toList ++ behind.rest)
      (read : readShift negative significand scale (decide (sign? = some '-')) behind =
        .ok (number, after)) : ∃ exponent : Exponent, exponent.Valid ∧
          letter :: written = exponent.text ++ after.rest ∧
          scaled? negative significand scale (some exponent) = some number := by
    obtain ⟨digits, all, spelledDigits, scaled⟩ := readShift_sound read
    refine ⟨⟨letter, sign?, digits⟩, ⟨isLetter, sign, all⟩, ?_, scaled⟩
    simp [spelled, spelledDigits, Exponent.text]
  by_cases plus : written.head? = some '+'
  · obtain ⟨rest, rfl⟩ := List.head?_eq_some_iff.mp plus
    rw [readExponent_plus] at read
    exact joined (some '+') (by simp) rfl read
  by_cases minus : written.head? = some '-'
  · obtain ⟨rest, rfl⟩ := List.head?_eq_some_iff.mp minus
    rw [readExponent_minus] at read
    exact joined (some '-') (by simp) rfl read
  · rw [readExponent_unsigned] at read
    · exact joined none (by simp) rfl read
    · rintro char head
      exact ⟨by rintro rfl; exact plus head, by rintro rfl; exact minus head⟩

theorem takes_readExponent {exponent : Exponent} (valid : exponent.Valid) {rest : List Char}
    (stop : NoDigit rest) {negative : Bool} {significand : Nat} {scale : Int} {number : Number}
    (scaled : scaled? negative significand scale (some exponent) = some number) :
    Takes (readExponent negative significand scale)
      (exponent.sign?.toList ++ (exponent.digits ++ rest)) number rest := by
  intro offset
  obtain ⟨letter, sign?, digits⟩ := exponent
  have all : IsDigits digits := valid.digits
  have shifted (offset : Nat) :
      readShift negative significand scale (decide (sign? = some '-')) ⟨digits ++ rest, offset⟩ =
        .ok (number, ⟨rest, offset + digits.length⟩) :=
    (readShift_eq_ok_iff all stop).mpr ⟨scaled, rfl⟩
  cases sign? with
  | none =>
    refine ⟨_, (readExponent_unsigned _ _ _ ?_ offset).trans (shifted _)⟩
    intro char head
    obtain ⟨first, others, rfl, digit⟩ := all.exists_cons
    cases head
    constructor
    · rintro rfl
      cases digit
    · rintro rfl
      cases digit
  | some char =>
    rcases valid.sign char rfl with rfl | rfl
    · exact ⟨_, shifted _⟩
    · exact ⟨_, shifted _⟩

/-! ## Fractions -/

/-- What ends a number: no digit, point or exponent follows. -/
def EndsNumber (rest : List Char) : Prop :=
  ∀ char ∈ rest.head?, isDigit char = false ∧ char ∉ ['.', 'e', 'E']

theorem EndsNumber.noDigit {rest : List Char} (ends : EndsNumber rest) : NoDigit rest :=
  fun char head => (ends char head).1

theorem Delimited.endsNumber {rest : List Char} (delimited : Delimited rest) : EndsNumber rest := by
  intro char head
  have member : char ∈ [' ', '\n', '\t', '\r'] ++ [',', ']', '\x7d'] :=
    List.mem_append.mpr ((delimited char head).imp_left isSpace_iff_mem.mp)
  have checked : ([' ', '\n', '\t', '\r'] ++ [',', ']', '\x7d']).all
      (fun char => isDigit char = false ∧ char ∉ ['.', 'e', 'E']) = true := by decide
  exact of_decide_eq_true (List.all_eq_true.mp checked char member)

/-- The exponents of a number are well-formed, if it has one. -/
def ValidExponent (exponent? : Option Exponent) : Prop :=
  ∀ exponent ∈ exponent?, exponent.Valid

theorem readOptionalExponent_sound {negative : Bool} {significand : Nat} {scale : Int}
    {number : Number} {cursor after : Cursor}
    (read : readOptionalExponent negative significand scale cursor = .ok (number, after)) :
    ∃ exponent?, ValidExponent exponent? ∧
      cursor.rest = Literal.exponentText exponent? ++ after.rest ∧
      scaled? negative significand scale exponent? = some number := by
  have present {letter : Char} {rest : List Char} (isLetter : letter = 'e' ∨ letter = 'E')
      (found : cursor.rest = letter :: rest)
      (read : readExponent negative significand scale (cursor.skip 1) = .ok (number, after)) :
      ∃ exponent?, ValidExponent exponent? ∧
        cursor.rest = Literal.exponentText exponent? ++ after.rest ∧
        scaled? negative significand scale exponent? = some number := by
    obtain ⟨exponent, valid, spelled, scaled⟩ := readExponent_sound isLetter read
    refine ⟨some exponent, by simpa [ValidExponent] using valid, ?_, scaled⟩
    simpa [found, Literal.exponentText] using spelled
  rw [readOptionalExponent] at read
  split at read
  · next found => exact present (.inl rfl) found read
  · next found => exact present (.inr rfl) found read
  · obtain ⟨scaled, rfl⟩ := finishDouble_eq_ok_iff.mp read
    exact ⟨none, by simp [ValidExponent], rfl, scaled⟩

theorem takes_readOptionalExponent {exponent? : Option Exponent} (valid : ValidExponent exponent?)
    {rest : List Char} (ends : EndsNumber rest) {negative : Bool} {significand : Nat} {scale : Int}
    {number : Number} (scaled : scaled? negative significand scale exponent? = some number) :
    Takes (readOptionalExponent negative significand scale)
      (Literal.exponentText exponent? ++ rest) number rest := by
  intro offset
  cases exponent? with
  | some exponent =>
    have wellFormed := valid exponent rfl
    obtain ⟨after, taken⟩ := takes_readExponent wellFormed ends.noDigit scaled (offset + 1)
    refine ⟨after, ?_⟩
    rw [← taken]
    rcases wellFormed.letter with isLetter | isLetter
    · simp [readOptionalExponent, Literal.exponentText, Exponent.text, isLetter, Cursor.skip]
    · simp [readOptionalExponent, Literal.exponentText, Exponent.text, isLetter, Cursor.skip]
  | none =>
    refine ⟨offset, ?_⟩
    rw [readOptionalExponent]
    split
    · next found =>
      obtain rfl : rest = 'e' :: _ := found
      simpa using (ends 'e' rfl).2
    · next found =>
      obtain rfl : rest = 'E' :: _ := found
      simpa using (ends 'E' rfl).2
    · exact finishDouble_eq_ok_iff.mpr ⟨scaled, rfl⟩

theorem skip_digits {digits : List Char} {taken : Nat} (bound : taken ≤ digits.length)
    (rest : List Char) (offset : Nat) :
    Cursor.skip taken ⟨digits ++ rest, offset⟩ = ⟨digits.drop taken ++ rest, offset + taken⟩ := by
  simp [Cursor.skip, List.drop_append_of_le_length bound]

theorem AllDigits.drop {digits : List Char} (all : AllDigits digits) (taken : Nat) :
    AllDigits (digits.drop taken) :=
  fun char member => all char (List.mem_of_mem_drop member)

/-- All digits behind a point are read, whether there is room for them or not. -/
theorem readFraction_eq {digits rest : List Char} (all : IsDigits digits) (stop : NoDigit rest)
    (negative : Bool) (significand : Nat) (scale : Int) (offset : Nat) :
    readFraction negative significand scale ⟨digits ++ rest, offset⟩ =
      readOptionalExponent negative (gather digits significand).1
        (scale - (gather digits significand).2) ⟨rest, offset + digits.length⟩ := by
  have bound := gather_le_length digits significand
  rw [readFraction, gather_append all.2 stop]
  dsimp only
  generalize gather digits significand = gathered at bound ⊢
  obtain ⟨significand', taken⟩ := gathered
  dsimp only at bound ⊢
  have left := all.2.drop taken
  rw [skip_digits bound, skipDigits_append left stop, List.length_drop]
  split
  · congr 2
    omega
  · next none =>
    rw [atDigit_append left stop, Classical.not_not, List.drop_eq_nil_iff] at none
    have whole : taken = digits.length := Nat.le_antisymm bound none
    have positive : digits.length ≠ 0 := fun empty => all.1 (List.length_eq_zero_iff.mp empty)
    rw [if_neg (whole ▸ positive), List.drop_eq_nil_iff.mpr none, whole]
    rfl

theorem readFraction_sound {negative : Bool} {significand : Nat} {scale : Int} {number : Number}
    {cursor after : Cursor}
    (read : readFraction negative significand scale cursor = .ok (number, after)) :
    ∃ digits exponent?, IsDigits digits ∧ ValidExponent exponent? ∧
      cursor.rest = digits ++ (Literal.exponentText exponent? ++ after.rest) ∧
      scaled? negative (gather digits significand).1 (scale - (gather digits significand).2)
        exponent? = some number := by
  obtain ⟨written, offset⟩ := cursor
  obtain ⟨digits, rest, rfl, all, stop⟩ := exists_digits written
  cases digits with
  | nil =>
    have empty : gather rest significand = (significand, 0) := gather_append all stop significand
    have none : ¬ atDigit ⟨rest, offset⟩ := by
      simpa using atDigit_append all stop offset
    simp [readFraction, empty, Cursor.skip, none, Cursor.failNext] at read
  | cons first others =>
    have digits : IsDigits (first :: others) := ⟨List.cons_ne_nil _ _, all⟩
    rw [readFraction_eq digits stop] at read
    obtain ⟨exponent?, valid, spelled, scaled⟩ := readOptionalExponent_sound read
    exact ⟨first :: others, exponent?, digits, valid, by rw [← spelled], scaled⟩

/-! ## Whole numbers -/

/-- Reads what may follow the digits before the point, some of which may have been dropped. -/
def readTail (negative : Bool) (significand dropped : Nat) : Reader Number := fun cursor =>
  match cursor.rest with
  | '.' :: _ => readFraction negative significand dropped (cursor.skip 1)
  | 'e' :: _ | 'E' :: _ => readExponent negative significand dropped (cursor.skip 1)
  | _ =>
    if dropped = 0 then .ok (ofInteger negative significand, cursor)
    else finishDouble negative significand dropped cursor

theorem readAfterInteger_eq (negative : Bool) (significand : Nat) (cursor : Cursor) :
    readAfterInteger negative significand cursor = readTail negative significand 0 cursor := by
  rw [readAfterInteger]
  split
  · next found => simp [readTail, found]
  · next found => simp [readTail, found]
  · next found => simp [readTail, found]
  · simp [readTail]

theorem readLongInteger_eq {digits rest : List Char} (all : AllDigits digits) (stop : NoDigit rest)
    (nonempty : digits ≠ []) (negative : Bool) (significand : Nat) (offset : Nat) :
    readLongInteger negative significand ⟨digits ++ rest, offset⟩ =
      readTail negative significand digits.length ⟨rest, offset + digits.length⟩ := by
  have run : (digits ++ rest).takeWhile (fun char => (digitValue? char).isSome) = digits :=
    takeWhile_digits all stop
  have some : digits.length ≠ 0 := fun empty => nonempty (List.length_eq_zero_iff.mp empty)
  simp only [readLongInteger, run, Cursor.skip, List.drop_left]
  unfold readTail readOptionalExponent
  cases rest with
  | nil => simp [some]
  | cons char more =>
    dsimp only
    split
    · next found => simp [found, Cursor.skip]
    · next noPoint =>
      split
      · next found => simp [found, Cursor.skip]
      · next found => simp [found, Cursor.skip]
      · next noSmall noLarge => simp_all

/-- The exponent of a number is no more digits of its fraction. -/
theorem noDigit_exponentText {exponent? : Option Exponent} (valid : ValidExponent exponent?)
    {rest : List Char} (ends : EndsNumber rest) :
    NoDigit (Literal.exponentText exponent? ++ rest) := by
  cases exponent? with
  | none => exact ends.noDigit
  | some exponent =>
    rw [Literal.exponentText, Option.elim_some, Exponent.text, List.cons_append, noDigit_cons]
    rcases (valid exponent rfl).letter with isLetter | isLetter
    · rw [isLetter]
      decide
    · rw [isLetter]
      decide

theorem exponentText_ne_point {exponent? : Option Exponent} (valid : ValidExponent exponent?)
    {rest : List Char} (ends : EndsNumber rest) (more : List Char) :
    Literal.exponentText exponent? ++ rest ≠ '.' :: more := by
  intro same
  cases exponent? with
  | none =>
    obtain rfl : rest = '.' :: more := same
    simpa using (ends '.' rfl).2
  | some exponent =>
    have letter : exponent.letter = '.' := (List.cons.inj same).1
    rcases (valid exponent rfl).letter with isLetter | isLetter
    · exact absurd (letter.symm.trans isLetter) (by decide)
    · exact absurd (letter.symm.trans isLetter) (by decide)

/-- The fraction and the exponent of a number are no more digits before the point. -/
theorem noDigit_fractionText (fraction? : Option (List Char)) {exponent? : Option Exponent}
    (valid : ValidExponent exponent?) {rest : List Char} (ends : EndsNumber rest) :
    NoDigit (Literal.fractionText fraction? ++ (Literal.exponentText exponent? ++ rest)) := by
  cases fraction? with
  | none => exact noDigit_exponentText valid ends
  | some digits => exact noDigit_cons.mpr (by decide)

theorem readTail_sound {negative : Bool} {significand dropped : Nat} {number : Number}
    {cursor after : Cursor} (read : readTail negative significand dropped cursor = .ok (number, after)) :
    ∃ fraction? exponent?, (∀ digits ∈ fraction?, IsDigits digits) ∧ ValidExponent exponent? ∧
      cursor.rest = Literal.fractionText fraction? ++
        (Literal.exponentText exponent? ++ after.rest) ∧
      completed? negative significand dropped fraction? exponent? = some number := by
  have withExponent {letter : Char} {rest : List Char} (isLetter : letter = 'e' ∨ letter = 'E')
      (found : cursor.rest = letter :: rest)
      (read : readExponent negative significand dropped (cursor.skip 1) = .ok (number, after)) :
      ∃ fraction? exponent?, (∀ digits ∈ fraction?, IsDigits digits) ∧ ValidExponent exponent? ∧
        cursor.rest = Literal.fractionText fraction? ++
          (Literal.exponentText exponent? ++ after.rest) ∧
        completed? negative significand dropped fraction? exponent? = some number := by
    obtain ⟨exponent, valid, spelled, scaled⟩ := readExponent_sound isLetter read
    refine ⟨none, some exponent, by simp, by simpa [ValidExponent] using valid, ?_, scaled⟩
    simpa [found, Literal.fractionText, Literal.exponentText] using spelled
  rw [readTail] at read
  split at read
  · next rest found =>
    obtain ⟨digits, exponent?, all, valid, spelled, scaled⟩ := readFraction_sound read
    refine ⟨some digits, exponent?, by simpa using all, valid, ?_, scaled⟩
    simpa [found, Literal.fractionText] using spelled
  · next found => exact withExponent (.inl rfl) found read
  · next found => exact withExponent (.inr rfl) found read
  · split at read
    · next whole =>
      cases read
      exact ⟨none, none, by simp, by simp [ValidExponent], rfl, by simp [completed?, whole]⟩
    · next some =>
      obtain ⟨double, rfl⟩ := finishDouble_eq_ok_iff.mp read
      exact ⟨none, none, by simp, by simp [ValidExponent], rfl, by simp [completed?, some, double]⟩

theorem takes_readTail {fraction? : Option (List Char)} {exponent? : Option Exponent}
    (digits : ∀ digits ∈ fraction?, IsDigits digits) (valid : ValidExponent exponent?)
    {rest : List Char} (ends : EndsNumber rest) {negative : Bool} {significand dropped : Nat}
    {number : Number}
    (completed : completed? negative significand dropped fraction? exponent? = some number) :
    Takes (readTail negative significand dropped)
      (Literal.fractionText fraction? ++ (Literal.exponentText exponent? ++ rest)) number rest := by
  intro offset
  cases fraction? with
  | some written =>
    obtain ⟨after, taken⟩ := takes_readOptionalExponent valid ends completed
      (offset + 1 + written.length)
    have read := readFraction_eq (digits written rfl) (noDigit_exponentText valid ends) negative
      significand dropped (offset + 1)
    exact ⟨after, read.trans taken⟩
  | none =>
    cases exponent? with
    | some exponent =>
      have wellFormed := valid exponent rfl
      obtain ⟨after, taken⟩ := takes_readExponent wellFormed ends.noDigit completed (offset + 1)
      refine ⟨after, ?_⟩
      rw [← taken]
      rcases wellFormed.letter with isLetter | isLetter
      · simp [readTail, Literal.fractionText, Literal.exponentText, Exponent.text, isLetter,
          Cursor.skip]
      · simp [readTail, Literal.fractionText, Literal.exponentText, Exponent.text, isLetter,
          Cursor.skip]
    | none =>
      refine ⟨offset, ?_⟩
      rw [readTail]
      split
      · next found =>
        obtain rfl : rest = '.' :: _ := found
        simpa using (ends '.' rfl).2
      · next found =>
        obtain rfl : rest = 'e' :: _ := found
        simpa using (ends 'e' rfl).2
      · next found =>
        obtain rfl : rest = 'E' :: _ := found
        simpa using (ends 'E' rfl).2
      · rw [completed?] at completed
        split at completed
        · next whole =>
          cases completed
          rw [if_pos whole]
          rfl
        · next some =>
          rw [if_neg some]
          exact finishDouble_eq_ok_iff.mpr ⟨completed, rfl⟩

/-- All digits before a point are read, whether there is room for them or not. -/
theorem readUnsigned_eq {digits rest : List Char} (all : IsDigits digits)
    (noZero : digits.head? = some '0' → digits = ['0']) (stop : NoDigit rest) (negative : Bool)
    (offset : Nat) :
    readUnsigned negative ⟨digits ++ rest, offset⟩ =
      readTail negative (gather digits 0).1 (digits.length - (gather digits 0).2)
        ⟨rest, offset + digits.length⟩ := by
  by_cases zero : digits.head? = some '0'
  · rw [noZero zero]
    have alone : ¬ atDigit ⟨rest, offset + 1⟩ := by
      have none : AllDigits [] := by simp [AllDigits]
      simpa using atDigit_append none stop (offset + 1)
    have gathered : gather ['0'] 0 = (0, 1) := by decide
    have step : readUnsigned negative ⟨'0' :: rest, offset⟩ =
        if atDigit ⟨rest, offset + 1⟩ then Cursor.failNext ⟨rest, offset + 1⟩ .invalidNumber
        else readAfterInteger negative 0 ⟨rest, offset + 1⟩ := rfl
    rw [List.singleton_append, step, if_neg alone, readAfterInteger_eq, gathered]
    rfl
  · have bound := gather_le_length digits 0
    have left := all.2.drop (gather digits 0).2
    unfold readUnsigned
    split
    · next found => simp [all.1] at found
    · next found =>
      obtain ⟨first, others, rfl, -⟩ := all.exists_cons
      cases found
      exact (zero rfl).elim
    next char more _ found =>
    have digit : (digitValue? char).isNone = false := by
      obtain ⟨first, others, rfl, digit⟩ := all.exists_cons
      cases found
      simpa [isDigit] using digit
    rw [if_neg (by simp [digit]), gather_append all.2 stop]
    dsimp only
    rw [skip_digits bound]
    split
    · next some =>
      rw [readLongInteger_eq left stop ((atDigit_append left stop _).mp some), List.length_drop]
      congr 2
      omega
    · next none =>
      rw [atDigit_append left stop, Classical.not_not, List.drop_eq_nil_iff] at none
      have whole : (gather digits 0).2 = digits.length := Nat.le_antisymm bound none
      rw [readAfterInteger_eq, List.drop_eq_nil_iff.mpr none, whole, Nat.sub_self]
      rfl

theorem readUnsigned_sound {negative : Bool} {number : Number} {cursor after : Cursor}
    (read : readUnsigned negative cursor = .ok (number, after)) :
    ∃ literal : Literal, literal.Valid ∧ literal.negative = negative ∧
      literal.signText ++ cursor.rest = literal.text ++ after.rest ∧
      literal.number? = some number := by
  obtain ⟨written, offset⟩ := cursor
  obtain ⟨digits, rest, rfl, all, stop⟩ := exists_digits written
  have nonempty : digits ≠ [] := by
    rintro rfl
    unfold readUnsigned at read
    split at read
    · cases read
    · next found =>
      obtain rfl : rest = '0' :: _ := found
      exact absurd (noDigit_cons.mp stop) (by decide)
    · next char more _ found =>
      obtain rfl : rest = char :: more := found
      have notDigit := noDigit_cons.mp stop
      rw [isDigit, Option.isSome_eq_false_iff] at notDigit
      rw [if_pos notDigit] at read
      cases read
  have noZero (zero : digits.head? = some '0') : digits = ['0'] := by
    obtain ⟨more, rfl⟩ := List.head?_eq_some_iff.mp zero
    have others := (allDigits_cons.mp all).2
    by_cases alone : more = []
    · rw [alone]
    · have next := (atDigit_append others stop (offset + 1)).mpr alone
      have step : readUnsigned negative ⟨'0' :: (more ++ rest), offset⟩ =
          if atDigit ⟨more ++ rest, offset + 1⟩ then
            Cursor.failNext ⟨more ++ rest, offset + 1⟩ .invalidNumber
          else readAfterInteger negative 0 ⟨more ++ rest, offset + 1⟩ := rfl
      rw [List.cons_append, step, if_pos next] at read
      cases read
  rw [readUnsigned_eq ⟨nonempty, all⟩ noZero stop] at read
  obtain ⟨fraction?, exponent?, inFraction, inExponent, spelled, completed⟩ := readTail_sound read
  refine ⟨⟨negative, digits, fraction?, exponent?⟩,
    ⟨⟨nonempty, all⟩, noZero, inFraction, inExponent⟩, rfl, ?_, completed⟩
  dsimp only at spelled
  simp [Literal.text, spelled]

/-- What is read as a number is one, and is kept as the result. -/
theorem readNumber_sound {number : Number} {cursor after : Cursor}
    (read : readNumber cursor = .ok (number, after)) :
    ∃ literal : Literal, literal.Valid ∧ cursor.rest = literal.text ++ after.rest ∧
      literal.number? = some number := by
  rw [readNumber] at read
  split at read
  · next rest found =>
    obtain ⟨literal, valid, negative, spelled, kept⟩ := readUnsigned_sound read
    exact ⟨literal, valid, by simpa [found, Literal.signText, negative] using spelled, kept⟩
  · obtain ⟨literal, valid, negative, spelled, kept⟩ := readUnsigned_sound read
    exact ⟨literal, valid, by simpa [Literal.signText, negative] using spelled, kept⟩

theorem takes_readNumber {literal : Literal} (valid : literal.Valid) {number : Number}
    (kept : literal.number? = some number) {rest : List Char} (ends : EndsNumber rest) :
    Takes readNumber (literal.text ++ rest) number rest := by
  intro offset
  obtain ⟨negative, whole, fraction?, exponent?⟩ := literal
  have stop := noDigit_fractionText fraction? valid.exponent ends
  have unsigned (offset : Nat) : ∃ after, readUnsigned negative
      ⟨whole ++ (Literal.fractionText fraction? ++ (Literal.exponentText exponent? ++ rest)),
        offset⟩ = .ok (number, ⟨rest, after⟩) := by
    rw [readUnsigned_eq valid.whole valid.noZero stop]
    exact takes_readTail valid.fraction valid.exponent ends kept _
  simp only [Literal.text, List.append_assoc, Literal.signText]
  cases negative with
  | true => exact unsigned (offset + '-'.utf8Size)
  | false =>
    obtain ⟨after, taken⟩ := unsigned offset
    refine ⟨after, ?_⟩
    rw [readNumber]
    split
    · next found =>
      obtain ⟨first, others, rfl, digit⟩ := IsDigits.exists_cons valid.whole
      cases found
      exact absurd digit (by decide)
    · exact taken

/-- A number begins with its sign or with a digit. -/
theorem Literal.Valid.exists_cons {literal : Literal} (valid : literal.Valid) :
    ∃ first rest, literal.text = first :: rest ∧ (first = '-' ∨ isDigit first = true) := by
  obtain ⟨first, others, whole, digit⟩ := valid.whole.exists_cons
  rw [Literal.text, Literal.signText, whole]
  cases literal.negative with
  | true => exact ⟨'-', _, rfl, .inl rfl⟩
  | false => exact ⟨first, _, rfl, .inr digit⟩

end FixtureHarness.Json
