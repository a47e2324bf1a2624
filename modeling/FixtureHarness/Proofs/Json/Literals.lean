import FixtureHarness.Proofs.Json.Numbers
import Mathlib.Data.List.Basic
import Mathlib.Data.Rat.Lemmas
import Mathlib.Tactic.NormNum
import Mathlib.Tactic.Ring

/-! # What written numbers stand for

A written number stands for a rational, whatever a reader makes of it. The text of a number that has
been read is a written number again: that of an integer stands for it, that of a double for its
shortest decimal. Integers of 64 bits are read to themselves.
-/

namespace FixtureHarness

namespace Json

/-! ## Digits -/

/-- The natural number that decimal digits stand for. -/
def numeral (digits : List Char) : Nat :=
  Nat.ofDigitChars 10 digits 0

theorem numeral_append (left right : List Char) :
    numeral (left ++ right) = numeral left * 10 ^ right.length + numeral right := by
  rw [numeral, Nat.ofDigitChars_append, Nat.ofDigitChars_eq_ofDigitChars_zero, Nat.mul_comm]
  rfl

theorem numeral_zeros (count : Nat) : numeral (List.replicate count '0') = 0 := by
  rw [numeral, Nat.ofDigitChars_replicate_zero, Nat.mul_zero]

@[simp] theorem numeral_toDigits (number : Nat) : numeral (Nat.toDigits 10 number) = number :=
  Nat.ofDigitChars_ten_toDigits

theorem isDigit_of_isDigit {char : Char} (digit : char.isDigit = true) : isDigit char = true := by
  have bounds : '0' ≤ char ∧ char ≤ '9' := by
    simpa [Char.isDigit, Char.le_def] using digit
  rw [isDigit, digitValue?, if_pos bounds]
  rfl

theorem isDigits_toDigits (number : Nat) : IsDigits (Nat.toDigits 10 number) :=
  ⟨Nat.toDigits_ne_nil, fun _ member =>
    isDigit_of_isDigit (Nat.isDigit_of_mem_toDigits (by decide) (by decide) member)⟩

theorem allDigits_zeros (count : Nat) : AllDigits (List.replicate count '0') := by
  intro char member
  rw [List.eq_of_mem_replicate member]
  decide

theorem AllDigits.append {left right : List Char} (all : AllDigits left) (all' : AllDigits right) :
    AllDigits (left ++ right) := by
  intro char member
  exact (List.mem_append.mp member).elim (all char) (all' char)

theorem AllDigits.take {digits : List Char} (all : AllDigits digits) (count : Nat) :
    AllDigits (digits.take count) :=
  fun char member => all char (List.mem_of_mem_take member)

theorem AllDigits.noPoint {digits : List Char} (all : AllDigits digits) : '.' ∉ digits := by
  intro member
  exact absurd (all '.' member) (by decide)

/-- The digits of a number begin with a zero for zero only. -/
theorem head_toDigits {number : Nat} (zero : (Nat.toDigits 10 number).head? = some '0') :
    number = 0 := by
  induction number using Nat.strongRecOn with
  | ind number ih =>
    rw [Nat.toDigits_eq_if (by decide)] at zero
    split at zero
    · exact Nat.digitChar_eq_zero.mp (Option.some.inj zero)
    · next large =>
      rw [List.head?_append_of_ne_nil _ Nat.toDigits_ne_nil] at zero
      have smaller := ih (number / 10) (by omega) zero
      omega

/-! ## Values -/

/-- The power of ten that an exponent stands for. -/
def Exponent.shift (exponent : Exponent) : Int :=
  if exponent.isDown then -(numeral exponent.digits : Int) else numeral exponent.digits

/-- What a sign multiplies with. -/
def signFactor (negative : Bool) : ℚ :=
  if negative then -1 else 1

/-- The number that a written number stands for. -/
def Literal.value (literal : Literal) : ℚ :=
  let places := literal.fraction?.getD []
  let shift := literal.exponent?.elim 0 Exponent.shift
  signFactor literal.negative *
    (numeral (literal.whole ++ places) * 10 ^ (shift - places.length))

end Json

/-- The number that a decimal stands for. -/
def Decimal.value (decimal : Decimal) : ℚ :=
  decimal.digits * 10 ^ decimal.exponent

namespace Json

/-- The number that the text of a number stands for. -/
def Number.value : Number → ℚ
  | .integer value => value
  | .double value => signFactor value.negative * (value.magnitude.shortest .toEven).value

/-! ## Integers -/

/-- An integer as it is written. -/
def integerLiteral (value : Int) : Literal :=
  ⟨value < 0, Nat.toDigits 10 value.natAbs, none, none⟩

theorem integerLiteral_text (value : Int) :
    (integerLiteral value).text = (toString value).toList := by
  cases value with
  | ofNat number =>
    have digits : toString (number : Int) = number.repr := rfl
    have sign : ¬ (number : Int) < 0 := by omega
    simp only [Int.ofNat_eq_natCast, digits, integerLiteral, Literal.text, Literal.signText, sign]
    simp [Literal.fractionText, Literal.exponentText]
  | negSucc number =>
    have digits : toString (Int.negSucc number) = "-" ++ (number + 1).repr := rfl
    simp [integerLiteral, Literal.text, Literal.signText, Literal.fractionText,
      Literal.exponentText, digits]

theorem integerLiteral_valid (value : Int) : (integerLiteral value).Valid where
  whole := isDigits_toDigits _
  noZero zero := by
    rw [integerLiteral, head_toDigits zero]
    rfl
  fraction := by simp [integerLiteral]
  exponent := by simp [integerLiteral]

theorem integerLiteral_value (value : Int) : (integerLiteral value).value = value := by
  simp only [Literal.value, integerLiteral, signFactor, Option.getD_none, Option.elim_none,
    List.append_nil, numeral_toDigits, List.length_nil, Nat.cast_zero, sub_zero, zpow_zero, mul_one,
    decide_eq_true_eq]
  split
  · next negative =>
    have magnitude : (value.natAbs : Int) = -value := by omega
    rw [← Int.cast_natCast, magnitude]
    push_cast
    ring
  · next positive =>
    have magnitude : (value.natAbs : Int) = value := by omega
    rw [← Int.cast_natCast, magnitude, one_mul]

/-! ## Decimals -/

/-- A decimal written out in full, with a point in any case. -/
def pointedLiteral (negative : Bool) (decimal : Decimal) : Literal :=
  let digits := decimal.text
  let places := (-decimal.exponent).toNat
  if 0 ≤ decimal.exponent then
    ⟨negative, digits ++ List.replicate decimal.exponent.toNat '0', some ['0'], none⟩
  else if digits.length ≤ places then
    ⟨negative, ['0'], some (List.replicate (places - digits.length) '0' ++ digits), none⟩
  else
    ⟨negative, digits.take (digits.length - places), some (digits.drop (digits.length - places)),
      none⟩

/-- A decimal written with an exponent. -/
def scientificLiteral (negative : Bool) (decimal : Decimal) : Literal :=
  let digits := decimal.text
  let exponent := decimal.exponent + digits.length - 1
  { negative := negative
    whole := digits.take 1
    fraction? := if digits.drop 1 = [] then none else some (digits.drop 1)
    exponent? := some
      { letter := 'e'
        sign? := some (if exponent < 0 then '-' else '+')
        digits := Nat.toDigits 10 exponent.natAbs } }

theorem length_text_pos (decimal : Decimal) : 0 < decimal.text.length :=
  Nat.length_toDigits_pos

theorem pointedLiteral_text (negative : Bool) (decimal : Decimal) :
    (pointedLiteral negative decimal).text =
      (if negative then ['-'] else []) ++ decimal.pointed := by
  have noPoint : '.' ∉ decimal.text := (isDigits_toDigits decimal.digits).2.noPoint
  rw [pointedLiteral, Decimal.pointed, Decimal.positional]
  dsimp only
  split
  · have whole : (decimal.text ++ List.replicate decimal.exponent.toNat '0').contains '.' = false := by
      simp [noPoint]
    rw [whole]
    simp [Literal.text, Literal.signText, Literal.fractionText, Literal.exponentText]
  split
  · simp [Literal.text, Literal.signText, Literal.fractionText, Literal.exponentText]
  · simp [Literal.text, Literal.signText, Literal.fractionText, Literal.exponentText]

/-- A literal stands for a decimal if its digits are those of the decimal with zeros at their end, and
its scale makes up for these. -/
theorem value_eq {literal : Literal} {decimal : Decimal} (zeros : Nat)
    (digits : numeral (literal.whole ++ literal.fraction?.getD []) = decimal.digits * 10 ^ zeros)
    (scale : literal.exponent?.elim 0 Exponent.shift - (literal.fraction?.getD []).length + zeros =
      decimal.exponent) :
    literal.value = signFactor literal.negative * decimal.value := by
  have ten : (10 : ℚ) ≠ 0 := by norm_num
  rw [Literal.value, Decimal.value, digits, ← scale, zpow_add₀ ten, zpow_natCast]
  push_cast
  ring

theorem pointedLiteral_value (negative : Bool) (decimal : Decimal) :
    (pointedLiteral negative decimal).value = signFactor negative * decimal.value := by
  have digits : numeral decimal.text = decimal.digits := numeral_toDigits _
  rw [pointedLiteral]
  split
  · next up =>
    have point : numeral ['0'] = 0 := by decide
    refine value_eq (decimal.exponent.toNat + 1) ?_ ?_
    · simp only [Option.getD_some, numeral_append, numeral_zeros, digits, point,
        List.length_replicate, List.length_singleton]
      ring
    · simp only [Option.elim_none, Option.getD_some, List.length_singleton]
      omega
  next down =>
  split
  · next short =>
    refine value_eq 0 ?_ ?_
    · have front : numeral ['0'] = 0 := by decide
      simp only [Option.getD_some, numeral_append, numeral_zeros, digits, front]
      ring
    · simp only [Option.elim_none, Option.getD_some, List.length_append, List.length_replicate]
      omega
  · next long =>
    refine value_eq 0 ?_ ?_
    · simp only [Option.getD_some, List.take_append_drop, digits]
      ring
    · simp only [Option.elim_none, Option.getD_some, List.length_drop]
      omega

theorem scientificLiteral_text (negative : Bool) (decimal : Decimal) :
    (scientificLiteral negative decimal).text =
      (if negative then ['-'] else []) ++ decimal.scientific := by
  have sign (exponent : Int) : (if exponent < 0 then ['-'] else ['+']) =
      [if exponent < 0 then '-' else '+'] := by
    split <;> rfl
  rw [scientificLiteral, Decimal.scientific]
  rw [sign]
  cases decimal.text.drop 1 with
  | nil =>
    simp [Literal.text, Literal.signText, Literal.fractionText, Literal.exponentText, Exponent.text]
  | cons first rest =>
    simp [Literal.text, Literal.signText, Literal.fractionText, Literal.exponentText, Exponent.text]

theorem scientificLiteral_value (negative : Bool) (decimal : Decimal) :
    (scientificLiteral negative decimal).value = signFactor negative * decimal.value := by
  have digits : numeral decimal.text = decimal.digits := numeral_toDigits _
  have nonempty := length_text_pos decimal
  have fraction : (scientificLiteral negative decimal).fraction?.getD [] = decimal.text.drop 1 := by
    rw [scientificLiteral]
    split
    · next none => simp [none]
    · rfl
  refine value_eq 0 ?_ ?_
  · rw [fraction, scientificLiteral, List.take_append_drop, digits]
    ring
  · rw [fraction, List.length_drop]
    simp only [scientificLiteral, Option.elim_some, Exponent.shift, Exponent.isDown,
      numeral_toDigits]
    by_cases down : decimal.exponent + decimal.text.length - 1 < 0
    · simp only [if_pos down, decide_true, if_true]
      omega
    · rw [if_neg down, if_neg (by simp)]
      omega

/-- The first digit of a decimal is zero for zero only. -/
theorem text_of_zero {decimal : Decimal} (zero : decimal.text.head? = some '0') :
    decimal.digits = 0 ∧ decimal.text = ['0'] := by
  have none : decimal.digits = 0 := head_toDigits zero
  exact ⟨none, by rw [Decimal.text, none]; rfl⟩

theorem pointedLiteral_valid (negative : Bool) {decimal : Decimal}
    (zero : decimal.digits = 0 → decimal.exponent = 0) :
    (pointedLiteral negative decimal).Valid := by
  have digits : IsDigits decimal.text := isDigits_toDigits _
  have single : IsDigits ['0'] := ⟨by decide, allDigits_zeros 1⟩
  rw [pointedLiteral]
  split
  · refine ⟨⟨by simp [digits.1], digits.2.append (allDigits_zeros _)⟩, fun first => ?_, ?_, ?_⟩
    · rw [List.head?_append_of_ne_nil _ digits.1] at first
      obtain ⟨none, text⟩ := text_of_zero first
      rw [text, zero none]
      rfl
    · simpa using single
    · simp
  split
  · refine ⟨single, fun _ => rfl, ?_, by simp⟩
    simpa [IsDigits, digits.1] using (allDigits_zeros _).append digits.2
  · next down long =>
    -- There are at least two digits here, so the first of them is not zero.
    have first (zero : (decimal.text.take (decimal.text.length - (-decimal.exponent).toNat)).head? =
        some '0') : decimal.text = ['0'] := by
      rw [List.head?_take, if_neg (by omega)] at zero
      exact (text_of_zero zero).2
    refine ⟨⟨?_, ?_⟩, fun zero => ?_, ?_, by simp⟩
    · simp only [ne_eq, List.take_eq_nil_iff, digits.1, or_false]
      omega
    · exact digits.2.take _
    · rw [first zero] at long
      simp at long
      omega
    · simp only [Option.mem_def, Option.some.injEq]
      rintro _ rfl
      refine ⟨?_, digits.2.drop _⟩
      simp only [ne_eq, List.drop_eq_nil_iff]
      omega

theorem scientificLiteral_valid (negative : Bool) (decimal : Decimal) :
    (scientificLiteral negative decimal).Valid := by
  have digits : IsDigits decimal.text := isDigits_toDigits _
  obtain ⟨first, others, text, digit⟩ := digits.exists_cons
  have all := (allDigits_cons.mp (text ▸ digits.2)).2
  simp only [scientificLiteral, text, List.take_succ_cons, List.take_zero, List.drop_succ_cons,
    List.drop_zero]
  refine ⟨⟨by simp, by simpa [AllDigits] using digit⟩, by simp, ?_, ?_⟩
  · by_cases none : others = []
    · simp [none]
    · simpa [none, IsDigits] using all
  · refine fun exponent found => ?_
    cases found
    refine ⟨.inl rfl, ?_, isDigits_toDigits _⟩
    simp only [Option.mem_def, Option.some.injEq]
    rintro sign rfl
    split
    · exact .inr rfl
    · exact .inl rfl

end Json

/-! ## Doubles -/

theorem Decimal.stripZeros_digits {fuel : Nat} : ∀ {decimal : Decimal}, decimal.digits ≠ 0 →
    (stripZeros fuel decimal).digits ≠ 0 := by
  induction fuel with
  | zero => exact fun nonzero => nonzero
  | succ fuel ih =>
    intro decimal nonzero
    rw [stripZeros]
    split
    · next divides => exact ih (by dsimp only; omega)
    · exact nonzero

theorem Magnitude.gridPoint_ne_zero {halves : Halves} {value : Magnitude} {exponent : Int}
    {point : Nat} (found : value.gridPoint? halves exponent = some point) : point ≠ 0 := by
  rw [gridPoint?] at found
  split at found
  · next down _ =>
    have positive := of_decide_eq_true (Bool.and_eq_true_iff.mp down).1
    split at found
    · cases found
      omega
    split at found
    · cases found
      omega
    split at found
    · cases found
      omega
    · cases found
      omega
  · next down _ =>
    cases found
    have positive := of_decide_eq_true (Bool.and_eq_true_iff.mp down).1
    omega
  · cases found
    exact Nat.succ_ne_zero _
  · cases found

/-- The shortest decimal of zero has no scale, and no other is zero. -/
theorem Magnitude.shortest_zero {halves : Halves} {value : Magnitude}
    (zero : (value.shortest halves).digits = 0) : (value.shortest halves).exponent = 0 := by
  have tried {top : Int} {fuel : Nat} : ∀ {digits : Nat},
      (shortestFrom halves value top fuel digits).digits = 0 →
        (shortestFrom halves value top fuel digits).exponent = 0 := by
    induction fuel with
    | zero => exact fun _ => rfl
    | succ fuel ih =>
      intro digits none
      rw [shortestFrom] at none ⊢
      split at none
      · next point found =>
        exact absurd none (Decimal.stripZeros_digits (gridPoint_ne_zero found))
      · exact ih none
  rw [shortest] at zero ⊢
  split
  · rfl
  · next some =>
    rw [if_neg some] at zero
    exact tried zero

namespace Json

/-- A double as it is written. -/
def doubleLiteral (value : Binary64) : Literal :=
  let decimal := value.magnitude.shortest .toEven
  let top := decimal.exponent + decimal.text.length - 1
  if -5 ≤ top ∧ top ≤ 15 then pointedLiteral value.negative decimal
  else scientificLiteral value.negative decimal

/-- A number as it is written. -/
def Number.literal : Number → Literal
  | .integer value => integerLiteral value
  | .double value => doubleLiteral value

namespace Number

theorem literal_text (number : Number) : number.literal.text = number.text := by
  cases number with
  | integer value => exact integerLiteral_text value
  | double value =>
    rw [literal, doubleLiteral, text, Binary64.compact]
    split
    · exact pointedLiteral_text ..
    · exact scientificLiteral_text ..

theorem literal_valid (number : Number) : number.literal.Valid := by
  cases number with
  | integer value => exact integerLiteral_valid value
  | double value =>
    rw [literal, doubleLiteral]
    split
    · exact pointedLiteral_valid _ Magnitude.shortest_zero
    · exact scientificLiteral_valid ..

theorem literal_value (number : Number) : number.literal.value = number.value := by
  cases number with
  | integer value => exact integerLiteral_value value
  | double value =>
    rw [literal, doubleLiteral, Number.value]
    split
    · exact pointedLiteral_value ..
    · exact scientificLiteral_value ..

end Number

/-! ## Integers of 64 bits -/

theorem le_ofDigitChars (digits : List Char) (significand : Nat) :
    significand ≤ Nat.ofDigitChars 10 digits significand := by
  rw [Nat.ofDigitChars_eq_ofDigitChars_zero]
  have positive : 0 < 10 ^ digits.length := Nat.pow_pos (by decide)
  exact Nat.le_add_right_of_le (Nat.le_mul_of_pos_left _ positive)

/-- As long as their number is small enough, all digits are gathered into it. -/
theorem gather_of_le {digits : List Char} (all : AllDigits digits) : ∀ {significand : Nat},
    Nat.ofDigitChars 10 digits significand ≤ maxSignificand →
      gather digits significand = (Nat.ofDigitChars 10 digits significand, digits.length) := by
  induction digits with
  | nil => exact fun _ => rfl
  | cons char rest ih =>
    intro significand small
    obtain ⟨first, others⟩ := allDigits_cons.mp all
    have bounds : '0' ≤ char ∧ char ≤ '9' := by
      by_contra outside
      rw [isDigit, digitValue?, if_neg outside] at first
      cases first
    have digit : digitValue? char = some (char.toNat - '0'.toNat) := if_pos bounds
    rw [Nat.ofDigitChars_cons, Nat.mul_comm] at small ⊢
    have fits := (le_ofDigitChars rest _).trans small
    simp only [gather, digit, if_pos fits, ih others small, List.length_cons]

/-- Digits without a point and an exponent are an integer if there is room for them. -/
theorem number_of_whole {literal : Literal} (valid : literal.Valid)
    (fraction : literal.fraction? = none) (exponent : literal.exponent? = none)
    (small : numeral literal.whole ≤ maxSignificand) :
    literal.number? = some (ofInteger literal.negative (numeral literal.whole)) := by
  have gathered : gather literal.whole 0 = (numeral literal.whole, literal.whole.length) :=
    gather_of_le valid.whole.2 small
  rw [Literal.number?, gathered, fraction, exponent]
  simp [completed?]

/-- An integer of 64 bits is kept as it is; a negative zero becomes a double, which is zero as well. -/
theorem value_ofInteger {negative : Bool} {significand : Nat}
    (small : negative = true → significand ≤ 2 ^ 63) :
    (ofInteger negative significand).value = signFactor negative * significand := by
  cases negative with
  | false => simp [ofInteger, Number.value, signFactor]
  | true =>
    have bound : significand ≤ Nat.pow 2 63 := small rfl
    by_cases zero : significand = 0
    · subst zero
      have double : (Number.double ⟨true, .zero⟩).value = 0 := by
        simp [Number.value, Decimal.value, Magnitude.shortest, Magnitude.zero]
      have kept : ofInteger true 0 = .double ⟨true, .zero⟩ := by decide
      rw [kept, double, Nat.cast_zero, mul_zero]
    · have kept : ofInteger true significand = .integer (-(significand : Int)) := by
        simp [ofInteger, bound, Nat.pos_of_ne_zero zero]
      rw [kept]
      simp [Number.value, signFactor]

theorem value_of_whole {literal : Literal} (fraction : literal.fraction? = none)
    (exponent : literal.exponent? = none) :
    literal.value = signFactor literal.negative * numeral literal.whole := by
  simp [Literal.value, fraction, exponent]

/-- Every integer of 64 bits is kept exactly, whether it has a sign or not. -/
theorem number_of_integer {literal : Literal} (valid : literal.Valid)
    (fraction : literal.fraction? = none) (exponent : literal.exponent? = none)
    (low : -2 ^ 63 ≤ literal.value) (high : literal.value < 2 ^ 64) :
    ∃ number, literal.number? = some number ∧ number.value = literal.value := by
  have value := value_of_whole fraction exponent
  rw [value] at low high
  have small : (literal.negative = true → numeral literal.whole ≤ 2 ^ 63) ∧
      numeral literal.whole < 2 ^ 64 := by
    cases negative : literal.negative with
    | false =>
      rw [negative, signFactor, if_neg (by decide), one_mul] at high
      exact ⟨fun minus => Bool.noConfusion minus, by exact_mod_cast high⟩
    | true =>
      rw [negative, signFactor, if_pos rfl, neg_one_mul, neg_le_neg_iff] at low
      have bound : numeral literal.whole ≤ 2 ^ 63 := by exact_mod_cast low
      exact ⟨fun _ => bound, bound.trans_lt (by decide)⟩
  refine ⟨_, number_of_whole valid fraction exponent (Nat.le_pred_of_lt small.2), ?_⟩
  rw [value_ofInteger small.1, value]

theorem number_integerLiteral {value : Int} (low : -2 ^ 63 ≤ value) (high : value < 2 ^ 64) :
    (integerLiteral value).number? = some (.integer value) := by
  have digits : numeral (integerLiteral value).whole = value.natAbs := numeral_toDigits _
  have small : value.natAbs ≤ maxSignificand := by
    have greatest : maxSignificand = 2 ^ 64 - 1 := rfl
    omega
  have sign : (integerLiteral value).negative = decide (value < 0) := rfl
  rw [number_of_whole (integerLiteral_valid value) rfl rfl (digits ▸ small), digits, sign, ofInteger]
  by_cases negative : value < 0
  · have kept : 0 < value.natAbs ∧ value.natAbs ≤ Nat.pow 2 63 := by
      have power : Nat.pow 2 63 = 2 ^ 63 := rfl
      omega
    have magnitude : -(value.natAbs : Int) = value := by omega
    rw [decide_eq_true negative, if_neg (by decide), if_pos kept, magnitude]
  · have magnitude : (value.natAbs : Int) = value := by omega
    rw [decide_eq_false negative, if_pos (by decide), magnitude]

end Json

end FixtureHarness
