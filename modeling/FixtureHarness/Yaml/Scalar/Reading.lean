import FixtureHarness.Number.Shortest
import FixtureHarness.Text.Quoted
import FixtureHarness.Yaml.Token

/-! # What scalars stand for

A plain scalar may stand for nothing, a truth value or a number; a tag may ask for one of these. The
rules serve to name a scalar that does not fit, since every scalar can be taken as its text.
-/

namespace FixtureHarness.Yaml

/-- What a scalar stands for. -/
inductive Reading where
  | unit
  | boolean (value : Bool)
  | integer (value : Int)
  | float (value : Binary64)
  | infinity (negative : Bool)
  | notANumber
  | text
  deriving DecidableEq, Repr

namespace Reading

/-! ## Words -/

/-- Whether a text stands for nothing. -/
def isNull (text : String) : Bool :=
  ["null", "Null", "NULL", "~"].contains text

/-- The truth value that a text stands for. -/
def boolean? (text : String) : Option Bool :=
  if ["true", "True", "TRUE"].contains text then some true
  else if ["false", "False", "FALSE"].contains text then some false
  else none

/-! ## Integers -/

/-- The value of a digit in a base. -/
def digit? (base : Nat) (char : Char) : Option Nat :=
  let value :=
    if '0' ≤ char ∧ char ≤ '9' then char.toNat - 0x30
    else if 'a' ≤ char ∧ char ≤ 'z' then char.toNat - 0x61 + 10
    else if 'A' ≤ char ∧ char ≤ 'Z' then char.toNat - 0x41 + 10
    else base
  if value < base then some value else none

/-- The number that one digit or more stand for. -/
def natural? (base : Nat) (digits : List Char) : Option Nat :=
  if digits.isEmpty then none
  else digits.foldlM (fun value char => (digit? base char).map (value * base + ·)) 0

/-- Whether a text is a zero with further digits behind it, which is no number. -/
def isPaddedNumber (text : List Char) : Bool :=
  let digits := if text.head? = some '-' || text.head? = some '+' then text.drop 1 else text
  2 ≤ digits.length && digits.head? = some '0' && digits.all Char.isDigit

/-- The magnitude of a number in one of the bases that a letter announces. -/
def announced? : List Char → Option Nat
  | '0' :: 'x' :: digits => natural? 16 digits
  | '0' :: 'o' :: digits => natural? 8 digits
  | '0' :: 'b' :: digits => natural? 2 digits
  | _ => none

/-- The magnitude of a number without its sign. -/
def magnitude? (text : List Char) : Option Nat :=
  (announced? text).or (if isPaddedNumber text then none else natural? 10 text)

/-- The integer that a text stands for, if 128 bits can hold it. -/
def integer? (text : List Char) : Option Int :=
  match text with
  | '-' :: rest =>
    match magnitude? rest with
    | some value => if value ≤ Nat.pow 2 127 then some (-(value : Int)) else none
    | none => none
  | '+' :: rest =>
    match magnitude? rest with
    | some value => if value < Nat.pow 2 128 then some value else none
    | none => none
  | _ =>
    match magnitude? text with
    | some value => if value < Nat.pow 2 128 then some value else none
    | none => none

/-! ## Floating-point numbers -/

/-- The exponent that a text of digits stands for. No number needs more than this. -/
def exponentLimit : Nat := 100000

/-- The exponent at the end of a number, which may be missing. -/
def exponent? : List Char → Option Int
  | [] => some 0
  | mark :: rest =>
    if mark = 'e' || mark = 'E' then
      match rest with
      | '-' :: digits => (natural? 10 digits).map fun value => -(min value exponentLimit : Nat)
      | '+' :: digits => (natural? 10 digits).map fun value => (min value exponentLimit : Nat)
      | digits => (natural? 10 digits).map fun value => (min value exponentLimit : Nat)
    else none

/-- The number that digits with an exponent stand for, if it is finite. Exponents far outside the
range are settled without computing the power. -/
def scaled? (digits : List Char) (exponent : Int) : Option Magnitude :=
  let significand := (natural? 10 digits).getD 0
  let top := exponent + digits.length
  if significand = 0 || top < -400 then some .zero
  else if 400 + (digits.length : Int) < top then none
  else Magnitude.nearestDecimal? significand exponent

/-- The number that digits with a point and an exponent stand for. -/
def unsigned? (text : List Char) : Option Magnitude :=
  let whole := text.takeWhile Char.isDigit
  let behind := text.drop whole.length
  let places :=
    if behind.head? = some '.' then (behind.drop 1).takeWhile Char.isDigit else []
  let tail := if behind.head? = some '.' then behind.drop (places.length + 1) else behind
  if whole.isEmpty && places.isEmpty then none
  else
    match exponent? tail with
    | some exponent => scaled? (whole ++ places) (exponent - places.length)
    | none => none

/-- The floating-point number that a text stands for. -/
def float? (text : List Char) : Option Reading :=
  let positive := if text.head? = some '+' then text.drop 1 else text
  let string := String.ofList positive
  if text.head? = some '+' && (positive.head? = some '+' || positive.head? = some '-') then none
  else if [".inf", ".Inf", ".INF"].contains string then some (.infinity false)
  else if ["-.inf", "-.Inf", "-.INF"].contains (String.ofList text) then some (.infinity true)
  else if [".nan", ".NaN", ".NAN"].contains (String.ofList text) then some .notANumber
  else
    match positive with
    | '-' :: rest => (unsigned? rest).map fun magnitude => .float ⟨true, magnitude⟩
    | _ => (unsigned? positive).map fun magnitude => .float ⟨false, magnitude⟩

/-! ## Scalars -/

/-- What a plain scalar without a tag stands for. -/
def ofPlain (text : List Char) : Reading :=
  let string := String.ofList text
  if text.isEmpty || isNull string then unit
  else
    match boolean? string, integer? text with
    | some value, _ => boolean value
    | none, some value => integer value
    | none, none => if isPaddedNumber text then .text else (float? text).getD .text

/-- What a tag asks of a scalar. -/
inductive Demand where
  | boolean
  | integer
  | float
  | null
  deriving DecidableEq, Repr

/-- What a tag asks for. -/
def Demand.ofTag? (tag : List Char) : Option Demand :=
  match String.ofList tag with
  | "tag:yaml.org,2002:bool" => some boolean
  | "tag:yaml.org,2002:int" => some integer
  | "tag:yaml.org,2002:float" => some float
  | "tag:yaml.org,2002:null" => some null
  | _ => none

/-- What a scalar stands for that a tag asks something of. -/
def demanded? (demand : Demand) (text : List Char) : Option Reading :=
  match demand with
  | .boolean => (boolean? (String.ofList text)).map boolean
  | .integer => (integer? text).map integer
  | .float => float? text
  | .null => if isNull (String.ofList text) then some unit else none

/-- The name of what a tag asks for. -/
def Demand.name : Demand → String
  | boolean => "a boolean"
  | integer => "an integer"
  | float => "a float"
  | null => "null"

/-- The text of an integer; one that 64 bits cannot hold is marked as such. -/
def integerText (value : Int) : String :=
  if Int.pow 2 64 ≤ value then s!"integer `{value}` as u128"
  else if value < -Int.pow 2 63 then s!"integer `{value}` as i128"
  else s!"integer `{value}`"

/-- What a reading is called where it does not fit. -/
def describe (text : List Char) : Reading → String
  | unit => "unit value"
  | boolean value => s!"boolean `{value}`"
  | integer value => integerText value
  | float value => s!"floating point `{String.ofList value.full}`"
  | infinity negative => if negative then "floating point `-inf`" else "floating point `inf`"
  | notANumber => "floating point `NaN`"
  | .text => s!"string {Text.quoted (String.ofList text)}"

end Reading

/-- The complaint about a scalar that is not what was expected. -/
def scalarMismatch (tag? : Option (List Char)) (text : List Char) (style : ScalarStyle)
    (expected : String) : String :=
  let wrong (reading : Reading) := s!"invalid type: {reading.describe text}, expected {expected}"
  match tag?, tag?.bind Reading.Demand.ofTag? with
  | _, some demand =>
    match Reading.demanded? demand text with
    | some reading => wrong reading
    | none =>
      s!"invalid value: string {Text.quoted (String.ofList text)}, expected {demand.name}"
  | some tag, none =>
    wrong (if tag.head? = some '!' && style = .plain then .ofPlain text else .text)
  | none, none => wrong (if style = .plain then .ofPlain text else .text)

end FixtureHarness.Yaml
