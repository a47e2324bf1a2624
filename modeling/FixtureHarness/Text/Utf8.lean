/-! # UTF-8 as a machine over bytes

The decoder reads one byte at a time and keeps what the character it is inside of still needs. A
byte that cannot continue that character ends an invalid part and is then read as a first byte, so
each maximal invalid part counts once and no byte after it is lost.
-/

namespace FixtureHarness.Utf8

/-- What the decoder has read of the present character. -/
inductive State where
  /-- The next byte begins a character. -/
  | ready
  /-- `missing` bytes are still to come, and the next one has to lie between the two bounds. -/
  | pending (missing code : Nat) (low high : UInt8)
  deriving DecidableEq, Repr

/-- A character, or `none` for a maximal sequence of bytes that belongs to no character. -/
abbrev Part := Option Char

/-- Reads a byte that begins a character. -/
def lead (byte : UInt8) : List Part × State :=
  if byte < 0x80 then ([some (Char.ofNat byte.toNat)], .ready)
  else if byte < 0xC2 then ([none], .ready)
  else if byte < 0xE0 then ([], .pending 1 (byte.toNat - 0xC0) 0x80 0xBF)
  else if byte = 0xE0 then ([], .pending 2 0 0xA0 0xBF)
  else if byte = 0xED then ([], .pending 2 0xD 0x80 0x9F)
  else if byte < 0xF0 then ([], .pending 2 (byte.toNat - 0xE0) 0x80 0xBF)
  else if byte = 0xF0 then ([], .pending 3 0 0x90 0xBF)
  else if byte < 0xF4 then ([], .pending 3 (byte.toNat - 0xF0) 0x80 0xBF)
  else if byte = 0xF4 then ([], .pending 3 4 0x80 0x8F)
  else ([none], .ready)

/-- Reads the next byte, giving the parts that it completes. -/
def step : State → UInt8 → List Part × State
  | .ready, byte => lead byte
  | .pending missing code low high, byte =>
    if low ≤ byte ∧ byte ≤ high then
      let code := code * 64 + (byte.toNat - 0x80)
      if missing ≤ 1 then ([some (Char.ofNat code)], .ready)
      else ([], .pending (missing - 1) code 0x80 0xBF)
    else
      let next := lead byte
      (none :: next.1, next.2)

/-- The parts of a byte sequence that is read from a given state. -/
def partsFrom : State → List UInt8 → List Part
  | .ready, [] => []
  | .pending .., [] => [none]
  | state, byte :: rest =>
    let next := step state byte
    next.1 ++ partsFrom next.2 rest

/-- The characters and invalid parts of a byte sequence, in order. -/
def parts (bytes : List UInt8) : List Part :=
  partsFrom .ready bytes

/-- The character that stands for an invalid part. -/
def replacement : Char := '\uFFFD'

/-- Decodes any bytes, with one replacement character for each invalid part. -/
def decodeLossy (bytes : List UInt8) : List Char :=
  (parts bytes).map (·.getD replacement)

/-- Decodes bytes that have no invalid part. -/
def decode? (bytes : List UInt8) : Option (List Char) :=
  (parts bytes).mapM id

/-- The bytes of a text. -/
def bytesOf (text : String) : List UInt8 :=
  text.toUTF8.data.toList

/-- The order of texts by their bytes. -/
def before (left right : String) : Bool :=
  decide (bytesOf left < bytesOf right)

end FixtureHarness.Utf8
