import FixtureHarness.Text.Utf8

/-! # Texts of octets

Programs pass and print bytes that need not be text in any encoding. Such a text keeps each byte as
the character with the byte's number, so that ASCII texts look like themselves.
-/

namespace FixtureHarness

/-- A text whose characters stand for bytes. -/
abbrev Octets := List Char

namespace Octets

/-- The octets of some bytes. -/
def ofBytes (bytes : List UInt8) : Octets :=
  bytes.map fun byte => Char.ofNat byte.toNat

/-- The bytes that octets stand for. -/
def toBytes (octets : Octets) : List UInt8 :=
  octets.map fun octet => octet.toNat.toUInt8

/-- The octets of a text in UTF-8. -/
def ofString (text : String) : Octets :=
  ofBytes (Utf8.bytesOf text)

/-- The text that octets encode in UTF-8, with one replacement character for each invalid part. -/
def text (octets : Octets) : String :=
  String.ofList (Utf8.decodeLossy (toBytes octets))

theorem toBytes_ofBytes (bytes : List UInt8) : toBytes (ofBytes bytes) = bytes := by
  have byteBack (byte : UInt8) : (Char.ofNat byte.toNat).toNat.toUInt8 = byte := by
    have small : byte.toNat < 256 := byte.toNat_lt
    have valid : byte.toNat.isValidChar := Or.inl (by omega)
    have kept : (Char.ofNat byte.toNat).toNat = byte.toNat := by
      rw [Char.ofNat, dif_pos valid]
      rfl
    simp [kept]
  simp [toBytes, ofBytes, Function.comp_def, byteBack]

end Octets

end FixtureHarness
