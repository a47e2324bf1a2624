/-! # White space

The characters that Unicode counts as white space, and trimming by them.
-/

namespace FixtureHarness.Text

/-- Unicode's `White_Space` property. -/
def isBlank (char : Char) : Bool :=
  let code := char.toNat
  (9 ≤ code && code ≤ 13) || code = 0x20 || code = 0x85 || code = 0xA0 || code = 0x1680 ||
    (0x2000 ≤ code && code ≤ 0x200A) || code = 0x2028 || code = 0x2029 || code = 0x202F ||
    code = 0x205F || code = 0x3000

/-- A text without the white space at its beginning. -/
def trimStart (text : List Char) : List Char :=
  text.dropWhile isBlank

/-- A text without the white space at its two ends. -/
def trim (text : List Char) : List Char :=
  (trimStart (trimStart text).reverse).reverse

end FixtureHarness.Text
