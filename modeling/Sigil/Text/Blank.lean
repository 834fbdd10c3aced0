import Sigil.Text.Basic

/-! # Blank characters

    The characters with the Unicode property `White_Space`, and trimming by
    them. -/

namespace Sigil

/-- Has the character the property `White_Space`? -/
def isBlank (c : Char) : Bool :=
  let n := c.toNat
  (0x09 ≤ n && n ≤ 0x0D) || n = 0x20 || n = 0x85 || n = 0xA0 || n = 0x1680
    || (0x2000 ≤ n && n ≤ 0x200A) || n = 0x2028 || n = 0x2029 || n = 0x202F
    || n = 0x205F || n = 0x3000

namespace Text

/-- The text from its first character that is not blank. -/
def trimStart (t : Text) : Text :=
  t.dropWhile isBlank

/-- The text up to its last character that is not blank. -/
def trimEnd (t : Text) : Text :=
  (t.reverse.dropWhile isBlank).reverse

/-- The text without blanks at either end. -/
def trim (t : Text) : Text :=
  (t.trimStart).trimEnd

/-- Is the text trimmed: does neither end hold a blank? -/
def IsTrimmed (t : Text) : Prop :=
  t.trim = t

end Text

end Sigil
