/-!
# Blanks

The characters of the Unicode property White_Space, and the trimming of a text at both ends.
-/

namespace SerialLink.Text

/-- The character has the property White_Space. -/
def isBlank (c : Char) : Bool :=
  let n := c.toNat
  (0x09 ≤ n && n ≤ 0x0D) || n == 0x20 || n == 0x85 || n == 0xA0 || n == 0x1680 ||
    (0x2000 ≤ n && n ≤ 0x200A) || n == 0x2028 || n == 0x2029 || n == 0x202F || n == 0x205F ||
    n == 0x3000

/-- A text without the blanks at its ends. -/
def trimmed (text : List Char) : List Char :=
  ((text.dropWhile isBlank).reverse.dropWhile isBlank).reverse

/-- The ASCII capitals as small letters, all else as it is. -/
def lowered (text : List Char) : List Char :=
  text.map Char.toLower

end SerialLink.Text
