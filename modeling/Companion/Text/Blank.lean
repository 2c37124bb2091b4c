import Companion.Text.Ranges

/-!
Blanks: the characters with the Unicode property White_Space, and text without them at its end.
-/
set_option autoImplicit false

namespace Companion.Text

-- The code points with the property White_Space.
def blankRanges : Ranges := [
  (0x9, 0xD), (0x20, 0x20), (0x85, 0x85), (0xA0, 0xA0), (0x1680, 0x1680), (0x2000, 0x200A),
  (0x2028, 0x2029), (0x202F, 0x202F), (0x205F, 0x205F), (0x3000, 0x3000)]

def isBlank (c : Char) : Bool := blankRanges.contains c.toNat

def dropTrailingBlanks (chars : List Char) : List Char :=
  (chars.reverse.dropWhile isBlank).reverse

def trimEnd (text : String) : String := String.ofList (dropTrailingBlanks text.toList)

end Companion.Text
