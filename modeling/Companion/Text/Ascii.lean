/-!
Comparison of names that takes the letters A to Z and a to z for the same and no others.
-/
set_option autoImplicit false

namespace Companion.Text

-- Equality up to the case of the letters A to Z.
def sameIgnoringCase (a b : String) : Bool :=
  a.toList.map Char.toLower = b.toList.map Char.toLower

end Companion.Text
