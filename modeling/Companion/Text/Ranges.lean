/-!
Sets of code points, given as closed intervals in increasing order.
-/
set_option autoImplicit false

namespace Companion.Text

-- Closed intervals of code points, in increasing order and apart from each other.
abbrev Ranges := List (Nat × Nat)

-- The search stops at the first interval that begins above the code point.
def Ranges.contains : Ranges → Nat → Bool
  | [], _ => false
  | (first, last) :: rest, code =>
    if code < first then false
    else if code ≤ last then true
    else Ranges.contains rest code

end Companion.Text
