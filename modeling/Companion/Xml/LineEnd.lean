/-!
Line ends in text: there are five spellings of a line end, and a reader sees each of them as one
line feed. Main statement: no other spelling is left.
-/
set_option autoImplicit false

namespace Companion.Xml

def endsLine (c : Char) : Bool := c = '\r' ∨ c = '\u0085' ∨ c = '\u2028'

def lineFeeds : List Char → List Char
  | '\r' :: '\n' :: rest => '\n' :: lineFeeds rest
  | '\r' :: '\u0085' :: rest => '\n' :: lineFeeds rest
  | c :: rest => (if endsLine c then '\n' else c) :: lineFeeds rest
  | [] => []

theorem endsLine_lineFeeds (text : List Char) : (lineFeeds text).all (!endsLine ·) := by
  fun_induction lineFeeds text with
  | case1 rest ih => simpa [endsLine] using ih
  | case2 rest ih => simpa [endsLine] using ih
  | case3 c rest _ _ ih =>
    rw [List.all_cons, ih, Bool.and_true]
    by_cases line : endsLine c
    · rw [if_pos line]
      rfl
    · simp [line]
  | case4 => rfl

end Companion.Xml
