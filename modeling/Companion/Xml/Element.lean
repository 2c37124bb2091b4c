/-!
Elements: a name with either text or further elements inside.
-/
set_option autoImplicit false

namespace Companion.Xml

inductive Element
  | text (name content : String)
  | node (name : String) (children : List Element)

namespace Element

instance : Inhabited Element := ⟨.node "" []⟩

mutual
def decEq : (first second : Element) → Decidable (first = second)
  | .text name content, .text other more =>
    decidable_of_iff (name = other ∧ content = more) (by simp)
  | .node name children, .node other more =>
    have := decEqAll children more
    decidable_of_iff (name = other ∧ children = more) (by simp)
  | .text _ _, .node _ _ => isFalse (by simp)
  | .node _ _, .text _ _ => isFalse (by simp)
def decEqAll : (first second : List Element) → Decidable (first = second)
  | [], [] => isTrue rfl
  | first :: rest, second :: more =>
    have := decEq first second
    have := decEqAll rest more
    decidable_of_iff (first = second ∧ rest = more) (by simp)
  | [], _ :: _ => isFalse (by simp)
  | _ :: _, [] => isFalse (by simp)
end

instance : DecidableEq Element := decEq

def name : Element → String
  | .text name _ => name
  | .node name _ => name

def child? (element : Element) (name : String) : Option Element :=
  match element with
  | .text _ _ => none
  | .node _ children => children.find? fun child => child.name = name

def renamed (name : String) : Element → Element
  | .text _ content => .text name content
  | .node _ children => .node name children

end Element
end Companion.Xml
