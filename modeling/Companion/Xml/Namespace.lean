import Companion.Text.Cut
import Companion.Text.Utf8
import Companion.Xml.Attribute

/-!
Namespaces: the prefixes that tags bind to addresses, and the scopes in which they are bound. Two
prefixes and two addresses are reserved, and a tag that binds one of them is refused. Main
statement: the last binding of a prefix in the innermost tag that binds it is the one that holds.
-/
set_option autoImplicit false

namespace Companion.Xml

structure Binding where
  name : List Char
  address : List Char
deriving DecidableEq

namespace Binding

def base : String := "http://www.w3.org/"

def xmlUri : String := base ++ "XML/1998/namespace"

def xmlnsUri : String := base ++ "2000/xmlns/"

-- A byte as it is shown: as it is, or as a number if it would not show.
def shownByte (byte : UInt8) : String :=
  let value := byte.toNat
  if value = 34 then "\\\""
  else if 32 ≤ value ∧ value ≤ 126 then String.singleton (Char.ofNat value)
  else "0x" ++ String.ofList ((Nat.toDigits 16 value).map Char.toUpper)

def shown (text : List Char) : String :=
  "\"" ++ String.join ((Utf8.encode (String.ofList text)).map shownByte) ++ "\""

def prefixOf? (key : List Char) : Option (List Char) :=
  match key with
  | 'x' :: 'm' :: 'l' :: 'n' :: 's' :: ':' :: name => some name
  | _ => none

def error? (binding : Binding) : Option NamespaceError :=
  let uri := String.ofList binding.address
  if binding.name = "xml".toList then
    if uri = xmlUri then none else some (.reservedPrefix "xml" (shown binding.address))
  else if binding.name = "xmlns".toList then
    some (.reservedPrefix "xmlns" (shown binding.address))
  else if uri = xmlUri ∨ uri = xmlnsUri then some (.reservedUri (shown binding.name) uri)
  else none

def ofAttribute? (found : Attribute) : Option Binding :=
  (prefixOf? found.key).map fun name => ⟨name, found.value⟩

-- The bindings of attributes, the last one first, after those that were read before. What follows
-- an erroneous attribute is not seen.
def ofItems (before : List Binding) : List Attribute.Item → Except NamespaceError (List Binding)
  | [] | .error _ :: _ => .ok before
  | .ok found :: rest =>
    match ofAttribute? found with
    | none => ofItems before rest
    | some binding =>
      match binding.error? with
      | some error => .error error
      | none => ofItems (binding :: before) rest

def ofTag (content : List Char) : Except NamespaceError (List Binding) :=
  ofItems [] (Attribute.ofTag false content)

end Binding

abbrev Scope := List (List Binding)

namespace Scope

def address? (scope : Scope) (name : List Char) : Option (List Char) :=
  (scope.flatten.find? fun binding => binding.name = name).map Binding.address

theorem address?_cons_cons (scope : Scope) (binding : Binding) (bindings : List Binding)
    (name : List Char) :
    address? ((binding :: bindings) :: scope) name =
      if binding.name = name then some binding.address
      else address? (bindings :: scope) name := by
  by_cases same : binding.name = name <;> simp [address?, same]

theorem address?_nil_cons (scope : Scope) (name : List Char) :
    address? ([] :: scope) name = address? scope name := rfl

def instanceUri : String := Binding.base ++ "2001/XMLSchema-instance"

-- Whether an attribute says that its element stands for no value. Without a prefix, or with an
-- empty one, an attribute has no address.
def isNil (scope : Scope) (found : Attribute) : Bool :=
  match Text.cutAt? [':'] found.key with
  | none | some ([], _) => false
  | some (name, localName) =>
    localName = "nil".toList && scope.address? name = some instanceUri.toList &&
      (found.value = "true".toList || found.value = "1".toList)

def tagIsNil (scope : Scope) (content : List Char) : Bool :=
  (Attribute.ofTag true content).any fun
    | .ok found => scope.isNil found
    | .error _ => false

end Scope
end Companion.Xml
