import Companion.Code.Basic
import Companion.Path
import Companion.Xml.Element

/-!
Values: what variables and properties hold while a member runs.
-/
set_option autoImplicit false

namespace Companion

abbrev StreamId := Nat

inductive Value
  | null
  | this
  | bool (value : Bool)
  | text (value : String)
  | object (element : Xml.Element)
  | stream (id : StreamId)
  | serializer (root : String)
  | fileInfo (path : Path)
  | type (type : Code.TypeRef)
deriving DecidableEq, Inhabited

namespace Value

def isNull (value : Value) : Bool := value matches .null

def typeName : Value → String
  | .null => "null"
  | .this => "this"
  | .bool _ => "bool"
  | .text _ => "string"
  | .object element => element.name
  | .stream _ => "Stream"
  | .serializer _ => "XmlSerializer"
  | .fileInfo _ => "FileInfo"
  | .type _ => "Type"

-- Whether two values are the same one; objects with the same content are.
def isIdentical : Value → Value → Bool
  | .null, .null => true
  | .this, .this => true
  | .bool first, .bool second => first = second
  | .text first, .text second => first = second
  | .object first, .object second => first = second
  | .stream first, .stream second => first = second
  | _, _ => false

def isAssignableTo (value : Value) : Code.TypeRef → Bool
  | .void => false
  | slot =>
    match value, slot with
    | .null, _ => true
    | .text _, .string => true
    | .object element, .named name => element.name = name
    | .stream _, .framework .stream => true
    | .serializer _, .framework .xmlSerializer => true
    | .fileInfo _, .framework .fileInfo => true
    | _, _ => false

end Value
end Companion
