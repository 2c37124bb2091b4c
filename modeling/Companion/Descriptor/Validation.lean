import Companion.Descriptor.Basic
import Companion.Text.Ascii

/-!
Validation: the checks that a descriptor passes before anything is made from it. The first check
that fails names the error.
-/
set_option autoImplicit false

namespace Companion.Descriptor

open Text (sameIgnoringCase)

def require (condition : Bool) (error : Error) : Except Error Unit :=
  if condition then .ok () else .error error

def checkIdentifier (field : Field) (value : String) : Except Error Unit := do
  require (!value.isEmpty) (.missingField field)
  require (Identifier.isValid value) (.invalidIdentifier field value)

def shadowed? (value : String) : Option Code.Framework :=
  Code.Framework.all.find? fun type => sameIgnoringCase type.name value

-- Inside the helper a name must not hide a framework type that its members use.
def checkFramework (field : Field) (value : String) : Except Error Unit :=
  match shadowed? value with
  | some type => .error (.shadowsFramework field value type)
  | none => .ok ()

-- The property must not be named like another member, in any case.
def checkMember (property member : String) : Except Error Unit :=
  require (!sameIgnoringCase property member) (.memberClash property member)

def checkStorage (property : String) : Storage → Except Error Unit
  | .auto => .ok ()
  | .backingField field => do
    checkIdentifier .backingField field
    checkMember property field

def validate (descriptor : Descriptor) : Except Error Unit := do
  checkIdentifier .className descriptor.className
  checkIdentifier .propertyName descriptor.propertyName
  checkFramework .className descriptor.className
  checkFramework .propertyName descriptor.propertyName
  require (Identifier.isValidNamespace descriptor.namespaceName)
    (.invalidIdentifier .namespaceName descriptor.namespaceName)
  checkStorage descriptor.propertyName descriptor.storage
  let helperClass ← descriptor.helperClassName
  checkMember descriptor.propertyName helperClass
  checkMember descriptor.propertyName Helper.loadMethod
  checkMember descriptor.propertyName Helper.saveMethod

end Companion.Descriptor
