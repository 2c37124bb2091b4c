import Companion.Descriptor.Validation
import Companion.FileSystem.Error
import Companion.Text.Quoted
import Companion.Xml.Namespace

/-!
The fields of descriptor documents, and what can be wrong with a document.
-/
set_option autoImplicit false

namespace Companion.Descriptor

inductive Key
  | namespaceName
  | className
  | propertyName
  | backingField
  | inputFile
  | kind
deriving DecidableEq

namespace Key

def all : List Key := [.namespaceName, .className, .propertyName, .backingField, .inputFile, .kind]

def name : Key → String
  | .namespaceName => "namespace"
  | .className => "className"
  | .propertyName => "propertyName"
  | .backingField => "backingField"
  | .inputFile => "inputFile"
  | .kind => "kind"

-- The fields of which an element may say that they have no value.
def isOptional (key : Key) : Bool := key = .backingField ∨ key = .kind

end Key

inductive FormError
  | xml (error : Xml.Error)
  | textInstead (text : String)
  | ended
  | unexpectedStart (name : List Char)
  | duplicate (key : Key)
deriving DecidableEq

def FormError.message : FormError → String
  | .xml error => error.message
  | .textInstead text =>
    "invalid type: string " ++ Text.quote text ++ ", expected struct DescriptorDocument"
  | .ended => "unexpected `Event::Eof`"
  | .unexpectedStart name => "unexpected `Event::Start(" ++ Xml.Binding.shown name ++ ")`"
  | .duplicate key => "duplicate field `@" ++ key.name ++ "`"

inductive DocumentError
  | form (error : FormError)
  | unknownKind (word : String)
  | io (error : IoError)
  | invalid (error : Descriptor.Error)
deriving DecidableEq

def DocumentError.message : DocumentError → String
  | .form error => "descriptor document error: " ++ error.message
  | .unknownKind word => "unknown generated kind '" ++ word ++ "'"
  | .io error => "IO error: " ++ error.text
  | .invalid error => error.message

end Companion.Descriptor
