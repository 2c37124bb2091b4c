import Companion.Code.Basic
import Companion.Helper.Names

/-!
Descriptors: what is known of the class that a helper wraps, and what can be wrong with it.
-/
set_option autoImplicit false

namespace Companion

inductive Storage
  | auto
  | backingField (name : String)
deriving DecidableEq

inductive SchemaKind
  | plainClass
  | dataSet
deriving DecidableEq

def SchemaKind.word : SchemaKind → String
  | .plainClass => "class"
  | .dataSet => "dataset"

structure Descriptor where
  -- The namespace of the class, with dots; empty for none.
  namespaceName : String := ""
  className : String
  propertyName : String
  storage : Storage := .auto
  inputFile : Path
  kind : SchemaKind := .plainClass
deriving DecidableEq

namespace Descriptor

inductive Field
  | className
  | propertyName
  | namespaceName
  | backingField
deriving DecidableEq

def Field.label : Field → String
  | .className => "class_name"
  | .propertyName => "helper_property_name"
  | .namespaceName => "namespace"
  | .backingField => "backing_field"

inductive Error
  | missingField (field : Field)
  | invalidIdentifier (field : Field) (value : String)
  | noFileStem (path : Path)
  | shadowsFramework (field : Field) (value : String) (framework : Code.Framework)
  | memberClash (name member : String)
deriving DecidableEq

def Error.message : Error → String
  | .missingField field => "descriptor field '" ++ field.label ++ "' is empty"
  | .invalidIdentifier field value =>
    "descriptor field '" ++ field.label ++ "' has invalid identifier '" ++ value ++ "'"
  | .noFileStem path => "input file '" ++ path.display ++ "' has no file stem"
  | .shadowsFramework field value framework =>
    "descriptor field '" ++ field.label ++ "' value '" ++ value
      ++ "' shadows framework type '" ++ framework.name ++ "'"
  | .memberClash name member =>
    "property name '" ++ name ++ "' clashes with generated member '" ++ member ++ "'"

def helperClassName (descriptor : Descriptor) : Except Error String :=
  match Helper.className? descriptor.inputFile with
  | some name => .ok name
  | none => .error (.noFileStem descriptor.inputFile)

def inputFileName (descriptor : Descriptor) : String :=
  match descriptor.inputFile.fileName? with
  | some name => Utf8.decodeReplacing name
  | none => ""

def instanceParameterName (descriptor : Descriptor) : String :=
  Identifier.lowerFirst descriptor.propertyName

end Descriptor
end Companion
