import Companion.Descriptor.Document.Fields
import Companion.FileSystem.Operations

/-!
Descriptor documents: descriptors as the fields of the root of an XML document. Other elements,
text in the root and what follows it say nothing about the descriptor, but the document is read
up to the end of the root, and errors up to there count.
-/
set_option autoImplicit false

namespace Companion.Descriptor

namespace Document

def kindOf : Option String → Except DocumentError SchemaKind
  | none => .ok .plainClass
  | some word =>
    match [SchemaKind.plainClass, SchemaKind.dataSet].find? fun kind => kind.word = word with
    | some kind => .ok kind
    | none => .error (.unknownKind word)

-- The descriptor with the given fields; those that are missing are empty.
def describe (entries : Entries) (kind : SchemaKind) : Descriptor where
  namespaceName := (entries.value? .namespaceName).getD ""
  className := (entries.value? .className).getD ""
  propertyName := (entries.value? .propertyName).getD ""
  storage :=
    match entries.value? .backingField with
    | some field => .backingField field
    | none => .auto
  inputFile := .ofString ((entries.value? .inputFile).getD "")
  kind := kind

end Document

def ofDocument (text : String) : Except DocumentError Descriptor := do
  let entries ← (Document.read text).mapError .form
  let kind ← Document.kindOf (entries.value? .kind)
  let descriptor := Document.describe entries kind
  descriptor.validate.mapError .invalid
  return descriptor

def load (files : FileSystem) (path : Path) : Except DocumentError Descriptor := do
  ofDocument (← (files.readText path).mapError .io)

end Companion.Descriptor
