import Companion.Code.Class
import Companion.Descriptor.Validation
import Companion.Helper.Comments
import Companion.Helper.Settings

/-!
Helper classes: three constructors, a property that holds the wrapped object, and the methods
that load it from a file and save it. Both methods release their stream on every way out and pass
every fault on as it is.
-/
set_option autoImplicit false

namespace Companion.Helper

open Code

def imports : List String := ["System", "System.IO", "System.Xml.Serialization"]

def resultVariable : String := "retObj"

def streamVariable : String := "streamObj"

def serializerVariable : String := "serializer"

def wrapped (descriptor : Descriptor) : TypeRef := .named descriptor.className

def heldObject (descriptor : Descriptor) : Expr := .property .this descriptor.propertyName

def filePath : Param := ⟨filePathParam, .string⟩

def stream : Expr := .variable streamVariable

def declareStream : Statement := .declare (.framework .stream) streamVariable (some .null)

def declareSerializer (descriptor : Descriptor) : Statement :=
  .declare (.framework .xmlSerializer) serializerVariable
    (some (.create (.framework .xmlSerializer) [.typeOf (wrapped descriptor)]))

def releaseStream : Statement :=
  .branch (.compare stream .different .null) [.evaluate (.invoke stream "Dispose" [])] []

-- Runs the body and releases the stream on every way out; a fault is raised again unchanged.
def guarded (body : Block) : Statement :=
  .attempt body [⟨.framework .exception, none, [.rethrow]⟩] [releaseStream]

def emptyConstructor (source : CommentSource) (placeholder : String) : Constructor where
  doc := source.emptyConstructorDoc
  params := []
  body := [.comment placeholder]

def fileConstructor (source : CommentSource) : Constructor where
  doc := source.fileConstructorDoc
  params := [filePath]
  body := [.assign (heldObject source.descriptor)
    (.invoke .this loadMethod [.variable filePathParam])]

def instanceConstructor (source : CommentSource) : Constructor where
  doc := source.instanceConstructorDoc
  params := [⟨source.descriptor.instanceParameterName, wrapped source.descriptor⟩]
  body := [.assign (heldObject source.descriptor)
    (.variable source.descriptor.instanceParameterName)]

def accessors : Storage → Accessors
  | .auto => .auto
  | .backingField field => .explicit
    [.leave (some (.property .this field))]
    [.assign (.property .this field) .incoming]

def forwardingProperty (source : CommentSource) : Property where
  doc := source.propertyDoc
  name := source.descriptor.propertyName
  type := wrapped source.descriptor
  accessors := accessors source.descriptor.storage

def openFile : Statement :=
  .assign stream (.invoke (.type (.framework .file)) "OpenRead" [.variable filePathParam])

def deserialize (descriptor : Descriptor) : Statement :=
  .assign (.variable resultVariable)
    (.cast (wrapped descriptor) (.invoke (.variable serializerVariable) "Deserialize" [stream]))

def load (source : CommentSource) : Method where
  doc := source.loadDoc
  name := loadMethod
  params := [filePath]
  returns := wrapped source.descriptor
  body := [
    .declare (wrapped source.descriptor) resultVariable (some .null),
    declareStream,
    guarded [openFile, declareSerializer source.descriptor, deserialize source.descriptor],
    .leave (some (.variable resultVariable))]

def directoryName : Expr :=
  .property (.create (.framework .fileInfo) [.variable filePathParam]) "DirectoryName"

def createDirectory : Statement :=
  .evaluate (.invoke (.type (.framework .directory)) "CreateDirectory" [directoryName])

def createFile : Statement :=
  .assign stream (.invoke (.type (.framework .file)) "Create" [.variable filePathParam])

def serialize (descriptor : Descriptor) : Statement :=
  .evaluate (.invoke (.variable serializerVariable) "Serialize" [stream, heldObject descriptor])

def flushStream : Statement := .evaluate (.invoke stream "Flush" [])

def save (source : CommentSource) : Method where
  doc := source.saveDoc
  name := saveMethod
  params := [filePath]
  returns := .void
  body := [
    declareStream,
    guarded [
      createDirectory,
      createFile,
      declareSerializer source.descriptor,
      serialize source.descriptor,
      flushStream]]

def helperClass (source : CommentSource) (settings : ContentSettings) : Code.Class where
  name := source.helperClass
  doc := source.classDoc
  regions := [
    ⟨settings.constructorsRegion, [
      .constructor (emptyConstructor source settings.placeholder),
      .constructor (fileConstructor source),
      .constructor (instanceConstructor source)]⟩,
    ⟨settings.propertiesRegion, [.property (forwardingProperty source)]⟩,
    ⟨settings.persistenceRegion, [.method (load source), .method (save source)]⟩]

def build (settings : ContentSettings) (descriptor : Descriptor) :
    Except Descriptor.Error Model := do
  descriptor.validate
  let name ← descriptor.helperClassName
  return {
    banner := settings.bannerLines
    imports := imports
    namespaceName := descriptor.namespaceName
    cls := helperClass ⟨descriptor, name, settings.generatorName⟩ settings }

end Companion.Helper
