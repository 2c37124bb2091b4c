import Companion.Identifier
import Companion.Path

/-!
Names in and of helper classes: the fixed ones, and those made from the path of a schema.
-/
set_option autoImplicit false

namespace Companion.Helper

def nameEnding : String := "_HelperClass"

def loadMethod : String := "LoadXmlFile"

def saveMethod : String := "SaveXMLFile"

def filePathParam : String := "FilePath"

-- The file name of the schema without its extension, if it is text and not empty.
def schemaStem? (schema : Path) : Option String :=
  match schema.fileStem?.bind Utf8.decode? with
  | some stem => if stem.isEmpty then none else some stem
  | none => none

def className? (schema : Path) : Option String :=
  (schemaStem? schema).map fun stem => Identifier.sanitize stem ++ nameEnding

def fileStem? (schema : Path) : Option String :=
  (schemaStem? schema).map fun stem => stem ++ nameEnding

end Companion.Helper
