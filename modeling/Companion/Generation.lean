import Companion.Descriptor.Document
import Companion.Helper.Build
import Companion.Helper.File
import Companion.Source.File

/-!
Generation: from a descriptor to the text of its helper class, and on to the file that holds it.
-/
set_option autoImplicit false

namespace Companion

open Helper (Settings WritePolicy WriteOutcome)

inductive GenerationError
  | descriptor (error : Descriptor.Error)
  | document (error : Descriptor.DocumentError)
  | io (error : IoError)
  | unsupportedExtension (extension : String)
deriving DecidableEq

def GenerationError.message : GenerationError → String
  | .descriptor error => "invalid descriptor: " ++ error.message
  | .document error => "descriptor document: " ++ error.message
  | .io error => "IO error: " ++ error.text
  | .unsupportedExtension extension => "unsupported output extension '" ++ extension ++ "'"

def Language.ofExtension (extension : String) : Except GenerationError Language :=
  match Language.ofExtension? extension with
  | some language => .ok language
  | none => .error (.unsupportedExtension extension)

namespace Generation

def sourceText (settings : Settings) (language : Language) (descriptor : Descriptor) :
    Except Descriptor.Error String := do
  return Source.fileText language settings.layout (← Helper.build settings.content descriptor)

def source (settings : Settings) (language : Language) (descriptor : Descriptor) :
    Except Descriptor.Error (Path × String) := do
  let text ← sourceText settings language descriptor
  return (← Helper.sourcePath descriptor.inputFile language, text)

def writeSource (files : FileSystem) (settings : Settings) (policy : WritePolicy)
    (language : Language) (descriptor : Descriptor) :
    FileSystem × Except GenerationError (Path × WriteOutcome) :=
  match source settings language descriptor with
  | .error error => (files, .error (.descriptor error))
  | .ok (path, text) =>
    match Helper.write files path text policy with
    | (files, .error error) => (files, .error (.io error))
    | (files, .ok outcome) => (files, .ok (path, outcome))

def writeFromDocument (files : FileSystem) (settings : Settings) (policy : WritePolicy)
    (language : Language) (document : Path) :
    FileSystem × Except GenerationError (Path × WriteOutcome) :=
  match Descriptor.load files document with
  | .error error => (files, .error (.document error))
  | .ok descriptor => writeSource files settings policy language descriptor

end Generation
end Companion
