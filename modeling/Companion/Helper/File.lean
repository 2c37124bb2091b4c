import Companion.Descriptor.Basic
import Companion.FileSystem.Operations
import Companion.Language

/-!
Files of helper classes: where the file stands and when it is written.
-/
set_option autoImplicit false

namespace Companion.Helper

def sourcePath (schema : Path) (language : Language) : Except Descriptor.Error Path :=
  match fileStem? schema with
  | some stem => .ok (schema.withFileName (Utf8.encode (stem ++ language.extension)))
  | none => .error (.noFileStem schema)

inductive WritePolicy
  | ifMissing
  | overwrite
deriving DecidableEq

inductive WriteOutcome
  | created
  | overwritten
  | skipped
deriving DecidableEq

def createParents (files : FileSystem) (path : Path) : FileSystem × Except IoError Unit :=
  match path.parent? with
  | some parent => files.createDirectories parent
  | none => (files, .ok ())

def write (files : FileSystem) (path : Path) (text : String) (policy : WritePolicy) :
    FileSystem × Except IoError WriteOutcome :=
  let present := files.pathExists path
  if present ∧ policy = .ifMissing then (files, .ok .skipped)
  else
    match createParents files path with
    | (files, .error error) => (files, .error error)
    | (files, .ok ()) =>
      match files.writeFile path (Utf8.encode text) with
      | .error error => (files, .error error)
      | .ok files => (files, .ok (if present then .overwritten else .created))

end Companion.Helper
