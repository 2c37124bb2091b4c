import Companion.Execution.Frame
import Companion.Xml.Document

/-!
The class library: what its types do when a helper class creates them or calls their methods.
-/
set_option autoImplicit false

namespace Companion.Framework

open Code (TypeRef)

def serialized (root : String) : Value → Except Fault (Option Xml.Element)
  | .null => .ok none
  | .object element =>
    if element.name = root then .ok (some element) else .error (.invalidCast element.name root)
  | other => .error (.invalidCast other.typeName root)

def createDirectories (path : Path) : Exec Unit :=
  Exec.onStreams fun streams =>
    let (files, result) := streams.files.createDirectories path
    ({ streams with files }, result.mapError .io)

def deserialized (root text : String) : Except Fault Value :=
  match Xml.Document.read root text with
  | .ok none => .ok .null
  | .ok (some element) => .ok (.object element)
  | .error error => .error (.ofReadError error)

def invoke (target : Value) (method : String) (arguments : List Value) : Exec Value := do
  match target, method, arguments with
  | .type (.framework .file), "OpenRead", [.text path] =>
    return .stream (← Exec.onStreams (·.openRead (.ofString path)))
  | .type (.framework .file), "Create", [.text path] =>
    return .stream (← Exec.onStreams (·.create (.ofString path)))
  | .type (.framework .directory), "CreateDirectory", [.text path] =>
    createDirectories (.ofString path)
    return .null
  | .stream id, "Flush", [] =>
    Exec.onStreams (·.flush id)
    return .null
  | .stream id, "Dispose", [] =>
    Exec.onStreams (·.release id)
    return .null
  | .serializer root, "Serialize", [.stream id, object] =>
    let element ← Exec.ofExcept (serialized root object)
    Exec.onStreams (·.write id (Utf8.encode (Xml.Document.text root element)))
    return .null
  | .serializer root, "Deserialize", [.stream id] =>
    let text ← Exec.onStreams (·.readText id)
    Exec.ofExcept (deserialized root text)
  | _, _, _ => Exec.raise (Frame.noSuchCall (target.typeName ++ "." ++ method) arguments)

def create (type : TypeRef) (arguments : List Value) : Except Fault Value :=
  match type, arguments with
  | .framework .xmlSerializer, [.type (.named root)] => .ok (.serializer root)
  | .framework .fileInfo, [.text path] => .ok (.fileInfo (.ofString path))
  | .framework .fileInfo, [.null] => .error (.nullReference "FileInfo")
  | _, _ => .error (.unsupported ("new " ++ type.label))

-- The directory of a file; the current one if its path names none.
def directoryName (path : Path) : String :=
  match path.parent? with
  | some parent => if parent.bytes.isEmpty then "." else parent.display
  | none => "."

def property (target : Value) (name : String) : Except Fault Value :=
  match target, name with
  | .fileInfo path, "DirectoryName" => .ok (.text (directoryName path))
  | .null, _ => .error (.nullReference name)
  | other, _ => .error (.missingMember (other.typeName ++ "." ++ name))

end Companion.Framework
