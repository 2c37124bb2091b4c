import Companion.CommandLine.Program

/-!
The program: its arguments run on the real disk.
-/
set_option autoImplicit false

namespace Companion.Main

def ioError : IO.Error → IoError
  | .noFileOrDirectory .. => .notFound
  | .alreadyExists .. => .alreadyExists
  | .inappropriateType .. => .isADirectory
  | error => ⟨.other "Other", error.toString⟩

def attempt {α : Type} (action : IO α) : IO (Except IoError α) := do
  match ← action.toBaseIO with
  | .ok value => return .ok value
  | .error error => return .error (ioError error)

def isPresent (path : Path) : IO Bool := do
  match ← attempt (IO.FS.Handle.mk path.display .read) with
  | .ok _ => return true
  | .error _ => return false

def disk : CommandLine.Disk IO where
  readText path := do
    match ← attempt (IO.FS.readBinFile path.display) with
    | .ok bytes => return FileSystem.asText bytes.toList
    | .error error => return .error error
  write path text policy := do
    let present ← isPresent path
    if present && policy = .ifMissing then return .ok .skipped
    attempt do
      if let some parent := path.parent? then
        if !parent.bytes.isEmpty then IO.FS.createDirAll parent.display
      IO.FS.writeFile path.display text
      return if present then .overwritten else .created

end Companion.Main

def main (arguments : List String) : IO UInt32 := do
  let exit ← Companion.CommandLine.program Companion.Main.disk arguments
  (← IO.getStdout).putStr exit.stdout
  (← IO.getStderr).putStr exit.stderr
  return exit.code
