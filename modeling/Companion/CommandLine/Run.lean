import Companion.CommandLine.Failure
import Companion.CommandLine.Invocation

/-!
Commands at work: each ends with a report or with a failure. What a command needs of a disk is
given to it, so that it runs on a file system as well as on the real one.
-/
set_option autoImplicit false

namespace Companion.CommandLine

open Helper (WriteOutcome WritePolicy)

structure Disk (m : Type → Type) where
  readText : Path → m (Except IoError String)
  write : Path → String → WritePolicy → m (Except IoError WriteOutcome)

def Disk.ofFileSystem : Disk (StateM FileSystem) where
  readText path := return (← get).readText path
  write path text policy := fun files =>
    let (files, result) := Helper.write files path text policy
    (result, files)

def outcomeReport (path : Path) : WriteOutcome → String
  | .created => "created " ++ path.display
  | .overwritten => "overwrote " ++ path.display
  | .skipped => "kept existing " ++ path.display

def languageFor (extension : String) : Except Failure Language :=
  (Language.ofExtension extension).mapError fun error => .ofTexts (generationTexts error)

variable {m : Type → Type} [Monad m]

def descriptorFrom (disk : Disk m) (source : Source) : ExceptT Failure m Descriptor := do
  match source with
  | .given descriptor => return descriptor
  | .document path =>
    let failed (error : Descriptor.DocumentError) : Failure :=
      ⟨"failed to load descriptor " ++ path.display, documentTexts error⟩
    let text ← ExceptT.mk do
      return (← disk.readText path).mapError fun error => failed (.io error)
    ExceptT.mk do return (Descriptor.ofDocument text).mapError failed

def runGenerate (disk : Disk m) (language : Language) (descriptor : Descriptor)
    (policy : WritePolicy) (stdout regions : Bool) : ExceptT Failure m String := do
  let failed (error : GenerationError) : Failure :=
    ⟨"failed to generate helper for " ++ descriptor.className, generationTexts error⟩
  let settings : Helper.Settings := { layout := { regions := regions } }
  let generated {α : Type} (result : Except Descriptor.Error α) : ExceptT Failure m α :=
    ExceptT.mk (return result.mapError fun error => failed (.descriptor error))
  if stdout then
    generated (Generation.sourceText settings language descriptor)
  else
    let (path, text) ← generated (Generation.source settings language descriptor)
    let outcome ← ExceptT.mk do
      return (← disk.write path text policy).mapError fun error => failed (.io error)
    return outcomeReport path outcome

def runPath (input : Path) (language : Language) : Except Failure String :=
  match Helper.sourcePath input language with
  | .ok path => .ok path.display
  | .error error => .error ⟨"cannot derive helper path from " ++ input.display, [error.message]⟩

def Command.run (disk : Disk m) : Command → ExceptT Failure m String
  | .generate source extension force stdout regions => do
    let language ← ExceptT.mk (return languageFor extension)
    let descriptor ← descriptorFrom disk source
    runGenerate disk language descriptor (if force then .overwrite else .ifMissing) stdout regions
  | .path input extension => ExceptT.mk do
    return do runPath input (← languageFor extension)

end Companion.CommandLine
